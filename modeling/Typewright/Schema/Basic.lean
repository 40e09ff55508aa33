import Typewright.Catalogue
import Typewright.Text.LowerCase

/-!
# Schemas

A schema describes resource types and property types by their fields and attributes. A field says what it holds by
one of four shapes: a primitive, a collection of primitives, a collection of a nested type, or a nested type. Beside
a collection `typeName` tells its kind, `List` or `Map`; elsewhere it is the nested type.
-/

namespace Typewright

structure Field where
  required : Bool := false
  primitive : Option String := none
  primitiveItem : Option String := none
  item : Option String := none
  typeName : Option String := none
  documentation : Option String := none
  deriving DecidableEq, Repr, Inhabited

namespace Field

def ofPrimitive (primitive : String) : Field := { primitive := some primitive }

def primitiveList (primitive : String) : Field := { primitiveItem := some primitive, typeName := some "List" }

def primitiveMap (primitive : String) : Field := { primitiveItem := some primitive, typeName := some "Map" }

def listOf (item : String) : Field := { item := some item, typeName := some "List" }

def nested (typeName : String) : Field := { typeName := some typeName }

def withRequired (field : Field) (required : Bool) : Field := { field with required := required }

/-- Whether the collection kind is `Map`, in any mix of cases. -/
def isMap (field : Field) : Bool := field.typeName.any (Text.sameAsciiCase · "map")

/-- How many shapes are set. The collection kind beside an item type is none. -/
def shapeCount (field : Field) : Nat :=
  let collection := field.primitiveItem.isSome || field.item.isSome
  ([field.primitive.isSome, field.primitiveItem.isSome, field.item.isSome,
    field.typeName.isSome && !collection].filter id).length

end Field

/-- An attribute that a resource has once it exists. Its type is advice only: accessors give texts. -/
structure Attribute where
  primitive : Option String := none
  primitiveItem : Option String := none
  typeName : Option String := none
  deriving DecidableEq, Repr, Inhabited

def Attribute.ofPrimitive (primitive : String) : Attribute := { primitive := some primitive }

/-- The description of one type. -/
structure TypeSpec where
  fields : SortedMap Field := .empty
  attributes : SortedMap Attribute := .empty
  documentation : Option String := none
  deriving Inhabited

namespace TypeSpec

def empty : TypeSpec := {}

def withField (spec : TypeSpec) (name : String) (field : Field) : TypeSpec :=
  { spec with fields := spec.fields.insert name field }

def withAttribute (spec : TypeSpec) (name : String) (a : Attribute) : TypeSpec :=
  { spec with attributes := spec.attributes.insert name a }

def withDocumentation (spec : TypeSpec) (documentation : String) : TypeSpec :=
  { spec with documentation := some documentation }

end TypeSpec

abbrev Schema := Catalogue TypeSpec

end Typewright
