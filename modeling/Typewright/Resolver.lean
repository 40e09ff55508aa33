import Typewright.FieldType
import Typewright.Schema.Basic
import Typewright.TypeName

/-!
# Resolving field descriptors

The first shape that a field sets, in the order of `Resolver.resolve`, gives its type. A nested type is looked up
among the declared names: a declared name means itself, and any other name with a separator means nothing. A short
name stands for the declared names that end in it; if there are several, it stands for the only one that has the
owner of the type that uses it.
-/

namespace Typewright

inductive ResolveError where
  | unresolved (name : String)
  | ambiguous (name : String) (candidates : List String)
  | shapeless
  deriving DecidableEq, Repr

def ResolveError.message : ResolveError → String
  | .unresolved name => "unresolved type reference '" ++ name ++ "'"
  | .ambiguous name candidates =>
    "ambiguous type reference '" ++ name ++ "', candidates: " ++ ", ".intercalate candidates
  | .shapeless => "malformed property descriptor"

/-- The declared names, and under every short name those that end in it, in ascending order. -/
structure Resolver where
  known : SortedMap Unit
  byShort : SortedMap (List String)

namespace Resolver

/-- `index` with `name` at the end of the list under its short name. -/
def addShort (index : SortedMap (List String)) (name : String) : SortedMap (List String) :=
  index.insert (TypeName.short name) ((index.find? (TypeName.short name)).getD [] ++ [name])

/-- A resolver over `names`, in any order and with any repetitions. -/
def ofNames (names : List String) : Resolver :=
  let known := SortedMap.ofList (names.map fun name => (name, ()))
  ⟨known, known.keys.foldl addShort .empty⟩

def ofSchema (schema : Schema) : Resolver := ofNames schema.names

def isKnown (r : Resolver) (name : String) : Bool := r.known.contains name

/-- The candidates with the same owner as `consumer`. -/
def affine (consumer : String) (candidates : List String) : List String :=
  candidates.filter fun name => TypeName.owner name == TypeName.owner consumer

/-- The declared name that `requested` means in a field of `consumer`. -/
def lookup (r : Resolver) (requested consumer : String) : Except ResolveError String :=
  if r.isKnown requested then .ok requested
  else if TypeName.isQualified requested then .error (.unresolved requested)
  else
    match (r.byShort.find? requested).getD [] with
    | [] => .error (.unresolved requested)
    | [only] => .ok only
    | candidates =>
      match affine consumer candidates with
      | [unique] => .ok unique
      | _ => .error (.ambiguous requested candidates)

/-- A shape that is set; an empty one is not. -/
def set? (shape : Option String) : Option String := shape.filter (!·.isEmpty)

/-- The type of a field of `consumer`. -/
def resolve (r : Resolver) (field : Field) (consumer : String) : Except ResolveError FieldType :=
  match set? field.primitive, set? field.primitiveItem, set? field.item, set? field.typeName with
  | some primitive, _, _, _ => .ok (.value (.ofPrimitive primitive))
  | none, some primitive, _, _ =>
    let item := FieldType.value (.ofPrimitive primitive)
    .ok (if field.isMap then .map item else .list item)
  | none, none, some item, _ => return .list (.named (← r.lookup item consumer))
  | none, none, none, some nested => return .named (← r.lookup nested consumer)
  | none, none, none, none => .error .shapeless

end Resolver

end Typewright
