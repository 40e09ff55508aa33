import Typewright.Body
import Typewright.FieldType
import Typewright.Placement

/-!
# Artifacts

For every declared type an artifact describes what is generated: a data type, its builder, a factory that starts a
builder, and a helper that makes a value in one call. A bundle holds the artifacts of one schema.
-/

namespace Typewright

/-- A member of a data type, made from a field. -/
structure Member where
  fieldName : String
  name : String
  type : FieldType
  required : Bool
  /-- Kept on the heap, because its type contains the type that owns the member. -/
  boxed : Bool
  documentation : Option String
  deriving DecidableEq, Repr

inductive ParamType where
  | value (type : FieldType)
  | optional (type : FieldType)
  | logicalName
  | optionalLogicalName
  | dependencies
  /-- A step that configures the builder of the type of that name. -/
  | configure (target : String)
  /-- The template that resources are registered with. -/
  | context
  deriving DecidableEq, Repr

structure Param where
  name : String
  type : ParamType
  deriving DecidableEq, Repr

structure Callable where
  name : String
  params : List Param
  body : Body

def Callable.paramNames (c : Callable) : List String := c.params.map (·.name)

inductive SetterKind where
  /-- Takes what the member holds. -/
  | direct
  /-- Takes raw scalars and puts them into the envelope. -/
  | wrapping
  /-- Makes the nested value in place. -/
  | nested
  deriving DecidableEq, Repr

structure Setter where
  callable : Callable
  /-- The member that is written. -/
  member : String
  kind : SetterKind

/-- A method that refers to an attribute of a resource. -/
structure Accessor where
  name : String
  attributeName : String
  body : Body

structure DataType where
  name : String
  /-- In the order of `requiredFirst`. -/
  members : List Member
  /-- The name under which templates know the resource type; a property type has none. -/
  resourceType : Option String
  /-- Takes every member. -/
  constructor : Callable
  accessors : List Accessor

namespace DataType

def requiredMembers (d : DataType) : List Member := d.members.filter (·.required)

def member? (d : DataType) (name : String) : Option Member := d.members.find? (·.name == name)

end DataType

structure BuilderType where
  name : String
  /-- Takes the required members. -/
  constructor : Callable
  setters : List Setter
  build : Callable

structure Artifact where
  typeName : String
  kind : TypeKind
  documentation : Option String
  placement : Placement
  data : DataType
  builder : BuilderType
  factory : Callable
  helper : Callable

namespace Artifact

def isResource (a : Artifact) : Bool := a.kind.isResource

def setter? (a : Artifact) (name : String) : Option Setter := a.builder.setters.find? (·.callable.name == name)

end Artifact

/-- The artifacts of one schema. -/
structure Bundle where
  properties : List Artifact
  resources : List Artifact

namespace Bundle

def empty : Bundle := ⟨[], []⟩

/-- Every artifact, those of property types first. -/
def artifacts (b : Bundle) : List Artifact := b.properties ++ b.resources

/-- The first artifact of that schema name: a property type before a resource type. -/
def find? (b : Bundle) (typeName : String) : Option Artifact := b.artifacts.find? (·.typeName == typeName)

def size (b : Bundle) : Nat := b.properties.length + b.resources.length

def isEmpty (b : Bundle) : Bool := b.size == 0

end Bundle

end Typewright
