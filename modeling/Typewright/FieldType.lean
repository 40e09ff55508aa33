/-!
# Types of fields

A field of the generated code holds a scalar in the value envelope, a nested type, or a list or a map of either.
Scalars outside the envelope only occur where a caller hands raw values over (`FieldType.unwrapped`).
-/

namespace Typewright

/-- The scalars of schemas. A primitive that is not known keeps its name. -/
inductive Scalar where
  | string
  | integer
  | long
  | double
  | boolean
  | json
  | timestamp
  | other (name : String)
  deriving DecidableEq, Repr, Inhabited

namespace Scalar

def ofPrimitive : String → Scalar
  | "String" => .string
  | "Integer" => .integer
  | "Long" => .long
  | "Double" => .double
  | "Boolean" => .boolean
  | "Json" => .json
  | "Timestamp" => .timestamp
  | name => .other name

/-- The name of the scalar in generated code. -/
def typeName : Scalar → String
  | .string => "String"
  | .integer => "i32"
  | .long => "i64"
  | .double => "f64"
  | .boolean => "bool"
  | .json => "Json"
  | .timestamp => "Timestamp"
  | .other name => name

/-- Whether that name is declared by the runtime library. -/
def isRuntimeType : Scalar → Bool
  | .json | .timestamp => true
  | _ => false

end Scalar

inductive FieldType where
  /-- A scalar as it is. -/
  | scalar (s : Scalar)
  /-- A scalar in the value envelope. -/
  | value (s : Scalar)
  | list (item : FieldType)
  | map (item : FieldType)
  /-- The type of that name. -/
  | named (name : String)
  deriving DecidableEq, Repr, Inhabited

namespace FieldType

/-- The same type without value envelopes. -/
def unwrapped : FieldType → FieldType
  | .value s => .scalar s
  | .list t => .list t.unwrapped
  | .map t => .map t.unwrapped
  | t => t

/-- A scalar in its envelope, or a collection of such. -/
def isWrappedScalar : FieldType → Bool
  | .value _ => true
  | .list (.value _) => true
  | .map (.value _) => true
  | _ => false

/-- The nested type that is held directly. -/
def named? : FieldType → Option String
  | .named name => some name
  | _ => none

/-- The nested type that is mentioned, directly or as an item. -/
def mentioned? : FieldType → Option String
  | .named name => some name
  | .list t | .map t => t.mentioned?
  | _ => none

end FieldType

end Typewright
