import Typewright.Schema.Merge
import Typewright.TypeName

/-!
# Validating a merged schema

Every segment of a type name must be non-empty, and every field must set a shape. Types are checked in the order of
`Catalogue.toList`, a name before its fields, and the first offence is reported.
-/

namespace Typewright.Schema

def checkTypeName (name : String) : Except SchemaError Unit :=
  if (TypeName.segments name).any (·.isEmpty) then .error (.invalidTypeName name) else .ok ()

/-- The first field without a shape is refused. -/
def checkFields (typeName : String) : List (String × Field) → Except SchemaError Unit
  | [] => .ok ()
  | (name, field) :: rest =>
    if field.shapeCount = 0 then .error (.shapeless typeName name) else checkFields typeName rest

def checkType (name : String) (spec : TypeSpec) : Except SchemaError Unit :=
  match checkTypeName name with
  | .error e => .error e
  | .ok () => checkFields name spec.fields.entries

def checkTypes : List (TypeId × TypeSpec) → Except SchemaError Unit
  | [] => .ok ()
  | (id, spec) :: rest =>
    match checkType id.name spec with
    | .error e => .error e
    | .ok () => checkTypes rest

/-- Whether artifacts can be made from a schema at all. -/
def validate (schema : Schema) : Except SchemaError Unit := checkTypes schema.toList

end Typewright.Schema
