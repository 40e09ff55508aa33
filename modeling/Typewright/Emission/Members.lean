import Typewright.Artifact
import Typewright.Emission.Error

/-!
# Members of the declared types

The fields of a type, required ones first, become its members with resolved types. Two fields whose members would
have one name are refused, as is a field whose type cannot be resolved; of several such faults the first field in
order decides. The table of all members is what later steps look types up in.
-/

namespace Typewright

/-- The members of every declared type. -/
abbrev MemberTable := Catalogue (List Member)

namespace Emission

/-- Fields in the order in which members are declared and passed. -/
def orderFields (fields : List (String × Field)) : List (String × Field) := fields.mergeSort requiredFirst

/-- `members` with the member of one more field at the end. -/
def addMember (resolver : Resolver) (typeName : String) (members : List Member) (field : String × Field) :
    Except EmitError (List Member) :=
  match resolver.resolve field.2 typeName with
  | .error cause => .error (.fieldType typeName field.1 cause)
  | .ok type =>
    let name := memberName field.1
    match members.find? (·.name == name) with
    | some first => .error (.memberCollision typeName first.fieldName field.1 name)
    | none =>
      .ok (members ++ [{
        fieldName := field.1
        name
        type
        required := field.2.required
        boxed := false
        documentation := field.2.documentation }])

def membersOf (resolver : Resolver) (typeName : String) (spec : TypeSpec) : Except EmitError (List Member) :=
  (orderFields spec.fields.entries).foldlM (addMember resolver typeName) []

/-- The members of every type of a schema, none of them boxed yet. -/
def memberTable (schema : Schema) : Except EmitError MemberTable :=
  let resolver := Resolver.ofSchema schema
  schema.traverse fun id spec => membersOf resolver id.name spec

end Emission

end Typewright
