import Typewright.Emission.Functions
import Typewright.Emission.Members

/-!
# Setters

Every member has a setter that takes what the member holds. A scalar, or a collection of scalars, also has one that
takes raw values; it gets the plain name, and the other one ends in `_value`. A member that holds a property type
also has one that makes the nested value in place, which ends in `_with`.
-/

namespace Typewright.Emission

/-- A member overwritten with a value, which an optional member takes as present. -/
def assignTo (m : Member) (value : Body) : Body :=
  .assign m.name (if m.required then value else .present value)

/-- Raw values of a type put into the envelope. -/
def wrapAs (type : FieldType) (raw : Body) : Body :=
  match type with
  | .list _ => .wrapEach raw
  | .map _ => .wrapValues raw
  | _ => .wrap raw

def directSetter (m : Member) (name : String) : Setter where
  callable := { name, params := [valueParam m], body := assignTo m (boxedIf m (.param m.name)) }
  member := m.name
  kind := .direct

def wrappingSetter (m : Member) : Setter where
  callable := {
    name := setterName m.name
    params := [⟨m.name, .value m.type.unwrapped⟩]
    body := assignTo m (wrapAs m.type (.param m.name)) }
  member := m.name
  kind := .wrapping

/-- Makes the nested value of type `target`, whose members are `members`, and passes it to the first setter. -/
def nestedSetter (m : Member) (target : String) (members : List Member) : Setter :=
  let params := (requiredMembers members).map valueParam
  let step := configureName params
  { callable := {
      name := m.name ++ "_with"
      params := params ++ [⟨step, .configure target⟩]
      body := .callSetter (setterName m.name) (builtBy target (paramBodies params) step) }
    member := m.name
    kind := .nested }

/-- The setters of one member. Only property types are made in place: a resource needs a context. -/
def settersOf (table : MemberTable) (m : Member) : List Setter :=
  if m.type.isWrappedScalar then [wrappingSetter m, directSetter m (m.name ++ "_value")]
  else
    directSetter m (setterName m.name) ::
      match m.type.named? with
      | none => []
      | some target =>
        match table.properties.find? target with
        | none => []
        | some members => [nestedSetter m target members]

def setters (table : MemberTable) (members : List Member) : List Setter := members.flatMap (settersOf table)

end Typewright.Emission
