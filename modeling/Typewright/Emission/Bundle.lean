import Typewright.Emission.Collisions
import Typewright.Emission.Containment
import Typewright.Emission.Setters

/-!
# The artifacts of a schema

The members of all types are resolved first, so that the first field that cannot be resolved is reported before
anything else; then collisions between types are looked for, and at last every type gets its artifact, property types
first and each section in order of names, and is checked for collisions of its own.
-/

namespace Typewright.Emission

/-- The artifact of one type. -/
def artifact (config : Config) (table : MemberTable) (id : TypeId) (spec : TypeSpec) : Artifact :=
  let placement := Placement.ofType id config
  let members := (table.find? id).getD []
  let resource := id.kind.isResource
  { typeName := id.name
    kind := id.kind
    documentation := spec.documentation
    placement
    data := {
      name := placement.className
      members
      resourceType := if resource then some id.name else none
      constructor := dataConstructor id.name members resource
      accessors := if resource then accessors spec else [] }
    builder := {
      name := placement.builderName
      constructor := builderConstructor id.name members resource
      setters := setters table members
      build := buildMethod id.name members resource }
    factory := factory id.name members resource
    helper := if resource then resourceHelper id.name placement members
      else propertyHelper id.name placement members }

/-- The artifact of one type, checked. -/
def checkedArtifact (config : Config) (table : MemberTable) (id : TypeId) (spec : TypeSpec) :
    Except EmitError Artifact := do
  let a := artifact config table id spec
  checkArtifact a
  return a

end Typewright.Emission

namespace Typewright.Bundle

def ofCatalogue (artifacts : Catalogue Artifact) : Bundle := ⟨artifacts.properties.values, artifacts.resources.values⟩

/-- The artifacts of a schema, if its fields resolve and no names collide. -/
def ofSchema (schema : Schema) (config : Config) : Except EmitError Bundle := do
  let members ← Emission.memberTable schema
  let table := members.boxCycles
  Emission.checkItems schema config
  return ofCatalogue (← schema.traverse (Emission.checkedArtifact config table))

end Typewright.Bundle
