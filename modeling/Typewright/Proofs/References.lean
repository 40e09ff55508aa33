import Typewright.Proofs.Emitted
import Typewright.Proofs.Resolution
import Typewright.Source.Scope

/-! # What references mean

A field that resolves mentions declared types only, whether it gave the whole name or the end of one. Among the
artifacts of an emitted bundle such a name stands for one of them, and code that is written down takes it for the same
one. A resource type whose name is also that of a property type is hidden by it: of all artifacts only these do not
have their own names to themselves. -/

namespace Typewright

/-! ### References of fields -/

namespace Resolver

/-- The types of fields: scalars are in the envelope, and nested types are declared ones. -/
inductive Resolved (names : List String) : FieldType → Prop
  | value (s : Scalar) : Resolved names (.value s)
  | values (s : Scalar) : Resolved names (.list (.value s))
  | valueMap (s : Scalar) : Resolved names (.map (.value s))
  | named {name : String} (h : name ∈ names) : Resolved names (.named name)
  | list {name : String} (h : name ∈ names) : Resolved names (.list (.named name))

theorem Resolved.mem_of_mentioned {names : List String} {type : FieldType} {name : String} (h : Resolved names type)
    (hname : type.mentioned? = some name) : name ∈ names := by
  cases h with
  | value | values | valueMap => cases hname
  | named hdeclared | list hdeclared =>
    cases hname
    exact hdeclared

theorem resolved {names : List String} {field : Field} {consumer : String} {type : FieldType}
    (h : (ofNames names).resolve field consumer = .ok type) : Resolved names type := by
  generalize hresult : Except.ok type = result at h
  cases resolve_iff_typedAs.mp h with
  | primitive =>
    cases hresult
    exact .value _
  | primitiveMap =>
    cases hresult
    exact .valueMap _
  | primitiveList =>
    cases hresult
    exact .values _
  | @list _ found _ _ _ hmeaning =>
    cases found with
    | error => cases hresult
    | ok name =>
      cases hresult
      exact .list hmeaning.mem
  | @nested _ found _ _ _ _ hmeaning =>
    cases found with
    | error => cases hresult
    | ok name =>
      cases hresult
      exact .named hmeaning.mem
  | shapeless => cases hresult

end Resolver

/-! ### Names among artifacts -/

namespace Emission
variable {schema : Schema} {config : Config} {table : MemberTable} {artifacts : Catalogue Artifact} {a : Artifact}
  {name : String}

/-- The resource type that `a` describes is hidden by a property type of the same name. -/
def Shadowed (schema : Schema) (a : Artifact) : Prop :=
  a.kind = .resource ∧ (schema.find? ⟨.property, a.typeName⟩).isSome = true

/-- A property type and a resource type of one name. -/
def twins : Schema where
  properties := .ofList [("Node", { fields := .ofList [("Label", .ofPrimitive "String")] })]
  resources := .ofList [("Node", { fields := .ofList [("Inner", .nested "Node")] })]

namespace Emits

theorem resolved_member (h : Emits schema config table artifacts) (ha : a ∈ (Bundle.ofCatalogue artifacts).artifacts)
    {m : Member} (hm : m ∈ a.data.members) : Resolver.Resolved schema.names m.type := by
  obtain ⟨members, hmembers, heq⟩ := h.members_boxed ha
  obtain ⟨spec, -, hspec⟩ := h.find?_table_iff.mp hmembers
  rw [heq] at hm
  obtain ⟨m₀, hm₀, rfl⟩ := List.mem_map.mp hm
  obtain ⟨field, -, hfield⟩ := exists_of_mem_right (membersOf_ok hspec) hm₀
  exact Resolver.resolved hfield.type

theorem isSome_find?_schema (h : Emits schema config table artifacts) (id : TypeId) :
    (artifacts.find? id).isSome = (schema.find? id).isSome := by
  have hrel := Catalogue.find?_traverse h.emitted id
  cases hs : schema.find? id <;> cases hfa : artifacts.find? id <;> simp_all

/-- A declared name stands for an artifact. -/
theorem isSome_find?_of_mem (h : Emits schema config table artifacts) (hname : name ∈ schema.names) :
    ((Bundle.ofCatalogue artifacts).find? name).isSome = true := by
  rw [h.find?_bundle, Option.isSome_or, h.isSome_find?_schema, h.isSome_find?_schema, Bool.or_eq_true]
  rcases List.mem_append.mp hname with hname | hname
  · obtain ⟨spec, hspec⟩ := SortedMap.mem_keys_iff.mp hname
    exact Or.inl (Option.isSome_iff_exists.mpr ⟨spec, hspec⟩)
  · obtain ⟨spec, hspec⟩ := SortedMap.mem_keys_iff.mp hname
    exact Or.inr (Option.isSome_iff_exists.mpr ⟨spec, hspec⟩)

/-- Code that is written down takes a name for the artifact that the bundle has under it. -/
theorem denoted?_source (h : Emits schema config table artifacts) :
    Source.denoted? (.ofCatalogue artifacts) = (Bundle.ofCatalogue artifacts).find? := by
  funext name
  rw [Source.denoted?, List.find?_append, Bundle.find?, Bundle.artifacts, List.find?_append]
  exact congrArg₂ Option.or (find?_reverse (SortedMap.nodup_values h.typeName_of_properties) name)
    (find?_reverse (SortedMap.nodup_values h.typeName_of_resources) name)

/-- The name of a shadowed resource type stands for the artifact of the property type. -/
theorem find?_of_shadowed (h : Emits schema config table artifacts) (hshadowed : Shadowed schema a) :
    ∃ b ∈ (Bundle.ofCatalogue artifacts).artifacts, (Bundle.ofCatalogue artifacts).find? a.typeName = some b ∧
      b.id = ⟨.property, a.typeName⟩ := by
  obtain ⟨-, hsome⟩ := hshadowed
  rw [← h.isSome_find?_schema] at hsome
  obtain ⟨b, hb⟩ := Option.isSome_iff_exists.mp hsome
  have hid := h.id_eq hb
  exact ⟨b, h.mem_artifacts_iff.mpr (hid.symm ▸ hb), by rw [h.find?_bundle, hb, Option.some_or], hid⟩

/-- An artifact is what its own name means unless it is shadowed. -/
theorem find?_typeName_iff (h : Emits schema config table artifacts)
    (ha : a ∈ (Bundle.ofCatalogue artifacts).artifacts) :
    (Bundle.ofCatalogue artifacts).find? a.typeName = some a ↔ ¬ Shadowed schema a := by
  constructor
  · intro hfind hshadowed
    obtain ⟨b, -, hb, hid⟩ := h.find?_of_shadowed hshadowed
    rw [hfind] at hb
    cases hb
    rw [Artifact.id, hshadowed.1] at hid
    cases hid
  · intro hnot
    have hself := h.mem_artifacts_iff.mp ha
    rw [h.find?_bundle]
    rw [Artifact.id] at hself
    cases hkind : a.kind with
    | property =>
      rw [hkind] at hself
      rw [hself, Option.some_or]
    | resource =>
      have hnone : artifacts.find? ⟨.property, a.typeName⟩ = none := by
        rw [← Option.not_isSome_iff_eq_none, h.isSome_find?_schema]
        exact fun hsome => hnot ⟨hkind, hsome⟩
      rw [hkind] at hself
      rw [hnone, Option.none_or, hself]

end Emits

end Emission

end Typewright
