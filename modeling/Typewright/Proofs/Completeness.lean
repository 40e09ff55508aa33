import Mathlib.Data.List.Sort
import Typewright.Proofs.ByteOrder
import Typewright.Proofs.References

/-! # What a bundle holds for a schema

`Describes` says what the artifact of a declared type is made of: a member for each field, all in one order, and from
the members in that order the parameters of its functions and its setters. An emitted bundle has such an artifact for
each type, in the order of their names, and no other (`describes_all`). -/

namespace Typewright.Emission

open Text

/-! ### The order of members -/

/-- Required members come first; of two that are alike in this, the one whose field has the smaller bytes. -/
def DeclaredBefore (m n : Member) : Prop :=
  (m.required = true ∧ n.required = false) ∨ (m.required = n.required ∧ utf8 m.fieldName < utf8 n.fieldName)

theorem requiredFirst_iff {f g : String × Field} : requiredFirst f g = true ↔
    (f.2.required = true ∧ g.2.required = false) ∨ (f.2.required = g.2.required ∧ f.1 ≤ g.1) := by
  rw [requiredFirst]
  cases f.2.required <;> cases g.2.required <;> simp

theorem requiredFirst_trans (f g k : String × Field) (hfg : requiredFirst f g = true) (hgk : requiredFirst g k = true) :
    requiredFirst f k = true := by
  rw [requiredFirst_iff] at *
  rcases hfg with ⟨hf, hg⟩ | ⟨hfg, hle⟩ <;> rcases hgk with ⟨hg', hk⟩ | ⟨hgk, hle'⟩
  · rw [hg] at hg'
    cases hg'
  · exact Or.inl ⟨hf, hgk ▸ hg⟩
  · exact Or.inl ⟨hfg.trans hg', hk⟩
  · exact Or.inr ⟨hfg.trans hgk, String.le_trans hle hle'⟩

theorem requiredFirst_total (f g : String × Field) : (requiredFirst f g || requiredFirst g f) = true := by
  rw [Bool.or_eq_true, requiredFirst_iff, requiredFirst_iff]
  rcases String.le_total f.1 g.1 with hle | hle <;> cases f.2.required <;> cases g.2.required <;> simp [hle]

/-- The order of the fields of a type leaves nothing open, since their names differ. -/
theorem orderFields_ordered {fields : List (String × Field)} (hkeys : (fields.map (·.1)).Nodup) :
    (orderFields fields).Pairwise fun f g => requiredFirst f g = true ∧ f.1 ≠ g.1 := by
  have hnodup : ((orderFields fields).map (·.1)).Nodup := nodup_map_orderFields hkeys
  rw [List.Nodup, List.pairwise_map] at hnodup
  exact (List.pairwise_mergeSort requiredFirst_trans requiredFirst_total fields).and hnodup

/-- Any way to sort the fields of a type gives their order. -/
theorem orderFields_eq_insertionSort {fields : List (String × Field)} (hkeys : (fields.map (·.1)).Nodup) :
    orderFields fields = fields.insertionSort (fun f g => requiredFirst f g = true) := by
  have htotal : Std.Total fun f g : String × Field => requiredFirst f g = true :=
    ⟨fun f g => Bool.or_eq_true_iff.mp (requiredFirst_total f g)⟩
  have htrans : IsTrans (String × Field) fun f g => requiredFirst f g = true := ⟨requiredFirst_trans⟩
  have hperm : (orderFields fields).Perm (fields.insertionSort fun f g => requiredFirst f g = true) :=
    (orderFields_perm fields).trans (List.perm_insertionSort _ fields).symm
  refine hperm.eq_of_pairwise (fun f g hf hg hfg hgf => ?_) ((orderFields_ordered hkeys).imp And.left)
    (List.pairwise_insertionSort _ fields)
  have hf : f ∈ fields := (orderFields_perm fields).mem_iff.mp hf
  have hg : g ∈ fields := (List.perm_insertionSort _ fields).mem_iff.mp hg
  refine List.inj_on_of_nodup_map hkeys hf hg ?_
  rw [requiredFirst_iff] at hfg hgf
  rcases hfg with ⟨hf, hg⟩ | ⟨hfg, hle⟩ <;> rcases hgf with ⟨hg', hf'⟩ | ⟨hgf, hle'⟩
  · rw [hf] at hf'
    cases hf'
  · rw [hf, hg] at hgf
    cases hgf
  · rw [hf', hg'] at hfg
    cases hfg
  · exact String.le_antisymm hle hle'

theorem memberTable_eq_insertionSort (schema : Schema) : memberTable schema = schema.traverse fun id spec =>
    (spec.fields.entries.insertionSort fun f g => requiredFirst f g = true).foldlM
      (addMember (Resolver.ofSchema schema) id.name) [] := by
  have hmembers : ∀ (id : TypeId) (spec : TypeSpec), membersOf (Resolver.ofSchema schema) id.name spec =
      (spec.fields.entries.insertionSort fun f g => requiredFirst f g = true).foldlM
        (addMember (Resolver.ofSchema schema) id.name) [] := by
    intro id spec
    rw [membersOf, orderFields_eq_insertionSort spec.fields.nodup_keys]
  simp only [memberTable, hmembers]

/-- `m`, boxed or not, is the member of a field. -/
def StandsFor (resolver : Resolver) (typeName : String) (field : String × Field) (m : Member) : Prop :=
  MemberOf resolver typeName field { m with boxed := false }

section Members
variable {resolver : Resolver} {typeName : String} {fields : List (String × Field)} {members : List Member}

theorem declaredBefore_of_fields (h : List.Forall₂ (StandsFor resolver typeName) fields members)
    (hordered : fields.Pairwise fun f g => requiredFirst f g = true ∧ f.1 ≠ g.1) : members.Pairwise DeclaredBefore := by
  induction h with
  | nil => exact List.Pairwise.nil
  | @cons f m fields members hfm htail ih =>
    obtain ⟨hhead, hordered⟩ := List.pairwise_cons.mp hordered
    refine List.pairwise_cons.mpr ⟨fun n hn => ?_, ih hordered⟩
    obtain ⟨g, hg, hgn⟩ := exists_of_mem_right htail hn
    obtain ⟨hfirst, hne⟩ := hhead g hg
    have hm : m.required = f.2.required ∧ m.fieldName = f.1 := ⟨hfm.required, hfm.fieldName⟩
    have hn : n.required = g.2.required ∧ n.fieldName = g.1 := ⟨hgn.required, hgn.fieldName⟩
    rw [DeclaredBefore, hm.1, hm.2, hn.1, hn.2, ← lt_iff_utf8_lt]
    refine (requiredFirst_iff.mp hfirst).imp_right fun ⟨hrequired, hle⟩ => ⟨hrequired, ?_⟩
    exact (SortedMap.lt_or_eq_or_gt f.1 g.1).resolve_right fun h => h.elim hne fun hgt => hle hgt

end Members

/-! ### Parameters -/

/-- The parameters for the required members, in order. -/
def requiredValues (members : List Member) : List Param :=
  (members.filter (·.required)).map fun m => ⟨m.name, .value m.type⟩

/-- What a list of parameters starts with for a resource. -/
def leading (a : Artifact) : List Param := if a.isResource then [⟨"logical_name", .logicalName⟩] else []

/-- What a list of parameters ends with for a resource. -/
def trailing (a : Artifact) : List Param := if a.isResource then [⟨"depends_on", .dependencies⟩] else []

/-- The functions of an artifact take its members in their order. -/
structure TakesMembers (a : Artifact) : Prop where
  constructor : a.data.constructor.params =
    leading a ++ a.data.members.map (fun m => ⟨m.name, if m.required then .value m.type else .optional m.type⟩) ++
      trailing a
  builder : a.builder.constructor.params = leading a ++ requiredValues a.data.members ++ trailing a
  factory : a.factory.params = leading a ++ requiredValues a.data.members ++ trailing a
  build : a.builder.build.params = []
  propertyHelper : a.kind = .property →
    ∃ step, a.helper.params = requiredValues a.data.members ++ [⟨step, .configure a.typeName⟩]
  resourceHelper : a.kind = .resource → ∃ context step, a.helper.params =
    ⟨context, .context⟩ :: requiredValues a.data.members ++
      [⟨"logical_name", .optionalLogicalName⟩, ⟨"depends_on", .dependencies⟩, ⟨step, .configure a.typeName⟩]

theorem withIdentity_eq (a : Artifact) (params : List Param) :
    withIdentity a.isResource ⟨logicalName, .logicalName⟩ params ⟨dependsOn, .dependencies⟩ =
      leading a ++ params ++ trailing a := by
  rw [withIdentity, leading, trailing]
  split
  · rfl
  · simp

theorem params_resourceHelper (typeName : String) (p : Placement) (members : List Member) :
    ∃ context step, (resourceHelper typeName p members).params = ⟨context, .context⟩ :: requiredValues members ++
      [⟨logicalName, .optionalLogicalName⟩, ⟨dependsOn, .dependencies⟩, ⟨step, .configure typeName⟩] := by
  rw [resourceHelper]
  exact ⟨_, _, List.append_assoc _ _ _⟩

theorem Generated.takesMembers {config : Config} {table : MemberTable} {a : Artifact} (h : Generated config table a) :
    TakesMembers a := by
  have hrequired : requiredParams a.data.members a.isResource =
      leading a ++ requiredValues a.data.members ++ trailing a := withIdentity_eq a _
  constructor
  case constructor =>
    rw [h.constructor]
    exact withIdentity_eq a _
  case builder =>
    rw [h.builderConstructor]
    exact hrequired
  case factory =>
    rw [h.factory]
    exact hrequired
  case build => rw [h.build, buildMethod]
  case propertyHelper =>
    intro hkind
    rw [h.helper, Artifact.isResource, hkind]
    exact ⟨_, rfl⟩
  case resourceHelper =>
    intro hkind
    rw [h.helper, Artifact.isResource, hkind]
    exact params_resourceHelper _ _ _

/-! ### Setters -/

/-- `s` writes a member: its name, its kind and what it takes. -/
structure WritesMember (m : Member) (s : Setter) (name : String) (kind : SetterKind) (params : List Param) : Prop where
  name : s.callable.name = name
  kind : s.kind = kind
  params : s.callable.params = params
  member : s.member = m.name

/-- The setters of a member, by what it holds. -/
inductive SettersFor (bundle : Bundle) (m : Member) : List Setter → Prop
  | scalar {s : Scalar} {raw value : Setter} (hm : m.type = .value s)
      (hraw : WritesMember m raw (setterName m.name) .wrapping [⟨m.name, .value (.scalar s)⟩])
      (hvalue : WritesMember m value (m.name ++ "_value") .direct [⟨m.name, .value m.type⟩]) :
    SettersFor bundle m [raw, value]
  | scalars {s : Scalar} {raw value : Setter} (hm : m.type = .list (.value s))
      (hraw : WritesMember m raw (setterName m.name) .wrapping [⟨m.name, .value (.list (.scalar s))⟩])
      (hvalue : WritesMember m value (m.name ++ "_value") .direct [⟨m.name, .value m.type⟩]) :
    SettersFor bundle m [raw, value]
  | scalarMap {s : Scalar} {raw value : Setter} (hm : m.type = .map (.value s))
      (hraw : WritesMember m raw (setterName m.name) .wrapping [⟨m.name, .value (.map (.scalar s))⟩])
      (hvalue : WritesMember m value (m.name ++ "_value") .direct [⟨m.name, .value m.type⟩]) :
    SettersFor bundle m [raw, value]
  | nestedList {target : String} {value : Setter} (hm : m.type = .list (.named target))
      (hvalue : WritesMember m value (setterName m.name) .direct [⟨m.name, .value m.type⟩]) :
    SettersFor bundle m [value]
  | resource {target : String} {b : Artifact} {value : Setter} (hm : m.type = .named target)
      (hb : b ∈ bundle.resources) (hname : b.typeName = target) (hnot : ∀ p ∈ bundle.properties, p.typeName ≠ target)
      (hvalue : WritesMember m value (setterName m.name) .direct [⟨m.name, .value m.type⟩]) :
    SettersFor bundle m [value]
  | property {target step : String} {b : Artifact} {value inPlace : Setter} (hm : m.type = .named target)
      (hb : b ∈ bundle.properties) (hname : b.typeName = target)
      (hvalue : WritesMember m value (setterName m.name) .direct [⟨m.name, .value m.type⟩])
      (hplace : WritesMember m inPlace (m.name ++ "_with") .nested
        (requiredValues b.data.members ++ [⟨step, .configure target⟩])) :
    SettersFor bundle m [value, inPlace]

theorem writesMember_directSetter (m : Member) (name : String) :
    WritesMember m (directSetter m name) name .direct [⟨m.name, .value m.type⟩] := ⟨rfl, rfl, rfl, rfl⟩

theorem writesMember_wrappingSetter (m : Member) :
    WritesMember m (wrappingSetter m) (setterName m.name) .wrapping [⟨m.name, .value m.type.unwrapped⟩] :=
  ⟨rfl, rfl, rfl, rfl⟩

theorem writesMember_nestedSetter (m : Member) (target : String) (members : List Member) :
    WritesMember m (nestedSetter m target members) (m.name ++ "_with") .nested
      (requiredValues members ++ [⟨configureName (requiredValues members), .configure target⟩]) := ⟨rfl, rfl, rfl, rfl⟩

namespace Emits
variable {schema : Schema} {config : Config} {table : MemberTable} {artifacts : Catalogue Artifact} {id : TypeId}
  {spec : TypeSpec} {a : Artifact}

theorem mem_properties_iff (h : Emits schema config table artifacts) {name : String} :
    (∃ b ∈ (Bundle.ofCatalogue artifacts).properties, b.typeName = name) ↔
      (table.boxCycles.properties.find? name).isSome = true := by
  have hboxed : (table.boxCycles.properties.find? name).isSome = (artifacts.find? ⟨.property, name⟩).isSome := by
    rw [h.isSome_find?]
    exact (congrArg Option.isSome (find?_boxCycles table ⟨.property, name⟩)).trans Option.isSome_map
  rw [hboxed, Option.isSome_iff_exists]
  constructor
  · rintro ⟨b, hb, rfl⟩
    obtain ⟨k, hk⟩ := SortedMap.mem_values_iff.mp hb
    exact ⟨b, h.typeName_of_properties k b hk ▸ hk⟩
  · rintro ⟨b, hb⟩
    exact ⟨b, SortedMap.mem_values_iff.mpr ⟨name, hb⟩, h.typeName_of_properties name b hb⟩

/-- A reference to a declared type has a second setter if a property type is meant. -/
theorem settersFor_named (h : Emits schema config table artifacts) {m : Member} {target : String}
    (htype : m.type = .named target) (hdeclared : target ∈ schema.names) :
    SettersFor (Bundle.ofCatalogue artifacts) m (settersOf table.boxCycles m) := by
  have hvalue := writesMember_directSetter m (setterName m.name)
  cases hfind : table.boxCycles.properties.find? target with
  | some members =>
    have hsetters : settersOf table.boxCycles m =
        [directSetter m (setterName m.name), nestedSetter m target members] := by
      rw [settersOf, htype]
      simp only [FieldType.isWrappedScalar, FieldType.named?, hfind, Bool.false_eq_true, if_false]
    obtain ⟨b, hb, -, hid, rfl, -⟩ := h.find?_of_properties hfind
    have hfound : artifacts.find? ⟨.property, target⟩ = some b := hid ▸ h.mem_artifacts_iff.mp hb
    have hmem : b ∈ (Bundle.ofCatalogue artifacts).properties := SortedMap.mem_values_iff.mpr ⟨target, hfound⟩
    rw [hsetters]
    exact .property htype hmem (congrArg TypeId.name hid) hvalue (writesMember_nestedSetter m target _)
  | none =>
    have hsetters : settersOf table.boxCycles m = [directSetter m (setterName m.name)] := by
      rw [settersOf, htype]
      simp only [FieldType.isWrappedScalar, FieldType.named?, hfind, Bool.false_eq_true, if_false]
    have hnot : ∀ p ∈ (Bundle.ofCatalogue artifacts).properties, p.typeName ≠ target := by
      intro p hp hname
      have hsome := h.mem_properties_iff.mp ⟨p, hp, hname⟩
      rw [hfind] at hsome
      cases hsome
    -- The name is declared, so what is left is a resource type.
    obtain ⟨b, hb⟩ := Option.isSome_iff_exists.mp (h.isSome_find?_of_mem hdeclared)
    have hname : b.typeName = target := by simpa using List.find?_some hb
    have hmem : b ∈ (Bundle.ofCatalogue artifacts).resources :=
      (List.mem_append.mp (List.mem_of_find?_eq_some hb)).resolve_left fun hp => hnot b hp hname
    rw [hsetters]
    exact .resource htype hmem hname hnot hvalue

theorem settersFor (h : Emits schema config table artifacts) {m : Member}
    (hm : Resolver.Resolved schema.names m.type) :
    SettersFor (Bundle.ofCatalogue artifacts) m (settersOf table.boxCycles m) := by
  have hraw := writesMember_wrappingSetter m
  have hvalue := writesMember_directSetter m
  generalize htype : m.type = type at hm
  rw [htype] at hraw
  cases hm with
  | named hname => exact h.settersFor_named htype hname
  | value s =>
    rw [settersOf, htype]
    exact .scalar htype hraw (hvalue _)
  | values s =>
    rw [settersOf, htype]
    exact .scalars htype hraw (hvalue _)
  | valueMap s =>
    rw [settersOf, htype]
    exact .scalarMap htype hraw (hvalue _)
  | list =>
    rw [settersOf, htype]
    exact .nestedList htype (hvalue _)

/-! ### Artifacts -/

end Emits

/-- What the artifact of a declared type is made of. -/
structure Describes (schema : Schema) (bundle : Bundle) (kind : TypeKind) (entry : String × TypeSpec) (a : Artifact) :
    Prop where
  typeName : a.typeName = entry.1
  kind : a.kind = kind
  documentation : a.documentation = entry.2.documentation
  members : ∃ fields, fields.Perm entry.2.fields.entries ∧
    List.Forall₂ (StandsFor (Resolver.ofSchema schema) entry.1) fields a.data.members
  ordered : a.data.members.Pairwise DeclaredBefore
  accessors : a.data.accessors.map (·.attributeName) = if a.isResource then entry.2.attributes.keys else []
  functions : TakesMembers a
  setters : ∃ groups, a.builder.setters = groups.flatten ∧
    List.Forall₂ (SettersFor bundle) a.data.members groups

theorem attributeNames_accessors (spec : TypeSpec) : (accessors spec).map (·.attributeName) = spec.attributes.keys := by
  rw [accessors, List.map_map]
  exact List.map_id _

theorem attributeNames_artifact (config : Config) (table : MemberTable) (id : TypeId) (spec : TypeSpec) :
    (artifact config table id spec).data.accessors.map (·.attributeName) =
      if id.kind.isResource then spec.attributes.keys else [] := by
  have haccessors : (artifact config table id spec).data.accessors =
      if id.kind.isResource then accessors spec else [] := rfl
  rw [haccessors]
  split
  · exact attributeNames_accessors spec
  · rfl

namespace Emits
variable {schema : Schema} {config : Config} {table : MemberTable} {artifacts : Catalogue Artifact} {id : TypeId}
  {spec : TypeSpec} {a : Artifact}

theorem describes (h : Emits schema config table artifacts) (hspec : schema.find? id = some spec)
    (ha : checkedArtifact config table.boxCycles id spec = .ok a) :
    Describes schema (.ofCatalogue artifacts) id.kind (id.name, spec) a := by
  obtain ⟨rfl, hcheck⟩ := checkedArtifact_eq_ok_iff.mp ha
  have hfind := h.find?_artifacts_iff.mpr ⟨spec, hspec, rfl, hcheck⟩
  have hmem : artifact config table.boxCycles id spec ∈ (Bundle.ofCatalogue artifacts).artifacts :=
    h.mem_artifacts_iff.mpr hfind
  have hgenerated := generated_artifact config table.boxCycles id spec
  obtain ⟨members, hmembers, hboxed⟩ := h.members_boxed hmem
  obtain ⟨spec', hspec', hof⟩ := h.find?_table_iff.mp hmembers
  cases hspec.symm.trans hspec'
  have hstands : List.Forall₂ (StandsFor (Resolver.ofSchema schema) id.name) (orderFields spec.fields.entries)
      (artifact config table.boxCycles id spec).data.members := by
    rw [hboxed, List.forall₂_map_right_iff]
    refine (membersOf_ok hof).imp fun field m hm => ?_
    exact { hm with unboxed := rfl }
  constructor
  case typeName | kind | documentation => rfl
  case members => exact ⟨_, orderFields_perm _, hstands⟩
  case ordered => exact declaredBefore_of_fields hstands (orderFields_ordered spec.fields.nodup_keys)
  case accessors => exact attributeNames_artifact config table.boxCycles id spec
  case functions => exact hgenerated.takesMembers
  case setters =>
    refine ⟨(artifact config table.boxCycles id spec).data.members.map (settersOf table.boxCycles), ?_, ?_⟩
    · rw [hgenerated.setters, setters, List.flatMap_def]
    · rw [List.forall₂_map_right_iff, List.forall₂_same]
      exact fun m hm => h.settersFor (h.resolved_member hmem hm)

theorem describes_section (h : Emits schema config table artifacts) (kind : TypeKind) :
    List.Forall₂ (Describes schema (.ofCatalogue artifacts) kind) (schema.sectionOf kind).entries
      (artifacts.sectionOf kind).values := by
  have hsection : List.Forall₂ (fun x y => y.1 = x.1 ∧ checkedArtifact config table.boxCycles ⟨kind, x.1⟩ x.2 = .ok y.2)
      (schema.sectionOf kind).entries (artifacts.sectionOf kind).entries := by
    obtain ⟨hproperties, hresources⟩ := Catalogue.traverse_ok h.emitted
    cases kind with
    | property => exact SortedMap.traverse_ok hproperties
    | resource => exact SortedMap.traverse_ok hresources
  have hentries := (List.forall₂_and_left _ _).mpr ⟨fun x (hx : x ∈ (schema.sectionOf kind).entries) => hx, hsection⟩
  rw [SortedMap.values, List.forall₂_map_right_iff]
  refine hentries.imp fun x y hxy => ?_
  have hspec : schema.find? ⟨kind, x.1⟩ = some x.2 := SortedMap.find?_eq_some_iff.mpr hxy.1
  exact h.describes hspec hxy.2.2

end Emits

theorem ascending_values {key : Artifact → String} {m : SortedMap Artifact}
    (h : ∀ k v, m.find? k = some v → key v = k) : (m.values.map fun a => utf8 (key a)).Pairwise (· < ·) := by
  have hkeys : m.values.map (fun a => utf8 (key a)) = m.keys.map utf8 := by
    rw [← SortedMap.map_values h, List.map_map]
    rfl
  rw [hkeys, SortedMap.keys, List.map_map, List.pairwise_map]
  exact m.ascending.imp utf8_lt_of_lt

/-- An emitted bundle holds, section by section and in the order of names, an artifact for each declared type: with a
    member for each field, required ones first and else in the order of field names, and with functions and setters
    that follow this order. -/
theorem describes_all {schema : Schema} {config : Config} {bundle : Bundle}
    (h : Bundle.ofSchema schema config = .ok bundle) :
    List.Forall₂ (Describes schema bundle .property) schema.properties.entries bundle.properties ∧
      List.Forall₂ (Describes schema bundle .resource) schema.resources.entries bundle.resources ∧
        (bundle.properties.map fun a => utf8 a.typeName).Pairwise (· < ·) ∧
          (bundle.resources.map fun a => utf8 a.typeName).Pairwise (· < ·) := by
  obtain ⟨table, artifacts, hE, rfl⟩ := ofSchema_ok h
  exact ⟨hE.describes_section .property, hE.describes_section .resource, ascending_values hE.typeName_of_properties,
    ascending_values hE.typeName_of_resources⟩

/-- A resource type with members of every sort, one of which holds a property type. -/
def orchard : Schema where
  properties := .ofList [("Tree.Graft", { fields := .ofList [
    ("Angle", .ofPrimitive "Double"),
    ("Scion", (Field.ofPrimitive "String").withRequired true)] })]
  resources := .ofList [("Tree", {
    fields := .ofList [
      ("Age", .ofPrimitive "Integer"),
      ("Grafts", .listOf "Graft"),
      ("Labels", (Field.primitiveMap "String").withRequired true),
      ("Neighbour", .nested "Tree"),
      ("Rootstock", (Field.nested "Graft").withRequired true)]
    attributes := .ofList [("Height", .ofPrimitive "Double")] })]

theorem describes_all_orchard : ∃ bundle, Bundle.ofSchema orchard {} = .ok bundle ∧
    List.Forall₂ (Describes orchard bundle .property) orchard.properties.entries bundle.properties ∧
      List.Forall₂ (Describes orchard bundle .resource) orchard.resources.entries bundle.resources ∧
        (bundle.properties.map fun a => utf8 a.typeName).Pairwise (· < ·) ∧
          (bundle.resources.map fun a => utf8 a.typeName).Pairwise (· < ·) := by
  have hsome : (Bundle.ofSchema orchard {}).toOption.isSome = true := by
    rw [Bundle.ofSchema, memberTable_eq_insertionSort]
    decide +kernel
  obtain ⟨bundle, h⟩ := exists_eq_ok hsome
  exact ⟨bundle, h, describes_all h⟩

end Typewright.Emission
