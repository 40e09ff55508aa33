import Mathlib.Data.List.Lattice
import Mathlib.Data.List.Pairwise
import Typewright.Emission.Bundle
import Typewright.Proofs.Claims

/-! # What a successful emission is

`Emits schema config table artifacts` says that the members of all types of a schema resolve to `table`, that no two
types claim one item, and that `artifacts` holds under every declared type its artifact, which has passed its own
check. Everything later theorems need about an emitted bundle is read off it here: which artifacts there are, what a
name means among them, what their members are and which names are distinct. -/

namespace Typewright

/-- The declared type that an artifact describes. -/
def Artifact.id (a : Artifact) : TypeId := ⟨a.kind, a.typeName⟩

/-- The names of the struct fields of an artifact. -/
def Artifact.fieldNames (a : Artifact) : List String :=
  Emission.withIdentity a.isResource Emission.logicalName (a.data.members.map (·.name)) Emission.dependsOn

/-- The type that a name means among the artifacts of a bundle: a property type hides a resource type. -/
def Bundle.denoted? (b : Bundle) (name : String) : Option TypeId := (b.find? name).map Artifact.id

/-- What type names stand for in the functions of `a`: its own name stands for `a` itself. -/
def Bundle.ownScope (b : Bundle) (a : Artifact) (name : String) : Option Artifact :=
  if name = a.typeName then some a else b.find? name

theorem Bundle.ownScope_self (b : Bundle) (a : Artifact) : b.ownScope a a.typeName = some a := if_pos rfl

namespace Emission

/-- What an artifact holds beside its members, all of it made from them by the functions of `Emission`. -/
structure Generated (config : Config) (table : MemberTable) (a : Artifact) : Prop where
  placement : a.placement = .ofType a.id config
  dataName : a.data.name = a.placement.className
  builderName : a.builder.name = a.placement.builderName
  resourceType : a.data.resourceType = if a.isResource then some a.typeName else none
  constructor : a.data.constructor = dataConstructor a.typeName a.data.members a.isResource
  builderConstructor : a.builder.constructor = builderConstructor a.typeName a.data.members a.isResource
  setters : a.builder.setters = Emission.setters table a.data.members
  build : a.builder.build = buildMethod a.typeName a.data.members a.isResource
  factory : a.factory = factory a.typeName a.data.members a.isResource
  accessors : ∀ acc ∈ a.data.accessors, a.isResource = true ∧ acc.body = .attributeRef acc.attributeName
  helper : a.helper = if a.isResource then resourceHelper a.typeName a.placement a.data.members
    else propertyHelper a.typeName a.placement a.data.members

theorem generated_artifact (config : Config) (table : MemberTable) (id : TypeId) (spec : TypeSpec) :
    Generated config table (artifact config table id spec) := by
  constructor
  case accessors =>
    intro acc hacc
    have hacc : acc ∈ if id.kind.isResource then accessors spec else [] := hacc
    split at hacc
    · rename_i hres
      obtain ⟨name, -, rfl⟩ := List.mem_map.mp hacc
      exact ⟨hres, rfl⟩
    · cases hacc
  all_goals rfl

theorem Generated.name_helper {config : Config} {table : MemberTable} {a : Artifact} (h : Generated config table a) :
    a.helper.name = a.placement.helperName := by
  rw [h.helper]
  split
  · rw [resourceHelper]
  · rw [propertyHelper]

theorem checkedArtifact_eq_ok_iff {config : Config} {table : MemberTable} {id : TypeId} {spec : TypeSpec}
    {a : Artifact} : checkedArtifact config table id spec = .ok a ↔
      a = artifact config table id spec ∧ checkArtifact a = .ok () := by
  rw [checkedArtifact, bind_eq_ok_iff]
  constructor
  · rintro ⟨_, hcheck, h⟩
    cases h
    exact ⟨rfl, hcheck⟩
  · rintro ⟨rfl, hcheck⟩
    exact ⟨(), hcheck, rfl⟩

theorem find?_boxCycles (table : MemberTable) (id : TypeId) : table.boxCycles.find? id =
    (table.find? id).map fun members =>
      members.map fun m => { m with boxed := table.closesCycle table.containment id m } :=
  Catalogue.find?_map _ table id

/-- The members of every type of `schema` resolve to `table`, and `artifacts` holds the artifact of every type. -/
structure Emits (schema : Schema) (config : Config) (table : MemberTable) (artifacts : Catalogue Artifact) : Prop where
  resolved : memberTable schema = .ok table
  placed : checkItems schema config = .ok ()
  emitted : schema.traverse (checkedArtifact config table.boxCycles) = .ok artifacts

theorem ofSchema_ok {schema : Schema} {config : Config} {bundle : Bundle}
    (h : Bundle.ofSchema schema config = .ok bundle) :
    ∃ table artifacts, Emits schema config table artifacts ∧ bundle = .ofCatalogue artifacts := by
  rw [Bundle.ofSchema] at h
  obtain ⟨table, htable, h⟩ := bind_eq_ok_iff.mp h
  obtain ⟨_, hitems, h⟩ := bind_eq_ok_iff.mp h
  obtain ⟨artifacts, hartifacts, h⟩ := bind_eq_ok_iff.mp h
  cases h
  exact ⟨table, artifacts, ⟨htable, hitems, hartifacts⟩, rfl⟩

/-! ### Names that no parameter has -/

theorem underscored_inj (base : String) (m n : Nat) (h : underscored base m = underscored base n) : m = n := by
  have hlength := congrArg String.length h
  simpa [underscored] using hlength

theorem freeName_not_mem (base : String) (taken : List String) : freeName base taken ∉ taken :=
  leastFree_not_mem (underscored_inj base) taken 0

/-! ### Names within an artifact -/

/-- Claims that all succeed are of distinct names, none of which was taken. -/
theorem foldlM_claim_ok {typeName : String} {claims : List (String × String)} : ∀ {o o' : Origins},
    claims.foldlM (Origins.claim typeName) o = .ok o' →
      (claims.map (·.1)).Nodup ∧ ∀ c ∈ claims, o.find? c.1 = none := by
  induction claims with
  | nil => exact fun _ => ⟨List.nodup_nil, fun c hc => nomatch hc⟩
  | cons c cs ih =>
    intro o o' h
    rw [List.foldlM_cons] at h
    obtain ⟨o₁, hc, h⟩ := bind_eq_ok_iff.mp h
    rw [Origins.claim] at hc
    split at hc
    · cases hc
    · rename_i hfree
      cases hc
      obtain ⟨hnodup, hcs⟩ := ih h
      -- A later name is free even after `c` has been claimed, so it differs from that of `c`.
      have hlater : ∀ d ∈ cs, ¬ c.1 = d.1 ∧ o.find? d.1 = none := by
        intro d hd
        have hnone := hcs d hd
        rw [SortedMap.find?_insert] at hnone
        split at hnone
        · cases hnone
        · rename_i hne
          exact ⟨hne, hnone⟩
      refine ⟨List.nodup_cons.mpr ⟨fun hmem => ?_, hnodup⟩, fun d hd => ?_⟩
      · obtain ⟨d, hd, heq⟩ := List.mem_map.mp hmem
        exact (hlater d hd).1 heq.symm
      · rcases List.mem_cons.mp hd with rfl | hd
        · exact hfree
        · exact (hlater d hd).2

/-- Names that pass the check are distinct among themselves and from the fixed ones. -/
theorem checkNames_ok {typeName : String} {fixed : List String} {claims : List (String × String)}
    (h : checkNames typeName fixed claims = .ok ()) :
    (claims.map (·.1)).Nodup ∧ ∀ name ∈ claims.map (·.1), name ∉ fixed := by
  rw [checkNames] at h
  obtain ⟨o, ho, -⟩ := bind_eq_ok_iff.mp h
  obtain ⟨hnodup, hfree⟩ := foldlM_claim_ok ho
  refine ⟨hnodup, fun name hname hfixed => ?_⟩
  obtain ⟨c, hc, rfl⟩ := List.mem_map.mp hname
  have hclaimed : (SortedMap.ofList (fixed.map fun name => (name, name))).contains c.1 = true :=
    SortedMap.contains_ofList.mpr (by simpa using hfixed)
  rw [SortedMap.contains, hfree c hc] at hclaimed
  cases hclaimed

section Refusals
variable {q : EmitError → Prop}

theorem failsWith_checkNames {typeName : String} (hq : ∀ first second member, q (.memberCollision typeName first second member))
    (fixed : List String) (claims : List (String × String)) : FailsWith q (checkNames typeName fixed claims) := by
  refine (FailsWith.foldlM (fun origins claim _ => ?_) _).bind fun _ _ => failsWith_ok _
  intro e he
  rw [Origins.claim] at he
  split at he
  · cases he
    exact hq _ _ _
  · cases he

/-- An artifact is refused for nothing but names within it. -/
theorem failsWith_checkedArtifact {config : Config} {table : MemberTable} {id : TypeId} {spec : TypeSpec}
    (hq : ∀ first second member, q (.memberCollision id.name first second member)) :
    FailsWith q (checkedArtifact config table id spec) := by
  refine FailsWith.bind ?_ fun _ _ => failsWith_ok _
  exact (failsWith_checkNames hq _ _).bind fun _ _ => (failsWith_checkNames hq _ _).bind fun _ _ =>
    failsWith_checkNames hq _ _

end Refusals

section Identity
variable {α β : Type} {resource : Bool} {before behind x : α} {inner : List α}

theorem map_withIdentity (f : α → β) : (withIdentity resource before inner behind).map f =
    withIdentity resource (f before) (inner.map f) (f behind) := by
  cases resource <;> simp [withIdentity]

theorem mem_withIdentity : x ∈ withIdentity resource before inner behind ↔
    (resource = true ∧ (x = before ∨ x = behind)) ∨ x ∈ inner := by
  cases resource with
  | false => simp [withIdentity]
  | true =>
    simp only [withIdentity, if_true, List.cons_append, List.mem_cons, List.mem_append, true_and]
    tauto

theorem nodup_withIdentity (hinner : inner.Nodup)
    (h : resource = true → before ≠ behind ∧ before ∉ inner ∧ behind ∉ inner) :
    (withIdentity resource before inner behind).Nodup := by
  cases resource with
  | false => exact hinner
  | true =>
    obtain ⟨hne, hbefore, hbehind⟩ := h rfl
    rw [withIdentity, if_pos rfl, List.cons_append, List.nodup_cons, List.mem_append, List.mem_singleton]
    refine ⟨not_or.mpr ⟨hbefore, hne⟩, hinner.append (List.nodup_singleton _) ?_⟩
    rintro y hy hy'
    rw [List.mem_singleton.mp hy'] at hy
    exact hbehind hy

end Identity

theorem requiredParams_false (members : List Member) :
    requiredParams members false = (requiredMembers members).map valueParam := rfl

theorem names_requiredParams (members : List Member) (resource : Bool) :
    (requiredParams members resource).map (·.name) =
      withIdentity resource logicalName ((requiredMembers members).map (·.name)) dependsOn := by
  rw [requiredParams, map_withIdentity, List.map_map]
  rfl

theorem Generated.names_constructorParams {config : Config} {table : MemberTable} {a : Artifact}
    (h : Generated config table a) : a.data.constructor.params.map (·.name) = a.fieldNames := by
  rw [h.constructor, dataConstructor, map_withIdentity, List.map_map]
  rfl

theorem names_fieldsWith (members : List Member) (resource : Bool) (identity : String → Body) (value : Member → Body) :
    (fieldsWith members resource identity value).map (·.1) =
      withIdentity resource logicalName (members.map (·.name)) dependsOn := by
  rw [fieldsWith, map_withIdentity, List.map_map]
  rfl

theorem mem_fieldsWith {members : List Member} {resource : Bool} {identity : String → Body} {value : Member → Body}
    {e : String × Body} (he : e ∈ fieldsWith members resource identity value) :
    (resource = true ∧ (e.1 = logicalName ∨ e.1 = dependsOn) ∧ e.2 = identity e.1) ∨
      ∃ m ∈ members, e = (m.name, value m) := by
  rcases mem_withIdentity.mp he with ⟨hres, rfl | rfl⟩ | hmem
  · exact Or.inl ⟨hres, Or.inl rfl, rfl⟩
  · exact Or.inl ⟨hres, Or.inr rfl, rfl⟩
  · obtain ⟨m, hm, rfl⟩ := List.mem_map.mp hmem
    exact Or.inr ⟨m, hm, rfl⟩

/-- What an artifact that has passed its check promises about its names. -/
structure NamesDistinct (a : Artifact) : Prop where
  members : (a.data.members.map (·.name)).Nodup
  identity : a.isResource = true → ∀ m ∈ a.data.members, m.name ≠ logicalName ∧ m.name ≠ dependsOn
  accessors : (a.data.accessors.map (·.name)).Nodup
  setters : (a.builder.setters.map (·.callable.name)).Nodup

theorem namesDistinct_of_check {a : Artifact} (h : checkArtifact a = .ok ()) : NamesDistinct a := by
  rw [checkArtifact] at h
  obtain ⟨_, hfields, h⟩ := bind_eq_ok_iff.mp h
  obtain ⟨_, hmethods, hbuilder⟩ := bind_eq_ok_iff.mp h
  obtain ⟨hmembers, hfixed⟩ := checkNames_ok hfields
  rw [List.map_map] at hmembers hfixed
  have haccessors := (checkNames_ok hmethods).1
  have hsetters := (checkNames_ok hbuilder).1
  rw [List.map_map] at haccessors hsetters
  refine ⟨hmembers, fun hres m hm => ?_, haccessors, hsetters⟩
  have hnot := hfixed m.name (List.mem_map.mpr ⟨m, hm, rfl⟩)
  rw [if_pos hres] at hnot
  simpa using hnot

namespace NamesDistinct
variable {a : Artifact}

/-- The identity of a resource is none of its members. -/
theorem not_mem_members (h : NamesDistinct a) (hres : a.isResource = true) :
    logicalName ≠ dependsOn ∧ logicalName ∉ a.data.members.map (·.name) ∧ dependsOn ∉ a.data.members.map (·.name) := by
  refine ⟨by decide, fun hmem => ?_, fun hmem => ?_⟩
  · obtain ⟨m, hm, heq⟩ := List.mem_map.mp hmem
    exact (h.identity hres m hm).1 heq
  · obtain ⟨m, hm, heq⟩ := List.mem_map.mp hmem
    exact (h.identity hres m hm).2 heq

theorem nodup_fields (h : NamesDistinct a) : a.fieldNames.Nodup :=
  nodup_withIdentity h.members h.not_mem_members

theorem nodup_requiredParams (h : NamesDistinct a) (resource : Bool) (hres : resource = true → a.isResource = true) :
    ((requiredParams a.data.members resource).map (·.name)).Nodup := by
  rw [names_requiredParams]
  have hsub : List.Sublist ((requiredMembers a.data.members).map (·.name)) (a.data.members.map (·.name)) :=
    List.filter_sublist.map _
  refine nodup_withIdentity (hsub.nodup h.members) fun hr => ?_
  obtain ⟨hne, hbefore, hbehind⟩ := h.not_mem_members (hres hr)
  exact ⟨hne, fun hmem => hbefore (hsub.subset hmem), fun hmem => hbehind (hsub.subset hmem)⟩

theorem nodup_requiredMembers (h : NamesDistinct a) : ((requiredParams a.data.members false).map (·.name)).Nodup :=
  h.nodup_requiredParams false fun hfalse => absurd hfalse Bool.false_ne_true

theorem member?_of_mem (h : NamesDistinct a) {m : Member} (hm : m ∈ a.data.members) :
    a.data.member? m.name = some m :=
  find?_of_mem h.members hm

theorem member?_identity (h : NamesDistinct a) (hres : a.isResource = true) {name : String}
    (hname : name = logicalName ∨ name = dependsOn) : a.data.member? name = none := by
  refine List.find?_eq_none.mpr fun m hm heq => ?_
  obtain ⟨hlogical, hdepends⟩ := h.identity hres m hm
  rcases hname with rfl | rfl
  · exact hlogical (beq_iff_eq.mp heq)
  · exact hdepends (beq_iff_eq.mp heq)

theorem setter?_of_mem (h : NamesDistinct a) {s : Setter} (hs : s ∈ a.builder.setters) :
    a.setter? s.callable.name = some s :=
  find?_of_mem h.setters hs

end NamesDistinct

/-! ### Members -/

theorem orderFields_perm (fields : List (String × Field)) : (orderFields fields).Perm fields := List.mergeSort_perm _ _

theorem nodup_map_orderFields {α : Type} {f : String × Field → α} {fields : List (String × Field)}
    (h : (fields.map f).Nodup) : ((orderFields fields).map f).Nodup :=
  ((orderFields_perm fields).map f).nodup_iff.mpr h

/-- What the member of a field is before cycles are boxed. -/
structure MemberOf (resolver : Resolver) (typeName : String) (field : String × Field) (m : Member) : Prop where
  fieldName : m.fieldName = field.1
  name : m.name = memberName field.1
  type : resolver.resolve field.2 typeName = .ok m.type
  required : m.required = field.2.required
  documentation : m.documentation = field.2.documentation
  unboxed : m.boxed = false

theorem addMember_ok {resolver : Resolver} {typeName : String} {members members' : List Member}
    {field : String × Field} (h : addMember resolver typeName members field = .ok members') :
    ∃ m, MemberOf resolver typeName field m ∧ members' = members ++ [m] := by
  rw [addMember] at h
  split at h
  · cases h
  · rename_i type htype
    dsimp only at h
    split at h
    · cases h
    · have hnew := (Except.ok.inj h).symm
      refine ⟨_, ?_, hnew⟩
      constructor
      case type => exact htype
      all_goals with_reducible rfl

theorem foldlM_addMember_ok {resolver : Resolver} {typeName : String} {fields : List (String × Field)} :
    ∀ {members members' : List Member}, fields.foldlM (addMember resolver typeName) members = .ok members' →
      ∃ new, List.Forall₂ (MemberOf resolver typeName) fields new ∧ members' = members ++ new := by
  induction fields with
  | nil =>
    intro members members' h
    cases h
    exact ⟨[], List.Forall₂.nil, (List.append_nil _).symm⟩
  | cons field fields ih =>
    intro members members' h
    rw [List.foldlM_cons] at h
    obtain ⟨members₁, hfield, h⟩ := bind_eq_ok_iff.mp h
    obtain ⟨m, hm, rfl⟩ := addMember_ok hfield
    obtain ⟨new, hnew, rfl⟩ := ih h
    exact ⟨m :: new, List.Forall₂.cons hm hnew, by simp⟩

/-- The members of a type are made from its fields, one from each, in the order of declaration. -/
theorem membersOf_ok {resolver : Resolver} {typeName : String} {spec : TypeSpec} {members : List Member}
    (h : membersOf resolver typeName spec = .ok members) :
    List.Forall₂ (MemberOf resolver typeName) (orderFields spec.fields.entries) members := by
  obtain ⟨new, hnew, rfl⟩ := foldlM_addMember_ok h
  exact hnew

/-! ### Setters -/

theorem eq_named_of_named? {t : FieldType} {name : String} (h : t.named? = some name) : t = .named name := by
  cases t with
  | named _ => exact congrArg _ (Option.some.inj h)
  | _ => cases h

/-- What setters a member has. One that makes a value in place stands beside a direct one of the plain name. -/
theorem mem_settersOf {table : MemberTable} {m : Member} {s : Setter} (hs : s ∈ settersOf table m) :
    (m.type.isWrappedScalar = true ∧ s = wrappingSetter m) ∨ (∃ name, s = directSetter m name) ∨
      ∃ target members, m.type.named? = some target ∧ table.properties.find? target = some members ∧
        s = nestedSetter m target members ∧ directSetter m (setterName m.name) ∈ settersOf table m := by
  have hplain : m.type.isWrappedScalar = false → directSetter m (setterName m.name) ∈ settersOf table m := by
    intro hraw
    simp [settersOf, hraw]
  rw [settersOf] at hs
  split at hs
  · rename_i hraw
    rcases List.mem_cons.mp hs with rfl | hs
    · exact Or.inl ⟨hraw, rfl⟩
    · exact Or.inr (Or.inl ⟨_, List.mem_singleton.mp hs⟩)
  · rename_i hraw
    rcases List.mem_cons.mp hs with rfl | hs
    · exact Or.inr (Or.inl ⟨_, rfl⟩)
    · split at hs
      · cases hs
      · rename_i target htarget
        split at hs
        · cases hs
        · rename_i members hmembers
          exact Or.inr (Or.inr ⟨target, members, htarget, hmembers, List.mem_singleton.mp hs,
            hplain (Bool.eq_false_iff.mpr hraw)⟩)

/-! ### Artifacts and what names mean among them -/

namespace Emits
variable {schema : Schema} {config : Config} {table : MemberTable} {artifacts : Catalogue Artifact} {id : TypeId}
  {a : Artifact} {name : String}

theorem traversed (h : Emits schema config table artifacts) :
    schema.traverse (fun id spec => membersOf (Resolver.ofSchema schema) id.name spec) = .ok table := h.resolved

theorem find?_table_iff (h : Emits schema config table artifacts) {members : List Member} :
    table.find? id = some members ↔
      ∃ spec, schema.find? id = some spec ∧ membersOf (Resolver.ofSchema schema) id.name spec = .ok members :=
  Catalogue.find?_traverse_eq_some_iff h.traversed

theorem find?_artifacts_iff (h : Emits schema config table artifacts) :
    artifacts.find? id = some a ↔
      ∃ spec, schema.find? id = some spec ∧ a = artifact config table.boxCycles id spec ∧ checkArtifact a = .ok () := by
  simp only [Catalogue.find?_traverse_eq_some_iff h.emitted, checkedArtifact_eq_ok_iff]

theorem unboxed (h : Emits schema config table artifacts) {members : List Member} (hm : table.find? id = some members) :
    ∀ m ∈ members, m.boxed = false := by
  obtain ⟨spec, -, hspec⟩ := h.find?_table_iff.mp hm
  intro m hmem
  obtain ⟨f, -, hf⟩ := exists_of_mem_right (membersOf_ok hspec) hmem
  exact hf.unboxed

theorem id_eq (h : Emits schema config table artifacts) (ha : artifacts.find? id = some a) : a.id = id := by
  obtain ⟨spec, -, rfl, -⟩ := h.find?_artifacts_iff.mp ha
  rfl

theorem id_of_properties (h : Emits schema config table artifacts) (ha : artifacts.properties.find? name = some a) :
    a.id = ⟨.property, name⟩ := by
  have hfind : artifacts.find? ⟨.property, name⟩ = some a := ha
  exact h.id_eq hfind

theorem id_of_resources (h : Emits schema config table artifacts) (ha : artifacts.resources.find? name = some a) :
    a.id = ⟨.resource, name⟩ := by
  have hfind : artifacts.find? ⟨.resource, name⟩ = some a := ha
  exact h.id_eq hfind

theorem isSome_find? (h : Emits schema config table artifacts) (id : TypeId) :
    (artifacts.find? id).isSome = (table.find? id).isSome := by
  have ha := Catalogue.find?_traverse h.emitted id
  have ht := Catalogue.find?_traverse h.traversed id
  cases hs : schema.find? id <;> cases hfa : artifacts.find? id <;> cases hft : table.find? id <;>
    simp_all

theorem typeName_of_properties (h : Emits schema config table artifacts) :
    ∀ k v, artifacts.properties.find? k = some v → v.typeName = k := fun _ _ hv =>
  congrArg TypeId.name (h.id_of_properties hv)

theorem typeName_of_resources (h : Emits schema config table artifacts) :
    ∀ k v, artifacts.resources.find? k = some v → v.typeName = k := fun _ _ hv =>
  congrArg TypeId.name (h.id_of_resources hv)

theorem mem_artifacts_iff (h : Emits schema config table artifacts) :
    a ∈ (Bundle.ofCatalogue artifacts).artifacts ↔ artifacts.find? a.id = some a := by
  simp only [Bundle.artifacts, Bundle.ofCatalogue, List.mem_append, SortedMap.mem_values_iff]
  constructor
  · rintro (⟨k, hk⟩ | ⟨k, hk⟩)
    · rwa [h.id_of_properties hk]
    · rwa [h.id_of_resources hk]
  · intro ha
    rw [Artifact.id] at ha
    cases hkind : a.kind with
    | property =>
      rw [hkind] at ha
      exact Or.inl ⟨a.typeName, ha⟩
    | resource =>
      rw [hkind] at ha
      exact Or.inr ⟨a.typeName, ha⟩

theorem exists_artifact (h : Emits schema config table artifacts) (hid : (table.find? id).isSome) :
    ∃ a ∈ (Bundle.ofCatalogue artifacts).artifacts, a.id = id := by
  rw [← h.isSome_find?] at hid
  obtain ⟨a, ha⟩ := Option.isSome_iff_exists.mp hid
  have hid := h.id_eq ha
  exact ⟨a, h.mem_artifacts_iff.mpr (hid.symm ▸ ha), hid⟩

theorem eq_of_id_eq (h : Emits schema config table artifacts) {b : Artifact}
    (ha : a ∈ (Bundle.ofCatalogue artifacts).artifacts) (hb : b ∈ (Bundle.ofCatalogue artifacts).artifacts)
    (hid : a.id = b.id) : a = b := by
  rw [h.mem_artifacts_iff] at ha hb
  rw [hid, hb] at ha
  exact (Option.some.inj ha).symm

theorem find?_id (h : Emits schema config table artifacts) (ha : a ∈ (Bundle.ofCatalogue artifacts).artifacts) :
    (Bundle.ofCatalogue artifacts).artifacts.find? (·.id = a.id) = some a := by
  cases hfind : (Bundle.ofCatalogue artifacts).artifacts.find? (·.id = a.id) with
  | none =>
    have hnone := List.find?_eq_none.mp hfind a ha
    simp at hnone
  | some b =>
    have hid : b.id = a.id := by simpa using List.find?_some hfind
    rw [h.eq_of_id_eq (List.mem_of_find?_eq_some hfind) ha hid]

theorem find?_bundle (h : Emits schema config table artifacts) (name : String) :
    (Bundle.ofCatalogue artifacts).find? name =
      (artifacts.find? ⟨.property, name⟩).or (artifacts.find? ⟨.resource, name⟩) := by
  rw [Bundle.find?, Bundle.artifacts, Bundle.ofCatalogue, List.find?_append,
    SortedMap.find?_values h.typeName_of_properties, SortedMap.find?_values h.typeName_of_resources]
  rfl

/-- A name means the same type in a member and among the artifacts. -/
theorem denoted?_bundle (h : Emits schema config table artifacts) (name : String) :
    (Bundle.ofCatalogue artifacts).denoted? name = table.denoted? name := by
  have hp := h.isSome_find? ⟨.property, name⟩
  have hr := h.isSome_find? ⟨.resource, name⟩
  rw [Bundle.denoted?, h.find?_bundle, MemberTable.denoted?]
  cases hfp : artifacts.find? ⟨.property, name⟩ with
  | some b =>
    rw [hfp] at hp
    have hkind : table.kindOf? name = some .property :=
      Catalogue.kindOf?_eq_some_iff.mpr ⟨Option.isSome_iff_exists.mp hp.symm, fun hk => nomatch hk⟩
    rw [hkind, Option.some_or, Option.map_some, h.id_eq hfp]
    rfl
  | none =>
    rw [hfp] at hp
    have hnone : table.find? ⟨.property, name⟩ = none := by simpa using hp.symm
    rw [Option.none_or]
    cases hfr : artifacts.find? ⟨.resource, name⟩ with
    | some b =>
      rw [hfr] at hr
      have hkind : table.kindOf? name = some .resource :=
        Catalogue.kindOf?_eq_some_iff.mpr ⟨Option.isSome_iff_exists.mp hr.symm, fun _ => hnone⟩
      rw [hkind, Option.map_some, h.id_eq hfr]
      rfl
    | none =>
      rw [hfr] at hr
      have hkind : table.kindOf? name = none := by
        rw [Option.eq_none_iff_forall_ne_some]
        intro kind hkind
        obtain ⟨⟨members, hmembers⟩, -⟩ := Catalogue.kindOf?_eq_some_iff.mp hkind
        cases kind with
        | property => simp [hnone] at hmembers
        | resource => simp [hmembers] at hr
      rw [hkind]
      rfl

theorem members_eq (h : Emits schema config table artifacts) (ha : a ∈ (Bundle.ofCatalogue artifacts).artifacts) :
    table.boxCycles.find? a.id = some a.data.members := by
  obtain ⟨spec, hspec, heq, -⟩ := h.find?_artifacts_iff.mp (h.mem_artifacts_iff.mp ha)
  have hsome : (table.boxCycles.find? a.id).isSome := by
    rw [MemberTable.boxCycles, Catalogue.find?_map, Option.isSome_map, ← h.isSome_find?, h.mem_artifacts_iff.mp ha]
    rfl
  obtain ⟨members, hmembers⟩ := Option.isSome_iff_exists.mp hsome
  have hdata : a.data.members = (table.boxCycles.find? a.id).getD [] := by
    conv_lhs => rw [heq]
    rfl
  rw [hdata, hmembers]
  rfl

theorem generated (h : Emits schema config table artifacts) (ha : a ∈ (Bundle.ofCatalogue artifacts).artifacts) :
    Generated config table.boxCycles a := by
  obtain ⟨spec, -, heq, -⟩ := h.find?_artifacts_iff.mp (h.mem_artifacts_iff.mp ha)
  rw [heq]
  exact generated_artifact config table.boxCycles a.id spec

/-- The members of an artifact are those of the table, boxed where they close a cycle. -/
theorem members_boxed (h : Emits schema config table artifacts)
    (ha : a ∈ (Bundle.ofCatalogue artifacts).artifacts) : ∃ members, table.find? a.id = some members ∧
      a.data.members = members.map fun m => { m with boxed := table.closesCycle table.containment a.id m } := by
  have hmembers := h.members_eq ha
  rw [find?_boxCycles, Option.map_eq_some_iff] at hmembers
  obtain ⟨members, hfind, heq⟩ := hmembers
  exact ⟨members, hfind, heq.symm⟩

/-- The property type that a member of that name is made of in place is an artifact with these members. -/
theorem find?_of_properties (h : Emits schema config table artifacts) {members : List Member}
    (hmembers : table.boxCycles.properties.find? name = some members) :
    ∃ b ∈ (Bundle.ofCatalogue artifacts).artifacts, (Bundle.ofCatalogue artifacts).find? name = some b ∧
      b.id = ⟨.property, name⟩ ∧ b.data.members = members ∧ b.factory.params = requiredParams members false := by
  have hsome : (table.find? ⟨.property, name⟩).isSome := by
    have hfind : table.boxCycles.find? ⟨.property, name⟩ = some members := hmembers
    rw [MemberTable.boxCycles, Catalogue.find?_map] at hfind
    obtain ⟨unboxed, hunboxed, -⟩ := Option.map_eq_some_iff.mp hfind
    rw [hunboxed]
    rfl
  obtain ⟨b, hb, hid⟩ := h.exists_artifact hsome
  have hfind := h.mem_artifacts_iff.mp hb
  have hb' := h.members_eq hb
  rw [hid] at hfind hb'
  have hmembers : b.data.members = members := (Option.some.inj (hmembers.symm.trans hb')).symm
  refine ⟨b, hb, by rw [h.find?_bundle, hfind, Option.some_or], hid, hmembers, ?_⟩
  have hkind : b.kind = .property := congrArg TypeId.kind hid
  rw [(h.generated hb).factory, hmembers, Artifact.isResource, hkind]
  rfl

/-- A setter of an artifact is a setter of one of its members, which has its name from the member. -/
theorem exists_member_of_setter (h : Emits schema config table artifacts)
    (ha : a ∈ (Bundle.ofCatalogue artifacts).artifacts) {s : Setter} (hs : s ∈ a.builder.setters) :
    ∃ m ∈ a.data.members, s ∈ settersOf table.boxCycles m := by
  rw [(h.generated ha).setters] at hs
  exact List.mem_flatMap.mp hs

theorem mem_setters (h : Emits schema config table artifacts) (ha : a ∈ (Bundle.ofCatalogue artifacts).artifacts)
    {m : Member} (hm : m ∈ a.data.members) {s : Setter} (hs : s ∈ settersOf table.boxCycles m) :
    s ∈ a.builder.setters := by
  rw [(h.generated ha).setters]
  exact List.mem_flatMap.mpr ⟨m, hm, hs⟩

theorem placements_eq (h : Emits schema config table artifacts) : (placements schema config).map (·.2) =
    (Bundle.ofCatalogue artifacts).artifacts.map (·.placement) := by
  obtain ⟨hproperties, hresources⟩ := Catalogue.traverse_ok h.emitted
  have hplacement : ∀ {id : TypeId} {spec : TypeSpec} {a : Artifact},
      checkedArtifact config table.boxCycles id spec = .ok a → Placement.ofType id config = a.placement := by
    intro id spec a ha
    obtain ⟨rfl, -⟩ := checkedArtifact_eq_ok_iff.mp ha
    rfl
  have hsection : ∀ {kind : TypeKind} {specs : List (String × TypeSpec)} {entries : List (String × Artifact)},
      List.Forall₂ (fun x y => y.1 = x.1 ∧ checkedArtifact config table.boxCycles ⟨kind, x.1⟩ x.2 = .ok y.2)
        specs entries →
      specs.map (fun e => Placement.ofType ⟨kind, e.1⟩ config) = entries.map (·.2.placement) := by
    intro kind specs entries hall
    rw [← List.forall₂_eq_eq_eq, List.forall₂_map_left_iff, List.forall₂_map_right_iff]
    exact hall.imp fun x y hxy => hplacement hxy.2
  simp only [placements, Catalogue.toList, Bundle.artifacts, Bundle.ofCatalogue, SortedMap.values, List.map_append,
    List.map_map]
  exact congrArg₂ _ (hsection (SortedMap.traverse_ok hproperties)) (hsection (SortedMap.traverse_ok hresources))

/-- No two artifacts claim one item. -/
theorem distinctItems (h : Emits schema config table artifacts) :
    DistinctItems ((Bundle.ofCatalogue artifacts).artifacts.map (·.placement)) :=
  h.placements_eq ▸ distinctItems_of_checkItems h.placed

/-- Two data types that stand in one module under one name are one. -/
theorem eq_of_placement_eq (h : Emits schema config table artifacts) {b : Artifact}
    (ha : a ∈ (Bundle.ofCatalogue artifacts).artifacts) (hb : b ∈ (Bundle.ofCatalogue artifacts).artifacts)
    (hmodule : a.placement.modulePath = b.placement.modulePath)
    (hclass : a.placement.className = b.placement.className) :
    a = b := by
  have hitems := h.distinctItems.items
  rw [List.flatMap_map, List.nodup_flatMap] at hitems
  by_contra hne
  have hsymm : Std.Symm (Function.onFun List.Disjoint fun a : Artifact => itemTexts a.placement) :=
    ⟨fun _ _ hd => List.Disjoint.symm hd⟩
  have hdisjoint := hitems.2.forall ha hb hne
  refine hdisjoint (a := itemText a.placement.modulePath a.placement.className) List.mem_cons_self ?_
  rw [hmodule, hclass]
  exact List.mem_cons_self

theorem namesDistinct (h : Emits schema config table artifacts)
    (ha : a ∈ (Bundle.ofCatalogue artifacts).artifacts) : NamesDistinct a := by
  obtain ⟨spec, -, -, hcheck⟩ := h.find?_artifacts_iff.mp (h.mem_artifacts_iff.mp ha)
  exact namesDistinct_of_check hcheck

end Emits

end Emission

end Typewright
