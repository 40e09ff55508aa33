import Typewright.Proofs.Modules
import Typewright.Proofs.References
import Typewright.Proofs.Written

/-! # References of an artifact to itself

The functions of an artifact that only mention the artifact itself name it six times, four times in what they make and
twice in the helper. What is written for such a name is a path that starts from the module of the artifact. For every
artifact but the shadowed ones it leads to where the artifact itself is declared. For a shadowed one it leads to the
property type of the same name, which is declared in another module. -/

namespace Typewright.Source

open Emission

/-! ### What an artifact mentions of itself -/

theorem referencesInFields_eq_nil {fields : List (String × Body)} (h : ∀ e ∈ fields, references e.2 = []) :
    referencesInFields fields = [] := by
  induction fields with
  | nil => rfl
  | cons e fields ih =>
    rw [referencesInFields, h e List.mem_cons_self, ih fun e he => h e (List.mem_cons_of_mem _ he)]
    rfl

theorem referencesInArgs_eq_nil {args : List Body} (h : ∀ b ∈ args, references b = []) :
    referencesInArgs args = [] := by
  induction args with
  | nil => rfl
  | cons b args ih =>
    rw [referencesInArgs, h b List.mem_cons_self, ih fun b hb => h b (List.mem_cons_of_mem _ hb)]
    rfl

theorem references_boxedIf (m : Typewright.Member) (name : String) : references (boxedIf m (.param name)) = [] := by
  rw [boxedIf]
  split <;> rfl

/-- Struct fields mention nothing if what they hold does not. -/
theorem referencesInFields_fieldsWith {members : List Typewright.Member} {resource : Bool} {identity : String → Body}
    {value : Typewright.Member → Body} (hidentity : ∀ name, references (identity name) = [])
    (hvalue : ∀ m, references (value m) = []) :
    referencesInFields (fieldsWith members resource identity value) = [] := by
  refine referencesInFields_eq_nil fun e he => ?_
  rcases mem_fieldsWith he with ⟨-, -, hbody⟩ | ⟨m, -, rfl⟩
  · rw [hbody]
    exact hidentity e.1
  · exact hvalue m

theorem references_of_mem_paramBodies {params : List Param} {b : Body} (hb : b ∈ paramBodies params) :
    references b = [] := by
  obtain ⟨p, -, rfl⟩ := List.mem_map.mp hb
  rfl

theorem stepReferences_of_mem {members : List Typewright.Member} {resource : Bool} {p : Param}
    (hp : p ∈ requiredParams members resource) : stepReferences p = [] := by
  rcases mem_withIdentity.mp hp with ⟨-, rfl | rfl⟩ | hmem
  · rfl
  · rfl
  · obtain ⟨m, -, rfl⟩ := List.mem_map.mp hmem
    rfl

theorem flatMap_requiredParams (members : List Typewright.Member) (resource : Bool) :
    (requiredParams members resource).flatMap stepReferences = [] :=
  List.flatMap_eq_nil_iff.mpr fun _ hp => stepReferences_of_mem hp

section Own
variable {schema : Schema} {config : Config} {table : MemberTable} {artifacts : Catalogue Artifact} {a : Artifact}

variable (h : Emits schema config table artifacts) (ha : a ∈ (Bundle.ofCatalogue artifacts).artifacts)
include h ha

theorem referencesOf_constructor : referencesOf a.data.constructor = [⟨.data, a.typeName⟩] := by
  have hconstructor := (h.generated ha).constructor
  have hparams : a.data.constructor.params.flatMap stepReferences = [] := by
    refine List.flatMap_eq_nil_iff.mpr fun p hp => ?_
    rw [hconstructor] at hp
    rcases mem_withIdentity.mp hp with ⟨-, rfl | rfl⟩ | hmem
    · rfl
    · rfl
    · obtain ⟨m, -, rfl⟩ := List.mem_map.mp hmem
      cases m.required <;> rfl
  rw [referencesOf, hparams, hconstructor, dataConstructor, references,
    referencesInFields_fieldsWith (fun _ => by rw [references]) fun m => ?_]
  · rfl
  · split
    · rw [references, references]
    · exact references_boxedIf m m.name

theorem referencesOf_builderConstructor : referencesOf a.builder.constructor = [⟨.builder, a.typeName⟩] := by
  rw [(h.generated ha).builderConstructor, referencesOf, builderConstructor, flatMap_requiredParams, references,
    referencesInFields_fieldsWith (fun _ => by rw [references]) fun m => ?_]
  · rfl
  · split
    · exact references_boxedIf m m.name
    · rw [references]

theorem referencesOf_build : referencesOf a.builder.build = [⟨.data, a.typeName⟩] := by
  rw [(h.generated ha).build, referencesOf, buildMethod, references,
    referencesInFields_fieldsWith (fun _ => by rw [references]) fun _ => by rw [references]]
  rfl

theorem referencesOf_factory : referencesOf a.factory = [⟨.builder, a.typeName⟩] := by
  rw [(h.generated ha).factory, referencesOf, factory, flatMap_requiredParams, references,
    referencesInArgs_eq_nil fun _ hb => references_of_mem_paramBodies hb]
  rfl

theorem referencesOf_helper : referencesOf a.helper = [⟨.builder, a.typeName⟩, ⟨.data, a.typeName⟩] := by
  rw [(h.generated ha).helper, referencesOf]
  split
  · have hargs : ∀ b ∈ paramBodies (requiredParams a.data.members false) ++
        [.dependenciesOr (.param dependsOn) (contextName (requiredParams a.data.members false))],
        references b = [] := by
      intro b hb
      rcases List.mem_append.mp hb with hb | hb
      · exact references_of_mem_paramBodies hb
      · rw [List.mem_singleton.mp hb, references, references]
    simp only [resourceHelper, builtBy, references, List.cons_append, referencesInArgs, referencesInArgs_eq_nil hargs,
      List.flatMap_append, List.flatMap_cons, flatMap_requiredParams]
    rfl
  · simp only [propertyHelper, builtBy, references, List.flatMap_append, flatMap_requiredParams,
      referencesInArgs_eq_nil fun _ hb => references_of_mem_paramBodies hb]
    rfl

theorem ownReferences_eq : ownReferences a = [⟨.data, a.typeName⟩, ⟨.builder, a.typeName⟩, ⟨.data, a.typeName⟩,
    ⟨.builder, a.typeName⟩, ⟨.builder, a.typeName⟩, ⟨.data, a.typeName⟩] := by
  rw [ownReferences]
  simp [referencesOf_constructor h ha, referencesOf_builderConstructor h ha, referencesOf_build h ha,
    referencesOf_factory h ha, referencesOf_helper h ha]

end Own

/-! ### Where paths lead -/

/-- Where a path leads that starts from the module `here`. -/
def ItemPath.resolve (here : List String) (p : ItemPath) : Place :=
  (here.take (here.length - p.ascent) ++ p.descent, p.item)

/-- What is written for a reference in the module of `scope` leads to a place. -/
def Reference.LeadsTo (scope : Scope) (r : Reference) (place : Place) : Prop :=
  ∃ here p, scope.path.mapM identifier = .ok here ∧ r.path scope = .ok p ∧ p.resolve here = place

/-- From wherever it starts, a path leads to where its target is declared. -/
theorem Reference.leadsTo_iff {scope : Scope} {r : Reference} {b : Artifact} {here : List String} {place : Place}
    (hb : denoted? scope.bundle r.target = some b) (hhere : scope.path.mapM identifier = .ok here) :
    r.LeadsTo scope place ↔ declaredAt b r.role = .ok place := by
  have hlength : here.length = scope.path.length := (forall₂_mapM_ok hhere).length_eq.symm
  constructor
  · rintro ⟨here', p, hhere', hp, rfl⟩
    rw [hhere] at hhere'
    cases hhere'
    rw [path_eq hb, Scope.pathTo] at hp
    obtain ⟨item, hitem, hp⟩ := bind_eq_ok_iff.mp hp
    split at hp
    · rename_i hsame
      cases hp
      rw [declaredAt, hsame, hhere, hitem]
      simp [ItemPath.resolve, bind, Except.bind, pure, Except.pure]
    · obtain ⟨modules, hmodules, hp⟩ := bind_eq_ok_iff.mp hp
      cases hp
      rw [declaredAt, hmodules, hitem]
      simp [ItemPath.resolve, hlength, bind, Except.bind, pure, Except.pure]
  · intro hplace
    obtain ⟨modules, item⟩ := place
    obtain ⟨hmodules, hitem⟩ := declaredAt_eq_ok_iff.mp hplace
    rw [LeadsTo, path_eq hb, Scope.pathTo, hitem]
    -- In its own module the target is named as it is; otherwise the path climbs to the root first.
    by_cases hsame : b.placement.modulePath = scope.path
    · rw [hsame, hhere] at hmodules
      cases hmodules
      refine ⟨here, ⟨0, [], item⟩, hhere, ?_, by simp [ItemPath.resolve]⟩
      simp [hsame, bind, Except.bind, pure, Except.pure]
    · refine ⟨here, ⟨scope.path.length, modules, item⟩, hhere, ?_, by simp [ItemPath.resolve, hlength]⟩
      simp [hsame, hmodules, bind, Except.bind, pure, Except.pure]

/-! ### Where self references lead -/

section Home
variable {schema : Schema} {config : Config} {table : MemberTable} {artifacts : Catalogue Artifact} {a : Artifact}
  {runtime : RuntimePath} {r : Reference} {place : Place}

theorem target_of_mem_ownReferences (h : Emits schema config table artifacts)
    (ha : a ∈ (Bundle.ofCatalogue artifacts).artifacts) (hr : r ∈ ownReferences a) : r.target = a.typeName := by
  rw [ownReferences_eq h ha] at hr
  simp only [List.mem_cons, List.not_mem_nil, or_false] at hr
  rcases hr with rfl | rfl | rfl | rfl | rfl | rfl <;> rfl

/-- In the functions of an artifact its name leads to what has the name among the artifacts. -/
theorem ownReference_leadsTo_iff (h : Emits schema config table artifacts)
    (ha : a ∈ (Bundle.ofCatalogue artifacts).artifacts) (hr : r ∈ ownReferences a)
    (hplace : declaredAt a r.role = .ok place) {b : Artifact}
    (hb : (Bundle.ofCatalogue artifacts).find? a.typeName = some b) :
    r.LeadsTo ⟨a.placement.modulePath, .ofCatalogue artifacts, runtime⟩ place ↔ declaredAt b r.role = .ok place := by
  obtain ⟨hhere, -⟩ := declaredAt_eq_ok_iff.mp hplace
  refine Reference.leadsTo_iff ?_ hhere
  rw [target_of_mem_ownReferences h ha hr, h.denoted?_source]
  exact hb

/-- The property type that hides a shadowed artifact is declared in another module. -/
theorem exists_hiding (h : Emits schema config table artifacts) (ha : a ∈ (Bundle.ofCatalogue artifacts).artifacts)
    (hshadowed : Shadowed schema a) : ∃ b ∈ (Bundle.ofCatalogue artifacts).artifacts,
      (Bundle.ofCatalogue artifacts).find? a.typeName = some b ∧ b.id = ⟨.property, a.typeName⟩ ∧
        b.placement.modulePath ≠ a.placement.modulePath := by
  obtain ⟨b, hb, hfind, hid⟩ := h.find?_of_shadowed hshadowed
  refine ⟨b, hb, hfind, hid, fun hmodule => ?_⟩
  have hclass : b.placement.className = a.placement.className := by
    rw [(h.generated hb).placement, (h.generated ha).placement, hid]
    rfl
  have heq := h.eq_of_placement_eq hb ha hmodule hclass
  rw [heq, Artifact.id, hshadowed.1] at hid
  cases hid

end Home

/-- Every artifact names itself six times in its functions. These names lead to where it is declared unless it is
    shadowed; then they lead to the property type of its name, in another module. In the file every artifact stands
    where it is declared, with a path for each of these names. -/
theorem ownReferences_lead_home {schema : Schema} {config : Config} {bundle : Bundle} {a : Artifact}
    (h : Bundle.ofSchema schema config = .ok bundle) (ha : a ∈ bundle.artifacts) (runtime : RuntimePath) :
    ownReferences a = [⟨.data, a.typeName⟩, ⟨.builder, a.typeName⟩, ⟨.data, a.typeName⟩, ⟨.builder, a.typeName⟩,
        ⟨.builder, a.typeName⟩, ⟨.data, a.typeName⟩] ∧
      (¬ Shadowed schema a → ∀ r ∈ ownReferences a, ∀ place, declaredAt a r.role = .ok place →
        r.LeadsTo ⟨a.placement.modulePath, bundle, runtime⟩ place) ∧
      (Shadowed schema a → ∃ b ∈ bundle.artifacts, b.id = ⟨.property, a.typeName⟩ ∧
        b.placement.modulePath ≠ a.placement.modulePath ∧
          ∀ r ∈ ownReferences a, ∀ place, declaredAt a r.role = .ok place →
            (r.LeadsTo ⟨a.placement.modulePath, bundle, runtime⟩ place ↔ declaredAt b r.role = .ok place)) ∧
      ∀ items, fileItems bundle config = .ok items → ∃ runtime decls modules,
        RuntimePath.ofText config.runtimePath = .ok runtime ∧
          declarations ⟨a.placement.modulePath, bundle, runtime⟩ a = .ok decls ∧
            (∀ item ∈ decls, InModule modules items item) ∧
              (∀ role, ∃ s, .struct s ∈ decls ∧ declaredAt a role = .ok (modules, s.name)) ∧
                ∀ r ∈ ownReferences a, ∃ item ∈ decls,
                  Written ⟨a.placement.modulePath, bundle, runtime⟩ item.code r := by
  obtain ⟨table, artifacts, hE, rfl⟩ := ofSchema_ok h
  refine ⟨ownReferences_eq hE ha, fun hnot r hr place hplace => ?_, fun hshadowed => ?_, fun items hitems => ?_⟩
  · exact (ownReference_leadsTo_iff hE ha hr hplace ((hE.find?_typeName_iff ha).mpr hnot)).mpr hplace
  · obtain ⟨b, hb, hfind, hid, hmodule⟩ := exists_hiding hE ha hshadowed
    exact ⟨b, hb, hid, hmodule, fun r hr place hplace => ownReference_leadsTo_iff hE ha hr hplace hfind⟩
  · have hgen := hE.generated ha
    obtain ⟨runtime, decls, modules, hruntime, hdecls, hin, hplaces⟩ :=
      declared_of_fileItems hitems ha hgen.dataName hgen.builderName
    refine ⟨runtime, decls, modules, hruntime, hdecls, hin, hplaces, fun r hr => ?_⟩
    exact written_allReferences hdecls (ownReferences_subset hr)

/-- Of two types of one name, the property type finds itself, and the resource type finds the property type. -/
theorem ownReferences_lead_home_twins : ∃ bundle, Bundle.ofSchema twins {} = .ok bundle ∧
    ∀ a ∈ bundle.artifacts, ∀ runtime,
      (a.kind = .property → ∀ r ∈ ownReferences a, ∀ place, declaredAt a r.role = .ok place →
        r.LeadsTo ⟨a.placement.modulePath, bundle, runtime⟩ place) ∧
      (a.id = ⟨.resource, "Node"⟩ → ∃ b ∈ bundle.artifacts, b.id = ⟨.property, "Node"⟩ ∧
        b.placement.modulePath ≠ a.placement.modulePath ∧
          ∀ r ∈ ownReferences a, ∀ place, declaredAt a r.role = .ok place →
            (r.LeadsTo ⟨a.placement.modulePath, bundle, runtime⟩ place ↔ declaredAt b r.role = .ok place)) := by
  have hsome : (Bundle.ofSchema twins {}).toOption.isSome = true := by decide +kernel
  obtain ⟨bundle, hok⟩ := Option.isSome_iff_exists.mp hsome
  refine ⟨bundle, eq_ok_of_toOption hok, fun a ha runtime => ?_⟩
  obtain ⟨-, hhome, hhidden, -⟩ := ownReferences_lead_home (eq_ok_of_toOption hok) ha runtime
  refine ⟨fun hkind => hhome fun hshadowed => ?_, fun hid => ?_⟩
  · rw [hshadowed.1] at hkind
    cases hkind
  · obtain ⟨hkind, hname⟩ := TypeId.mk.inj hid
    have hshadowed : Shadowed twins a := ⟨hkind, by rw [hname]; decide +kernel⟩
    rw [← hname]
    exact hhidden hshadowed

/-- The name of the resource type of the two does not lead to where it is declared. -/
theorem twins_lead_astray : ∃ bundle, Bundle.ofSchema twins {} = .ok bundle ∧
    ¬ ∀ a ∈ bundle.artifacts, ∀ r ∈ ownReferences a, ∀ place, declaredAt a r.role = .ok place →
      ∀ runtime, r.LeadsTo ⟨a.placement.modulePath, bundle, runtime⟩ place := by
  have hsome : ((Bundle.ofSchema twins {}).toOption.bind (·.resources.head?)).map
      (fun a => (a.id, (declaredAt a .data).toOption)) =
      some (⟨.resource, "Node"⟩, some (["resource"], "Node")) := by decide +kernel
  have hother : ((Bundle.ofSchema twins {}).toOption.bind (·.find? "Node")).map
      (fun a => (declaredAt a .data).toOption) = some (some (["property"], "Node")) := by decide +kernel
  obtain ⟨a, ha, heq⟩ := Option.map_eq_some_iff.mp hsome
  obtain ⟨bundle, hok, ha⟩ := Option.bind_eq_some_iff.mp ha
  obtain ⟨hid, hplace⟩ := Prod.mk.inj heq
  obtain ⟨hkind, hname⟩ := TypeId.mk.inj hid
  rw [hok] at hother
  obtain ⟨b, hb, hbplace⟩ := Option.map_eq_some_iff.mp hother
  have h := eq_ok_of_toOption hok
  have hmem : a ∈ bundle.artifacts := List.mem_append_right _ (List.mem_of_head? ha)
  obtain ⟨table, artifacts, hE, rfl⟩ := ofSchema_ok h
  refine ⟨_, h, fun hall => ?_⟩
  have hr : (⟨.data, a.typeName⟩ : Reference) ∈ ownReferences a := by
    rw [ownReferences_eq hE hmem]
    exact List.mem_cons_self
  have hhome := eq_ok_of_toOption hplace
  have hleads := hall a hmem _ hr _ hhome ⟨false, []⟩
  rw [← hname] at hb
  rw [ownReference_leadsTo_iff hE hmem hr hhome hb, eq_ok_of_toOption hbplace] at hleads
  exact absurd hleads (by decide)

end Typewright.Source
