import Typewright.Proofs.Coincidences

/-! # What settings change

Of the settings of a run, artifacts read only where types are placed, and they read it only for the root and the
namespaces of their placements: without these, which `Artifact.unplaced` takes away, they are the same under all
settings. So are the checks, but for the one that refuses types whose items coincide. -/

namespace Typewright

/-- An artifact of which the class name is left, but not the module that it stands in. -/
def Artifact.unplaced (a : Artifact) : Artifact :=
  { a with placement := { a.placement with root := "", namespaces := [] } }

def Bundle.unplaced (b : Bundle) : Bundle := ⟨b.properties.map Artifact.unplaced, b.resources.map Artifact.unplaced⟩

namespace Emission
variable {schema : Schema} {config config' : Config} {table : MemberTable} {e : EmitError}

/-! ### Artifacts without their places -/

theorem unplaced_ofCatalogue (artifacts : Catalogue Artifact) :
    (Bundle.ofCatalogue artifacts).unplaced = .ofCatalogue (artifacts.map fun _ => Artifact.unplaced) := by
  simp only [Bundle.unplaced, Bundle.ofCatalogue, Catalogue.map, SortedMap.values, SortedMap.map, List.map_map]
  rfl

theorem unplaced_artifact (config config' : Config) (table : MemberTable) (id : TypeId) (spec : TypeSpec) :
    (artifact config table id spec).unplaced = (artifact config' table id spec).unplaced := rfl

/-- The names within an artifact do not depend on where it is placed. -/
theorem checkArtifact_unplaced (a : Artifact) : checkArtifact a.unplaced = checkArtifact a := rfl

theorem checkedArtifact_unplaced (config config' : Config) (table : MemberTable) (id : TypeId) (spec : TypeSpec) :
    (checkedArtifact config table id spec).map Artifact.unplaced =
      (checkedArtifact config' table id spec).map Artifact.unplaced := by
  have hcheck : checkArtifact (artifact config table id spec) = checkArtifact (artifact config' table id spec) := by
    rw [← checkArtifact_unplaced, unplaced_artifact config config', checkArtifact_unplaced]
  rw [checkedArtifact, checkedArtifact, hcheck]
  cases checkArtifact (artifact config' table id spec) with
  | error e => rfl
  | ok _ => exact congrArg Except.ok (unplaced_artifact config config' table id spec)

theorem traverse_unplaced (schema : Schema) (config config' : Config) (table : MemberTable) :
    (schema.traverse (checkedArtifact config table)).map (·.map fun _ => Artifact.unplaced) =
      (schema.traverse (checkedArtifact config' table)).map (·.map fun _ => Artifact.unplaced) := by
  rw [← Catalogue.traverse_map, ← Catalogue.traverse_map]
  congr 1
  funext id spec
  exact checkedArtifact_unplaced config config' table id spec

/-! ### Emission under two settings -/

/-- What follows the check of items. -/
theorem ofSchema_of_placed (htable : memberTable schema = .ok table) (hplaced : checkItems schema config = .ok ()) :
    Bundle.ofSchema schema config = (schema.traverse (checkedArtifact config table.boxCycles)).map .ofCatalogue := by
  rw [Bundle.ofSchema, htable, hplaced]
  rfl

/-- Where no types coincide, the artifacts are the same but for their places, or they are refused alike. -/
theorem ofSchema_unplaced (htable : memberTable schema = .ok table) (hplaced : checkItems schema config = .ok ())
    (hplaced' : checkItems schema config' = .ok ()) :
    (Bundle.ofSchema schema config).map Bundle.unplaced = (Bundle.ofSchema schema config').map Bundle.unplaced := by
  have hunplaced : ∀ x : Except EmitError (Catalogue Artifact), (x.map Bundle.ofCatalogue).map Bundle.unplaced =
      (x.map (·.map fun _ => Artifact.unplaced)).map Bundle.ofCatalogue := by
    intro x
    cases x with
    | error e => rfl
    | ok artifacts => exact congrArg Except.ok (unplaced_ofCatalogue artifacts)
  rw [ofSchema_of_placed htable hplaced, ofSchema_of_placed htable hplaced', hunplaced, hunplaced,
    traverse_unplaced schema config config']

theorem ofSchema_of_memberTable (htable : memberTable schema = .error e) :
    Bundle.ofSchema schema config = .error e := by
  rw [Bundle.ofSchema, htable]
  rfl

/-- An error that the fields of one type account for: a field without a type, or two fields with one member. -/
inductive OfFields (schema : Schema) : EmitError → Prop where
  | untyped (typeName field : String) (cause : ResolveError) : OfFields schema (.fieldType typeName field cause)
  | sameMember {t : TypeId × TypeSpec} {first second : String} (member : String) : t ∈ schema.toList →
      first ∈ t.2.fields.keys → second ∈ t.2.fields.keys → first ≠ second → memberName first = memberName second →
      OfFields schema (.memberCollision t.1.name first second member)

/-- Such an error is found before any setting is read. -/
theorem memberTable_of_ofFields (hfields : OfFields schema e) (h : Bundle.ofSchema schema config = .error e) :
    memberTable schema = .error e := by
  rw [Bundle.ofSchema] at h
  rcases bind_eq_error_iff.mp h with htable | ⟨table, htable, h⟩
  · exact htable
  exfalso
  rcases bind_eq_error_iff.mp h with hitems | ⟨-, -, h⟩
  · obtain ⟨t, -, u, -, path, rfl, -⟩ := coincide_of_checkItems hitems
    cases hfields
  cases hfields with
  | untyped typeName field cause =>
    rcases bind_eq_error_iff.mp h with hartifacts | ⟨_, -, h⟩
    · have hnames : FailsWith (· ≠ .fieldType typeName field cause)
          (schema.traverse (checkedArtifact config table.boxCycles)) := by
        refine FailsWith.traverse fun _ _ => failsWith_checkedArtifact fun _ _ _ hcause => ?_
        cases hcause
      exact hnames _ hartifacts rfl
    · cases h
  | sameMember member ht hfirst hsecond hne hname =>
    -- The fields of a type have distinct members once there is a table.
    have hnodup := (fieldsSound_of_memberTable htable).distinct _ ht
    obtain ⟨f, hf, rfl⟩ := List.mem_map.mp hfirst
    obtain ⟨g, hg, rfl⟩ := List.mem_map.mp hsecond
    exact hne (congrArg Prod.fst (List.inj_on_of_nodup_map hnodup hf hg hname))

/-- Where items are refused, types coincide. -/
theorem placed_of_not_collision
    (h : ∀ first second path, Bundle.ofSchema schema config ≠ .error (.artifactCollision first second path))
    (htable : memberTable schema = .ok table) : checkItems schema config = .ok () := by
  cases hitems : checkItems schema config with
  | ok => rfl
  | error e =>
    obtain ⟨t, -, u, -, path, rfl, -⟩ := coincide_of_checkItems hitems
    refine absurd ?_ (h t.name u.name path)
    rw [Bundle.ofSchema, htable, hitems]
    rfl

theorem placed_of_ofSchema {bundle : Bundle} (h : Bundle.ofSchema schema config = .ok bundle) :
    ∃ table, memberTable schema = .ok table ∧ checkItems schema config = .ok () := by
  obtain ⟨table, artifacts, hemits, -⟩ := ofSchema_ok h
  exact ⟨table, hemits.resolved, hemits.placed⟩

/-- Settings do not decide more than where types are placed and whether this makes two of them coincide. The path of the
    runtime library decides nothing. -/
theorem moves_items_only (schema : Schema) (config config' : Config) :
    (∀ bundle bundle', Bundle.ofSchema schema config = .ok bundle → Bundle.ofSchema schema config' = .ok bundle' →
        bundle.unplaced = bundle'.unplaced) ∧
      (∀ e, OfFields schema e →
        (Bundle.ofSchema schema config = .error e ↔ Bundle.ofSchema schema config' = .error e)) ∧
      ((∀ first second path, Bundle.ofSchema schema config ≠ .error (.artifactCollision first second path)) →
        (∀ first second path, Bundle.ofSchema schema config' ≠ .error (.artifactCollision first second path)) →
        (∃ bundle bundle', Bundle.ofSchema schema config = .ok bundle ∧ Bundle.ofSchema schema config' = .ok bundle') ∨
          ∃ e, Bundle.ofSchema schema config = .error e ∧ Bundle.ofSchema schema config' = .error e) ∧
      ∀ path, Bundle.ofSchema schema (config.withRuntimePath path) = Bundle.ofSchema schema config := by
  refine ⟨?_, ?_, ?_, fun path => rfl⟩
  · intro bundle bundle' h h'
    obtain ⟨table, htable, hplaced⟩ := placed_of_ofSchema h
    obtain ⟨-, -, hplaced'⟩ := placed_of_ofSchema h'
    have hmap := ofSchema_unplaced htable hplaced hplaced'
    rw [h, h'] at hmap
    exact Except.ok.inj hmap
  · intro e hfields
    exact ⟨fun h => ofSchema_of_memberTable (memberTable_of_ofFields hfields h),
      fun h => ofSchema_of_memberTable (memberTable_of_ofFields hfields h)⟩
  · intro hfree hfree'
    cases htable : memberTable schema with
    | error e => exact Or.inr ⟨e, ofSchema_of_memberTable htable, ofSchema_of_memberTable htable⟩
    | ok table =>
      have hmap := ofSchema_unplaced htable (placed_of_not_collision hfree htable)
        (placed_of_not_collision hfree' htable)
      cases h : Bundle.ofSchema schema config <;> cases h' : Bundle.ofSchema schema config' <;> rw [h, h'] at hmap
      · cases hmap
        exact Or.inr ⟨_, rfl, rfl⟩
      · cases hmap
      · cases hmap
      · exact Or.inl ⟨_, _, rfl, rfl⟩

/-- A resource type and a property type of one vendor. -/
def harbour : Schema where
  properties := .ofList [("AWS::Port.Berth", { fields := .ofList [("Length", .ofPrimitive "Double")] })]
  resources := .ofList [("AWS::Port", { fields := .ofList [("Widest", .nested "Berth")] })]

theorem moves_items_only_harbour : ∃ bundle bundle', Bundle.ofSchema harbour {} = .ok bundle ∧
    Bundle.ofSchema harbour { vendor := none, qualifyResources := true } = .ok bundle' ∧
      bundle.artifacts.map (·.placement.namespaces) = [["port"], []] ∧
      bundle'.artifacts.map (·.placement.namespaces) = [["aws", "port"], ["aws"]] ∧
        bundle.unplaced = bundle'.unplaced := by
  obtain ⟨bundle, h⟩ := exists_eq_ok (x := Bundle.ofSchema harbour {}) (by decide +kernel)
  obtain ⟨bundle', h'⟩ := exists_eq_ok (x := Bundle.ofSchema harbour { vendor := none, qualifyResources := true })
    (by decide +kernel)
  have hplaces : ∀ {config : Config} {bundle : Bundle}, Bundle.ofSchema harbour config = .ok bundle →
      bundle.artifacts.map (·.placement.namespaces) = (placements harbour config).map (·.2.namespaces) := by
    intro config bundle h
    obtain ⟨table, artifacts, hemits, rfl⟩ := ofSchema_ok h
    have hmap := congrArg (List.map Placement.namespaces) hemits.placements_eq
    rw [List.map_map, List.map_map] at hmap
    exact hmap.symm
  refine ⟨bundle, bundle', h, h', ?_, ?_, (moves_items_only harbour _ _).1 bundle bundle' h h'⟩
  · rw [hplaces h]
    decide +kernel
  · rw [hplaces h']
    decide +kernel

end Emission

end Typewright
