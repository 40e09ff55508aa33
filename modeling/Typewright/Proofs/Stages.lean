import Typewright.Generation
import Typewright.Proofs.Emitted
import Typewright.Proofs.Resolution
import Typewright.Proofs.Shapes

/-! # The stages of a run

`Outcome` says which error ends a run, or else what it emits. Texts are read first, then merged; the merged schema is
validated, and artifacts are made of it at last. Validation counts the shapes that are there, resolution those that are
not empty; in a merged schema these are the same, so no field is found malformed after validation. -/

namespace Typewright

/-! ### The first of a list -/

section First
variable {α β : Type} {R : α → β → Prop} {g : α → Option β} {xs : List α}

/-- `b` belongs to the first element of a list that anything belongs to. -/
def FirstOf (R : α → β → Prop) (xs : List α) (b : β) : Prop :=
  ∃ before x after, xs = before ++ x :: after ∧ R x b ∧ ∀ y ∈ before, ∀ b', ¬ R y b'

theorem eq_none_iff_of_eq_some_iff {x : α} (h : ∀ x b, g x = some b ↔ R x b) : g x = none ↔ ∀ b, ¬ R x b := by
  rw [Option.eq_none_iff_forall_ne_some]
  exact forall_congr' fun b => (h x b).not

theorem findSome?_eq_some_iff_firstOf (h : ∀ x b, g x = some b ↔ R x b) {b : β} :
    xs.findSome? g = some b ↔ FirstOf R xs b := by
  simp only [List.findSome?_eq_some_iff, eq_none_iff_of_eq_some_iff h, h, FirstOf]

theorem findSome?_eq_none_iff_forall (h : ∀ x b, g x = some b ↔ R x b) :
    xs.findSome? g = none ↔ ∀ x ∈ xs, ∀ b, ¬ R x b := by
  simp only [List.findSome?_eq_none_iff, eq_none_iff_of_eq_some_iff h]

end First

theorem failureOf_mapM {ε α β : Type} {f : α → Except ε β} (xs : List α) :
    failureOf (xs.mapM f) = xs.findSome? fun x => failureOf (f x) := by
  induction xs with
  | nil => rfl
  | cons x xs ih =>
    rw [List.mapM_cons, failureOf_bind fun _ _ => failureOf_map _, ih, findSome?_cons_eq_or]

/-! ### Validation -/

/-- No shape is set. -/
def Field.Shapeless (field : Field) : Prop := ∀ shape ∈ field.shapes, shape = none

theorem Field.shapeCount_eq_zero_iff {field : Field} : field.shapeCount = 0 ↔ field.Shapeless := by
  obtain ⟨required, primitive, primitiveItem, item, typeName, documentation⟩ := field
  cases primitive <;> cases primitiveItem <;> cases item <;> cases typeName <;>
    simp [Field.shapeCount, Field.Shapeless, Field.shapes]

namespace Schema

/-- What is wrong with a type: a segment of its name is empty, or else some fields are without a shape. The first of
    these is blamed. -/
inductive Offence (t : TypeId × TypeSpec) : SchemaError → Prop where
  | name : "" ∈ TypeName.segments t.1.name → Offence t (.invalidTypeName t.1.name)
  | field {e : SchemaError} : "" ∉ TypeName.segments t.1.name →
      FirstOf (fun f e => f.2.Shapeless ∧ e = .shapeless t.1.name f.1) t.2.fields.entries e → Offence t e

theorem failureOf_checkFields (typeName : String) : ∀ fields : List (String × Field),
    failureOf (checkFields typeName fields) =
      fields.findSome? fun f => if f.2.shapeCount = 0 then some (.shapeless typeName f.1) else none
  | [] => rfl
  | (name, field) :: rest => by
    rw [checkFields, List.findSome?_cons, ← failureOf_checkFields]
    split <;> rfl

theorem failureOf_checkFields_iff {typeName : String} {fields : List (String × Field)} {e : SchemaError} :
    failureOf (checkFields typeName fields) = some e ↔
      FirstOf (fun f e => f.2.Shapeless ∧ e = .shapeless typeName f.1) fields e := by
  rw [failureOf_checkFields]
  refine findSome?_eq_some_iff_firstOf fun f e => ?_
  rw [Option.ite_none_right_eq_some, Field.shapeCount_eq_zero_iff, Option.some.injEq, eq_comm (a := e)]

theorem failureOf_checkType_iff {t : TypeId × TypeSpec} {e : SchemaError} :
    failureOf (checkType t.1.name t.2) = some e ↔ Offence t e := by
  -- The fields of a type with a bad name are not looked at, so each side has one case for each name.
  have hempty : (TypeName.segments t.1.name).any (·.isEmpty) = true ↔ "" ∈ TypeName.segments t.1.name := by
    simp
  rw [checkType, checkTypeName]
  by_cases hname : "" ∈ TypeName.segments t.1.name
  · rw [if_pos (hempty.mpr hname)]
    constructor
    · intro h
      cases h
      exact .name hname
    · rintro (_ | ⟨hnot, -⟩)
      · rfl
      · exact absurd hname hnot
  · rw [if_neg (hempty.not.mpr hname)]
    constructor
    · exact fun h => .field hname (failureOf_checkFields_iff.mp h)
    · rintro (hmem | ⟨-, hfirst⟩)
      · exact absurd hmem hname
      · exact failureOf_checkFields_iff.mpr hfirst

theorem failureOf_checkTypes : ∀ types : List (TypeId × TypeSpec),
    failureOf (checkTypes types) = types.findSome? fun t => failureOf (checkType t.1.name t.2)
  | [] => rfl
  | (id, spec) :: rest => by
    rw [checkTypes, List.findSome?_cons, ← failureOf_checkTypes]
    cases checkType id.name spec <;> rfl

section Validate
variable {schema : Schema}

theorem validate_eq_error_iff {e : SchemaError} : schema.validate = .error e ↔ FirstOf Offence schema.toList e := by
  rw [← failureOf_eq_some_iff, validate, failureOf_checkTypes]
  exact findSome?_eq_some_iff_firstOf fun _ _ => failureOf_checkType_iff

theorem validate_eq_ok_iff : schema.validate = .ok () ↔ ∀ t ∈ schema.toList, ∀ e, ¬ Offence t e := by
  have hnone : failureOf schema.validate = none ↔ ∀ t ∈ schema.toList, ∀ e, ¬ Offence t e := by
    rw [validate, failureOf_checkTypes]
    exact findSome?_eq_none_iff_forall fun _ _ => failureOf_checkType_iff
  rw [← hnone, failureOf_eq_none_iff]
  exact ⟨fun h => ⟨(), h⟩, fun ⟨(), h⟩ => h⟩

theorem not_shapeless_of_validate (h : schema.validate = .ok ()) {t : TypeId × TypeSpec} (ht : t ∈ schema.toList)
    {f : String × Field} (hf : f ∈ t.2.fields.entries) : ¬ f.2.Shapeless := by
  have hsound := validate_eq_ok_iff.mp h t ht
  have hname : "" ∉ TypeName.segments t.1.name := fun hmem => hsound _ (.name hmem)
  have hfields : failureOf (checkFields t.1.name t.2.fields.entries) = none :=
    Option.eq_none_iff_forall_ne_some.mpr fun e he => hsound e (.field hname (failureOf_checkFields_iff.mp he))
  rw [failureOf_checkFields, List.findSome?_eq_none_iff] at hfields
  intro hshapeless
  simpa [Field.shapeCount_eq_zero_iff.mpr hshapeless] using hfields f hf

end Validate

end Schema

/-! ### Emission after validation -/

/-- A reference that means no type, or several. -/
def ResolveError.OfReference (cause : ResolveError) : Prop :=
  (∃ name, cause = .unresolved name) ∨ ∃ name candidates, cause = .ambiguous name candidates

/-- Where the type of a field cannot be resolved, a reference is to blame. -/
def EmitError.BlamesReferences (e : EmitError) : Prop :=
  ∀ typeName field cause, e = .fieldType typeName field cause → cause.OfReference

namespace Resolver

theorem Meaning.ofReference {names : List String} {requested consumer : String} {cause : ResolveError}
    (h : Meaning names requested consumer (.error cause)) : cause.OfReference := by
  cases h with
  | qualified => exact Or.inl ⟨_, rfl⟩
  | unknown => exact Or.inl ⟨_, rfl⟩
  | ambiguous => exact Or.inr ⟨_, _, rfl⟩

theorem ofReference_of_resolve {names : List String} {field : Field} {consumer : String} {cause : ResolveError}
    (hclean : field.Clean) (hshape : ¬ field.Shapeless)
    (h : (ofNames names).resolve field consumer = .error cause) : cause.OfReference := by
  generalize hresult : Except.error cause = result at h
  cases resolve_iff_typedAs.mp h with
  | primitive | primitiveMap | primitiveList => cases hresult
  | @list _ found _ _ _ hmeaning =>
    cases found with
    | ok name => cases hresult
    | error e =>
      cases hresult
      exact hmeaning.ofReference
  | @nested _ found _ _ _ _ hmeaning =>
    cases found with
    | ok name => cases hresult
    | error e =>
      cases hresult
      exact hmeaning.ofReference
  | shapeless hprimitive hprimitiveItem hitem htype =>
    -- An unset shape is not there at all, since a clean field has no empty one.
    refine absurd (fun shape hmem => ?_) hshape
    have hunset : Unset shape := by
      simp only [Field.shapes, List.mem_cons, List.not_mem_nil, or_false] at hmem
      rcases hmem with rfl | rfl | rfl | rfl <;> assumption
    exact hunset.resolve_right (hclean shape hmem)

end Resolver

namespace Emission

theorem failsWith_addMember {schema : Schema} {typeName : String} {field : String × Field} (hclean : field.2.Clean)
    (hshape : ¬ field.2.Shapeless) (members : List Member) :
    FailsWith EmitError.BlamesReferences (addMember (Resolver.ofSchema schema) typeName members field) := by
  rintro _ he _ _ cause rfl
  rw [addMember] at he
  split at he
  · rename_i hcause
    cases he
    exact Resolver.ofReference_of_resolve hclean hshape hcause
  · dsimp only at he
    split at he <;> cases he

theorem failsWith_memberTable {schema : Schema} (hclean : schema.Clean) (hvalid : schema.validate = .ok ()) :
    FailsWith EmitError.BlamesReferences (memberTable schema) := by
  rw [memberTable]
  refine FailsWith.traverse fun t ht => FailsWith.foldlM (fun members field hfield => ?_) []
  have hmem : field ∈ t.2.fields.entries := List.mem_mergeSort.mp hfield
  exact failsWith_addMember ((hclean t ht).1 field hmem) (Schema.not_shapeless_of_validate hvalid ht hmem) members

theorem failsWith_claim (claims : Claims) (path typeName : String) :
    FailsWith EmitError.BlamesReferences (claims.claim path typeName) := by
  rintro _ he _ _ _ rfl
  rw [Claims.claim] at he
  split at he <;> cases he

theorem failsWith_checkItems (schema : Schema) (config : Config) :
    FailsWith EmitError.BlamesReferences (checkItems schema config) := by
  refine (FailsWith.foldlM (fun claimed t _ => ?_) _).bind fun _ _ => failsWith_ok _
  exact (failsWith_claim _ _ _).bind fun _ _ => (failsWith_claim _ _ _).bind fun _ _ =>
    (failsWith_claim _ _ _).bind fun _ _ => failsWith_ok _

theorem failsWith_ofSchema {schema : Schema} (hclean : schema.Clean) (hvalid : schema.validate = .ok ())
    (config : Config) : FailsWith EmitError.BlamesReferences (Bundle.ofSchema schema config) :=
  (failsWith_memberTable hclean hvalid).bind fun _ _ => (failsWith_checkItems schema config).bind fun _ _ =>
    (FailsWith.traverse fun _ _ => failsWith_checkedArtifact fun _ _ _ => nofun).bind fun _ _ => failsWith_ok _

end Emission

/-! ### Runs -/

namespace Generation

/-- The schemas of texts, all of which can be read. -/
def Reads (texts : List String) (schemas : List Schema) : Prop :=
  List.Forall₂ (fun text schema => Schema.ofText text = .ok schema) texts schemas

/-- What a run over texts comes to. -/
inductive Outcome (texts : List String) (config : Config) : Except GenerationError Bundle → Prop where
  | unreadable {e : DocumentError} : FirstOf (fun text e => Schema.ofText text = .error e) texts e →
      Outcome texts config (.error (.document e))
  | noDocuments : texts = [] → Outcome texts config (.error (.schema .noDocuments))
  | invalid {schemas : List Schema} {merged : Schema} {e : SchemaError} : Reads texts schemas →
      Schema.mergeAll schemas = .ok merged → FirstOf Schema.Offence merged.toList e →
      Outcome texts config (.error (.schema e))
  | valid {schemas : List Schema} {merged : Schema} : Reads texts schemas →
      Schema.mergeAll schemas = .ok merged → (∀ t ∈ merged.toList, ∀ e, ¬ Schema.Offence t e) →
      Outcome texts config ((Bundle.ofSchema merged config).mapError .emission)

section Runs
variable {texts : List String} {config : Config} {schemas : List Schema} {merged : Schema}
  {result : Except GenerationError Bundle}

theorem readAll_eq_error_iff {e : DocumentError} : readAll texts = .error e ↔
    FirstOf (fun text e => Schema.ofText text = .error e) texts e := by
  rw [← failureOf_eq_some_iff, readAll, failureOf_mapM]
  exact findSome?_eq_some_iff_firstOf fun _ _ => failureOf_eq_some_iff

theorem readAll_eq_ok_iff : readAll texts = .ok schemas ↔ Reads texts schemas := ⟨forall₂_mapM_ok, mapM_eq_ok⟩

theorem ofSchemas_of_mergeAll (h : Schema.mergeAll schemas = .ok merged) : ofSchemas schemas config =
    merged.validate.mapError .schema >>= fun _ => (Bundle.ofSchema merged config).mapError .emission := by
  rw [ofSchemas, h]
  rfl

theorem ofSchemas_ok {bundle : Bundle} (h : ofSchemas schemas config = .ok bundle) :
    ∃ schema, Schema.mergeAll schemas = .ok schema ∧ schema.validate = .ok () ∧
      Bundle.ofSchema schema config = .ok bundle := by
  obtain ⟨schema, hmerged, h⟩ := bind_eq_ok_iff.mp h
  obtain ⟨⟨⟩, hvalid, h⟩ := bind_eq_ok_iff.mp h
  exact ⟨schema, mapError_eq_ok_iff.mp hmerged, mapError_eq_ok_iff.mp hvalid, mapError_eq_ok_iff.mp h⟩

theorem ofTexts_of_reads (h : Reads texts schemas) : ofTexts texts config = ofSchemas schemas config := by
  rw [ofTexts, readAll_eq_ok_iff.mpr h]
  rfl

theorem ofTexts_of_outcome (h : Outcome texts config result) : ofTexts texts config = result := by
  cases h with
  | unreadable hfirst =>
    rw [ofTexts, readAll_eq_error_iff.mpr hfirst]
    rfl
  | noDocuments hnil =>
    subst hnil
    rfl
  | invalid hreads hmerged hfirst =>
    rw [ofTexts_of_reads hreads, ofSchemas_of_mergeAll hmerged, Schema.validate_eq_error_iff.mpr hfirst]
    rfl
  | valid hreads hmerged hsound =>
    rw [ofTexts_of_reads hreads, ofSchemas_of_mergeAll hmerged, Schema.validate_eq_ok_iff.mpr hsound]
    rfl

theorem exists_outcome (texts : List String) (config : Config) : ∃ result, Outcome texts config result := by
  -- The first stage that fails decides; merging fails only for want of documents.
  cases hread : readAll texts with
  | error e => exact ⟨_, .unreadable (readAll_eq_error_iff.mp hread)⟩
  | ok schemas =>
    have hreads := readAll_eq_ok_iff.mp hread
    cases hmerge : Schema.mergeAll schemas with
    | error e =>
      cases schemas with
      | nil => exact ⟨_, .noDocuments (List.forall₂_nil_right_iff.mp hreads)⟩
      | cons first rest => cases hmerge
    | ok merged =>
      cases hvalid : merged.validate with
      | error e => exact ⟨_, .invalid hreads hmerge (Schema.validate_eq_error_iff.mp hvalid)⟩
      | ok => exact ⟨_, .valid hreads hmerge (Schema.validate_eq_ok_iff.mp hvalid)⟩

theorem clean_of_reads (h : Reads texts schemas) : ∀ schema ∈ schemas, Schema.Clean schema := by
  intro schema hschema
  obtain ⟨text, -, htext⟩ := exists_of_mem_right h hschema
  exact Document.clean_of_ofText htext

theorem ofReference_of_ofTexts {typeName field : String} {cause : ResolveError}
    (h : ofTexts texts config = .error (.emission (.fieldType typeName field cause))) : cause.OfReference := by
  obtain ⟨result, hresult⟩ := exists_outcome texts config
  rw [ofTexts_of_outcome hresult] at h
  cases hresult with
  | unreadable | noDocuments | invalid => cases h
  | valid hreads hmerged hsound =>
    have hclean := Schema.clean_of_mergeAll hmerged (clean_of_reads hreads)
    have hfails := Emission.failsWith_ofSchema hclean (Schema.validate_eq_ok_iff.mpr hsound) config
    cases hemit : Bundle.ofSchema _ config with
    | ok bundle =>
      rw [hemit] at h
      cases h
    | error e =>
      rw [hemit] at h
      cases h
      exact hfails _ hemit _ _ _ rfl

/-- The stages of a run decide its outcome, and once the merged schema has been validated no field is malformed: a field
    whose type cannot be resolved refers to no type, or to several. -/
theorem ofTexts_in_stages (texts : List String) (config : Config) :
    (∀ result, ofTexts texts config = result ↔ Outcome texts config result) ∧
      ∀ typeName field cause, ofTexts texts config = .error (.emission (.fieldType typeName field cause)) →
        (∃ name, cause = .unresolved name) ∨ ∃ name candidates, cause = .ambiguous name candidates := by
  refine ⟨fun result => ⟨?_, ofTexts_of_outcome⟩, fun _ _ _ => ofReference_of_ofTexts⟩
  rintro rfl
  obtain ⟨result, hresult⟩ := exists_outcome texts config
  rwa [ofTexts_of_outcome hresult]

end Runs

/-- A document with one field, of this item type and this type. -/
def oneField (item typeName : String) : String :=
  "\x7b\"PropertyTypes\":\x7b\"A\":\x7b\"Properties\":\x7b\"x\":\x7b\"ItemType\":\"" ++ item ++
    "\",\"Type\":\"" ++ typeName ++ "\"\x7d\x7d\x7d\x7d\x7d"

def oneFieldSchema (field : Field) : Schema := ⟨.empty, .ofList [("A", { fields := .ofList [("x", field)] })]⟩

/-- An empty item type counts neither for validation nor for resolution, nor does an empty type. -/
theorem ofTexts_in_stages_oneField :
    ofTexts [oneField "" "B"] {} = .error (.emission (.fieldType "A" "x" (.unresolved "B"))) ∧
      ofTexts [oneField "" ""] {} = .error (.schema (.shapeless "A" "x")) := by
  have hnested : Schema.ofText (oneField "" "B") = .ok (oneFieldSchema (.nested "B")) := by with_unfolding_all rfl
  have hempty : Schema.ofText (oneField "" "") = .ok (oneFieldSchema {}) := by with_unfolding_all rfl
  have hemit : Bundle.ofSchema (oneFieldSchema (.nested "B")) {} = .error (.fieldType "A" "x" (.unresolved "B")) := by
    with_unfolding_all rfl
  constructor
  · have hvalidate : (oneFieldSchema (.nested "B")).validate = .ok () := by with_unfolding_all rfl
    have hsound := Schema.validate_eq_ok_iff.mp hvalidate
    have hmerged : Schema.mergeAll [oneFieldSchema (.nested "B")] = .ok (oneFieldSchema (.nested "B")) := rfl
    have hvalid := ((ofTexts_in_stages [oneField "" "B"] {}).1 _).mpr (.valid (.cons hnested .nil) hmerged hsound)
    rw [hvalid, hemit]
    rfl
  · refine ((ofTexts_in_stages [oneField "" ""] {}).1 _).mpr (.invalid (.cons hempty .nil) rfl ?_)
    exact Schema.validate_eq_error_iff.mp (by with_unfolding_all rfl)

end Generation

end Typewright
