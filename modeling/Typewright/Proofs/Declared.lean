import Typewright.Proofs.WellTyped

/-! # Declared struct fields

The struct of a data type and that of its builder declare the same fields, one for each slot and in the same order, and
the type that a field is declared with is the type of the slot. So a body that lists the slots of its target lists the
fields that are declared. -/

namespace Typewright.Typing

open Emission

/-- How a type is written. -/
def Ty.code (scope : Source.Scope) : Ty → Except RenderError Source.Code
  | .scalar s => Source.scalarCode scope s
  | .value s => return Source.valueOf scope (← Source.scalarCode scope s)
  | .list item => return Source.tokens ":: std :: vec :: Vec <" ++ (← item.code scope) ++ Source.word ">"
  | .map item => return Source.tokens ":: std :: collections :: BTreeMap <" ++ Source.stringCode ++ Source.word "," ++
      (← item.code scope) ++ Source.word ">"
  | .data id =>
    match scope.bundle.artifacts.find? (·.id = id) with
    | some a => return (← scope.pathTo a a.placement.className).code
    | none => .error (.unknownType id.name)
  | .builder id =>
    match scope.bundle.artifacts.find? (·.id = id) with
    | some a => return (← scope.pathTo a a.placement.builderName).code
    | none => .error (.unknownType id.name)
  | .box item => return Source.boxOf (← item.code scope)
  | .option item => return Source.optionOf (← item.code scope)
  | .dependencies => return Source.dependenciesCode
  | .result id =>
    match scope.bundle.artifacts.find? (·.id = id) with
    | some a => return scope.runtimeItem "Result" ++ Source.word "<" ++
        (← scope.pathTo a a.placement.className).code ++ Source.word ">"
    | none => .error (.unknownType id.name)
  | .unknown name => .error (.unknownType name)

/-- A declared field has the name and the type of a slot. -/
def Declares (scope : Source.Scope) (f : Source.StructField) (slot : String × Ty) : Prop :=
  Source.identifier slot.1 = .ok f.name ∧ slot.2.code scope = .ok f.type

section Declared
variable {schema : Schema} {config : Config} {table : MemberTable} {artifacts : Catalogue Artifact} {a : Artifact}
  {scope : Source.Scope}

/-- The type of the values of a field is written as the type of the field. -/
theorem code_ofField (h : Emits schema config table artifacts) (hscope : scope.bundle = .ofCatalogue artifacts)
    (t : FieldType) : (Ty.ofField (.ofCatalogue artifacts) t).code scope = Source.typeCode scope t := by
  induction t with
  | scalar s | value s => rfl
  | list t ih | map t ih => rw [Ty.ofField, Ty.code, ih, Source.typeCode]
  | named name =>
    rw [Ty.ofField, Bundle.denoted?, Source.typeCode, Source.Scope.dataPath]
    cases hfind : (Bundle.ofCatalogue artifacts).find? name with
    | none =>
      have hartifact : scope.artifact name = .error (.unknownType name) := by
        simp only [Source.Scope.artifact, hscope, h.denoted?_source, hfind]
      rw [hartifact]
      rfl
    | some b =>
      have hartifact : scope.artifact name = .ok b := by
        simp only [Source.Scope.artifact, hscope, h.denoted?_source, hfind]
      rw [Option.map_some, Ty.code, hscope, h.find?_id (List.mem_of_find?_eq_some hfind), hartifact]
      rfl

theorem code_ofMember (h : Emits schema config table artifacts) (hscope : scope.bundle = .ofCatalogue artifacts)
    {m : Member} {code : Source.Code} (hcode : Source.typeCode scope m.type = .ok code) :
    (Ty.ofMember (.ofCatalogue artifacts) m).code scope = .ok (Source.memberType m code) := by
  have hfield := (code_ofField h hscope m.type).trans hcode
  have hheld : (Ty.held (.ofCatalogue artifacts) m).code scope =
      .ok (if m.boxed then Source.boxOf code else code) := by
    rw [Ty.held]
    split
    · rw [Ty.code, hfield]
      rfl
    · exact hfield
  rw [Ty.ofMember, Source.memberType]
  split
  · exact hheld
  · rw [Ty.code, hheld]
    rfl

/-- The struct fields of an artifact are its slots. -/
theorem forall₂_structFields (h : Emits schema config table artifacts)
    (ha : a ∈ (Bundle.ofCatalogue artifacts).artifacts) (hscope : scope.bundle = .ofCatalogue artifacts)
    {isPublic : Bool} {fields : List Source.StructField}
    (hfields : Source.structFields scope a.data isPublic = .ok fields) :
    List.Forall₂ (Declares scope) fields (slots (.ofCatalogue artifacts) a) := by
  have hresource : a.data.resourceType.isSome = a.isResource := by
    rw [(h.generated ha).resourceType]
    cases a.isResource <;> rfl
  rw [Source.structFields] at hfields
  obtain ⟨inner, hinner, hfields⟩ := bind_eq_ok_iff.mp hfields
  cases hfields
  have hlogical : Source.identifier logicalName = .ok logicalName := by decide +kernel
  have hdepends : Source.identifier dependsOn = .ok dependsOn := by decide +kernel
  rw [hresource, slots]
  refine forall₂_withIdentity (fun _ => ⟨hlogical, rfl⟩) ?_ fun _ => ⟨hdepends, rfl⟩
  rw [List.forall₂_map_right_iff]
  refine (forall₂_mapM_ok hinner).flip.imp fun f m hf => ?_
  rw [Source.memberField] at hf
  obtain ⟨name, hname, hf⟩ := bind_eq_ok_iff.mp hf
  obtain ⟨code, hcode, hf⟩ := bind_eq_ok_iff.mp hf
  cases hf
  exact ⟨hname, code_ofMember h hscope hcode⟩

end Declared

/-- Where its own name stands for it, an artifact is well typed. Names as they are written down stand for something
    else if and only if the artifact is shadowed; then its constructor has no type. What constructions list are the
    fields that are declared. -/
theorem wellTyped_iff_not_shadowed {schema : Schema} {config : Config} {bundle : Bundle} {a : Artifact}
    (h : Bundle.ofSchema schema config = .ok bundle) (ha : a ∈ bundle.artifacts) :
    WellTyped bundle (bundle.ownScope a) a ∧
      (WellTyped bundle (Source.denoted? bundle) a ↔ ¬ Shadowed schema a) ∧
      (Shadowed schema a → ∀ T, ¬ HasType ⟨bundle, Source.denoted? bundle, none, a.data.constructor.params⟩
        a.data.constructor.body T) ∧
      ∀ (scope : Source.Scope) (isPublic : Bool) (fields : List Source.StructField), scope.bundle = bundle →
        Source.structFields scope a.data isPublic = .ok fields →
          List.Forall₂ (Declares scope) fields (slots bundle a) := by
  obtain ⟨table, artifacts, hE, rfl⟩ := ofSchema_ok h
  exact ⟨wellTyped_of_own hE ha (Bundle.ownScope_self _ a), wellTyped_source_iff hE ha,
    fun hshadowed T => not_hasType_of_shadowed hE ha hshadowed T,
    fun scope isPublic fields hscope hfields => forall₂_structFields hE ha hscope hfields⟩

theorem wellTyped_iff_not_shadowed_twins : ∃ bundle a, Bundle.ofSchema twins {} = .ok bundle ∧ a ∈ bundle.artifacts ∧
    WellTyped bundle (bundle.ownScope a) a ∧
      (WellTyped bundle (Source.denoted? bundle) a ↔ ¬ Shadowed twins a) ∧
      (Shadowed twins a → ∀ T, ¬ HasType ⟨bundle, Source.denoted? bundle, none, a.data.constructor.params⟩
        a.data.constructor.body T) ∧
      ∀ (scope : Source.Scope) (isPublic : Bool) (fields : List Source.StructField), scope.bundle = bundle →
        Source.structFields scope a.data isPublic = .ok fields →
          List.Forall₂ (Declares scope) fields (slots bundle a) := by
  have hsome : ((Bundle.ofSchema twins {}).toOption.bind (·.find? "Node")).isSome = true := by decide +kernel
  obtain ⟨a, hfind⟩ := Option.isSome_iff_exists.mp hsome
  obtain ⟨bundle, hok, hfind⟩ := Option.bind_eq_some_iff.mp hfind
  have ha := List.mem_of_find?_eq_some hfind
  exact ⟨bundle, a, eq_ok_of_toOption hok, ha, wellTyped_iff_not_shadowed (eq_ok_of_toOption hok) ha⟩

/-- The resource type of the two is not well typed as it is written down. -/
theorem twins_not_wellTyped : ∃ bundle, Bundle.ofSchema twins {} = .ok bundle ∧
    ¬ ∀ a ∈ bundle.artifacts, WellTyped bundle (Source.denoted? bundle) a := by
  have hsome : ((Bundle.ofSchema twins {}).toOption.bind (·.resources.head?)).map Artifact.id =
      some ⟨.resource, "Node"⟩ := by decide +kernel
  obtain ⟨a, ha, hid⟩ := Option.map_eq_some_iff.mp hsome
  obtain ⟨bundle, hok, ha⟩ := Option.bind_eq_some_iff.mp ha
  have h := eq_ok_of_toOption hok
  have hmem : a ∈ bundle.artifacts := List.mem_append_right _ (List.mem_of_head? ha)
  obtain ⟨table, artifacts, hE, rfl⟩ := ofSchema_ok h
  refine ⟨_, h, fun hall => (wellTyped_source_iff hE hmem).mp (hall a hmem) ?_⟩
  obtain ⟨hkind, hname⟩ := TypeId.mk.inj hid
  exact ⟨hkind, by rw [hname]; decide +kernel⟩

end Typewright.Typing
