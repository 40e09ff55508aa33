import Mathlib.Data.List.Induction
import Typewright.Proofs.Setters

/-! # Builders make what constructors make

The factory of an artifact starts a builder, setters change it, the build method makes a value of it. This value is the
one that the constructor of the data type makes from the same identity and, for every member, from the value that was
written last, or else from what the factory was given, or else from nothing. Step by step: the factory gives the
builder of the initial values, a setter replaces the value of its own member and no other, and the build method keeps
all values. -/

namespace Typewright.Evaluation

variable {S : Type}

/-! ### Runs -/

/-- A call of a setter. -/
structure SetterCall (S : Type) where
  name : String
  args : List (Argument S)

/-- The factory of `a`, then setters of the builder, then its build method. -/
def buildWith (bundle : Bundle) (a : Artifact) (args : List (Argument S)) (calls : List (SetterCall S)) :
    Eval (Datum S) := do
  let started ← create bundle a args
  let finished ← calls.foldlM (fun b c => set bundle c.name c.args b) started
  build bundle finished

/-- The member that a call of a setter of `a` writes, with the value. -/
def written (bundle : Bundle) (a : Artifact) (c : SetterCall S) : Eval (String × Datum S) := do
  let s ← a.setter? c.name
  let m ← a.data.member? s.member
  let d ← passed bundle m c.args s.kind
  return (m.name, d)

/-- The value that was written last for the member `name`. -/
def lastWritten? (writes : List (String × Datum S)) (name : String) : Option (Datum S) := writes.reverse.lookup name

/-- What the full constructor is to be given for a parameter, where the factory was given `given` and the setters
    have written `writes`. -/
def finalArgument? (a : Artifact) (given : List (String × Argument S)) (writes : List (String × Datum S)) (p : Param) :
    Option (Argument S) :=
  match a.data.member? p.name with
  | none => given.lookup p.name
  | some m =>
    match lastWritten? writes m.name with
    | some d => some (.datum (keep m d))
    | none => if m.required then given.lookup m.name else some (.datum .absent)

/-- All that the full constructor is to be given. -/
def finalArguments? (a : Artifact) (given : List (String × Argument S)) (writes : List (String × Datum S)) :
    Option (List (Argument S)) :=
  a.data.constructor.params.mapM (finalArgument? a given writes)

/-! ### Arguments that fit -/

/-- Whether a value is of a type. Of a record only its data type is looked at. -/
def OfType (bundle : Bundle) : FieldType → Datum S → Prop
  | .scalar _, d => ∃ s, d = .scalar s
  | .value _, d => ∃ v, d = .value v
  | .list t, d => ∃ items, d = .list items ∧ ∀ x ∈ items, OfType bundle t x
  | .map t, d => ∃ entries, d = .map entries ∧ ∀ e ∈ entries, OfType bundle t e.2
  | .named name, d => ∃ id fields, bundle.denoted? name = some id ∧ d = .record id fields

/-- Whether an argument is of the type of a parameter. -/
def Fits (bundle : Bundle) : ParamType → Argument S → Prop
  | .value t, .datum d => OfType bundle t d
  | .optional t, .datum d => d = .absent ∨ ∃ x, d = .present x ∧ OfType bundle t x
  | .logicalName, .datum d => ∃ s, d = .text s
  | .optionalLogicalName, .datum d => d = .absent ∨ ∃ s, d = .present (.text s)
  | .dependencies, .datum d => d = .absent ∨ ∃ ss, d = .present (.texts ss)
  | .configure _, .step _ | .context, .context => True
  | _, _ => False

/-- Whether a function can be called with some arguments. -/
def FitAll (bundle : Bundle) (c : Callable) (args : List (Argument S)) : Prop :=
  List.Forall₂ (fun p x => Fits bundle p.type x) c.params args

/-- Whether a call is one of a setter of `a`, with arguments of the right types. -/
def SetterCall.FitsIn (bundle : Bundle) (a : Artifact) (c : SetterCall S) : Prop :=
  ∃ s, a.setter? c.name = some s ∧ FitAll bundle s.callable c.args

theorem Fits.suits {bundle : Bundle} {type : ParamType} {x : Argument S} (h : Fits bundle type x) :
    x.suits type = true := by
  cases x <;> cases type <;> first | rfl | cases h

theorem exists_bind? {bundle : Bundle} {params : List Param} {args : List (Argument S)}
    (h : List.Forall₂ (fun p x => Fits bundle p.type x) params args) : ∃ given, bind? params args = some given := by
  induction h with
  | nil => exact ⟨[], rfl⟩
  | cons hfits _ ih =>
    obtain ⟨given, hgiven⟩ := ih
    exact ⟨_, by rw [bind?, if_pos hfits.suits, hgiven]; rfl⟩

theorem exists_datum_of_fitAll {bundle : Bundle} {c : Callable} {name : String} {t : FieldType}
    (hparams : c.params = [⟨name, .value t⟩]) {args : List (Argument S)} (h : FitAll bundle c args) :
    ∃ d, args = [.datum d] ∧ OfType bundle t d := by
  rw [FitAll, hparams] at h
  obtain _ | ⟨hx, hnil⟩ := h
  cases hnil
  rename_i x
  cases x with
  | datum d => exact ⟨d, rfl, hx⟩
  | step _ | context => cases hx

/-- A raw value of a type can be put into the envelope. -/
theorem exists_wrapInto? {bundle : Bundle} {type : FieldType} (hwrapped : type.isWrappedScalar = true) {d : Datum S}
    (h : OfType bundle type.unwrapped d) : ∃ d', wrapInto? type d = some d' := by
  cases type with
  | value s =>
    obtain ⟨x, rfl⟩ := h
    exact ⟨_, rfl⟩
  | list t =>
    cases t with
    | value s =>
      obtain ⟨items, rfl, hitems⟩ := h
      have hwrap : ∀ x ∈ items, ∃ y, wrap? x = pure y := fun x hx => by
        obtain ⟨y, rfl⟩ := hitems x hx
        exact ⟨_, rfl⟩
      obtain ⟨ys, hys⟩ := exists_mapM_eq_pure hwrap
      exact ⟨.list ys, by rw [wrapInto?, wrapEach?, hys]; rfl⟩
    | _ => cases hwrapped
  | map t =>
    cases t with
    | value s =>
      obtain ⟨entries, rfl, hentries⟩ := h
      have hwrap : ∀ e ∈ entries, ∃ y, (wrap? e.2).map (e.1, ·) = pure y := fun e he => by
        obtain ⟨y, hy⟩ := hentries e he
        exact ⟨(e.1, .value (.of y)), by rw [hy]; rfl⟩
      obtain ⟨ys, hys⟩ := exists_mapM_eq_pure hwrap
      exact ⟨.map ys, by rw [wrapInto?, wrapValues?, hys]; rfl⟩
    | _ => cases hwrapped
  | _ => cases hwrapped

/-! ### Building -/

section Building
variable {schema : Schema} {config : Config} {table : MemberTable} {artifacts : Catalogue Artifact} {a : Artifact}

open Emission

/-- What the members hold when something has been written. -/
def afterWrite (a : Artifact) (g : String → Datum S) (w : String × Datum S) : String → Datum S :=
  match a.data.member? w.1 with
  | some m => Function.update g m.name (keep m w.2)
  | none => g

theorem afterWrite_of_ne {g : String → Datum S} {w : String × Datum S} {name : String}
    (hname : name ≠ w.1 ∨ a.data.member? name = none) : afterWrite a g w name = g name := by
  rw [afterWrite]
  cases hm : a.data.member? w.1 with
  | none => rfl
  | some m =>
    have heq : m.name = w.1 := by simpa using List.find?_some hm
    refine Function.update_of_ne ?_ _ _
    rintro rfl
    rcases hname with hne | hnone
    · exact hne heq
    · rw [heq, hm] at hnone
      cases hnone

theorem lastWritten?_concat (writes : List (String × Datum S)) (w : String × Datum S) (name : String) :
    lastWritten? (writes ++ [w]) name = if name = w.1 then some w.2 else lastWritten? writes name := by
  rw [lastWritten?, List.reverse_append, List.reverse_singleton, List.singleton_append, List.lookup_cons]
  by_cases hname : name = w.1
  · simp [hname]
  · simp [hname, beq_false_of_ne hname, lastWritten?]

/-- After a run a member holds what was written last, or what it held before. -/
theorem foldl_afterWrite (hnames : NamesDistinct a) (g : String → Datum S) {m : Member} (hm : m ∈ a.data.members)
    (writes : List (String × Datum S)) : writes.foldl (afterWrite a) g m.name =
      match lastWritten? writes m.name with
      | some d => keep m d
      | none => g m.name := by
  -- From the end: the last write is one of `m`, or the writes before it decide.
  induction writes using List.reverseRecOn with
  | nil => rfl
  | append_singleton writes w ih =>
    rw [List.foldl_append, List.foldl_cons, List.foldl_nil, lastWritten?_concat]
    by_cases hname : m.name = w.1
    · rw [afterWrite, ← hname, hnames.member?_of_mem hm, if_pos rfl]
      exact Function.update_self ..
    · rw [afterWrite_of_ne (Or.inl hname), if_neg hname, ih]

/-- No run changes what is no member. -/
theorem foldl_afterWrite_of_none (g : String → Datum S) {name : String} (hname : a.data.member? name = none)
    (writes : List (String × Datum S)) : writes.foldl (afterWrite a) g name = g name := by
  induction writes using List.reverseRecOn with
  | nil => rfl
  | append_singleton writes w ih =>
    rw [List.foldl_append, List.foldl_cons, List.foldl_nil, afterWrite_of_ne (Or.inr hname), ih]

variable (h : Emits schema config table artifacts) (ha : a ∈ (Bundle.ofCatalogue artifacts).artifacts)
include h ha

/-- A call of a setter overwrites the member that it writes, and nothing else. -/
theorem set_eq_written (c : SetterCall S) (fields : Fields S) :
    set (.ofCatalogue artifacts) c.name c.args (.builder a.id fields) = (do
      let w ← written (.ofCatalogue artifacts) a c
      let m ← a.data.member? w.1
      overwrite a.id fields m w.2) := by
  rw [set, h.find?_id ha, lift_some, pure_bind, written]
  cases hfind : a.setter? c.name with
  | none => rfl
  | some s =>
    obtain ⟨m, hm, hname, hcall⟩ := exists_call_setter h ha (List.mem_of_find?_eq_some hfind)
    have hmember : a.data.member? m.name = some m := (h.namesDistinct ha).member?_of_mem hm
    simp only [lift_some, pure_bind, bind_assoc, hname, hmember]
    exact hcall c.args fields

/-- A call that writes something writes a member of the artifact. -/
theorem written_cases (c : SetterCall S) : written (.ofCatalogue artifacts) a c = failure ∨
    ∃ m ∈ a.data.members, ∃ x : Eval (Datum S),
      written (.ofCatalogue artifacts) a c = x >>= fun d => pure (m.name, d) := by
  rw [written]
  cases hsetter : a.setter? c.name with
  | none => exact Or.inl rfl
  | some s =>
    obtain ⟨m, hm, hname, -⟩ := exists_call_setter (S := S) h ha (List.mem_of_find?_eq_some hsetter)
    refine Or.inr ⟨m, hm, passed (.ofCatalogue artifacts) m c.args s.kind, ?_⟩
    rw [lift_some, pure_bind, hname, (h.namesDistinct ha).member?_of_mem hm, lift_some, pure_bind]

theorem set_tabulate (c : SetterCall S) (g : String → Datum S) :
    set (.ofCatalogue artifacts) c.name c.args (.builder a.id (tabulate a.fieldNames g)) = (do
      let w ← written (.ofCatalogue artifacts) a c
      return .builder a.id (tabulate a.fieldNames (afterWrite a g w))) := by
  rw [set_eq_written h ha]
  rcases written_cases h ha c with hfail | ⟨m, hm, x, hx⟩
  · rw [hfail]
    rfl
  · have hmember := (h.namesDistinct ha).member?_of_mem hm
    have hmem : m.name ∈ a.fieldNames := mem_withIdentity.mpr (Or.inr (List.mem_map_of_mem hm))
    simp only [hx, bind_assoc, pure_bind, hmember, lift_some, overwrite, overwrite?_tabulate hmem, afterWrite]

theorem foldlM_set (calls : List (SetterCall S)) (g : String → Datum S) :
    calls.foldlM (fun b c => set (.ofCatalogue artifacts) c.name c.args b)
        (.builder a.id (tabulate a.fieldNames g)) = (do
      let writes ← calls.mapM (written (.ofCatalogue artifacts) a)
      return .builder a.id (tabulate a.fieldNames (writes.foldl (afterWrite a) g))) := by
  induction calls generalizing g with
  | nil => rfl
  | cons c cs ih =>
    rw [List.foldlM_cons, set_tabulate h ha, List.mapM_cons]
    simp only [bind_assoc, pure_bind, ih, List.foldl_cons]

theorem mem_factoryParams {n : String} : n ∈ a.factory.params.map (·.name) ↔
    (a.isResource = true ∧ (n = logicalName ∨ n = dependsOn)) ∨
      ∃ m ∈ a.data.members, m.required = true ∧ m.name = n := by
  have hparams : a.factory.params = requiredParams a.data.members a.isResource := by
    rw [(h.generated ha).factory]
    rfl
  rw [hparams, names_requiredParams, mem_withIdentity]
  simp only [requiredMembers, List.mem_map, List.mem_filter, and_assoc]

/-- What the constructor is given agrees with what the builder holds in the end. -/
theorem finalArgument?_eq {v : String → Datum S} {writes : List (String × Datum S)} {p : Param}
    (hp : p ∈ a.data.constructor.params) :
    finalArgument? a (tabulate (a.factory.params.map (·.name)) fun n => .datum (v n)) writes p =
      some (.datum (writes.foldl (afterWrite a) (initial a v) p.name)) := by
  have hnames := h.namesDistinct ha
  have hname : p.name ∈ a.fieldNames := (h.generated ha).names_constructorParams ▸ List.mem_map_of_mem hp
  rcases mem_withIdentity.mp hname with ⟨hres, hidentity⟩ | hmem
  · -- No setter writes the identity, so it is still what the factory was given.
    have hnone := hnames.member?_identity hres hidentity
    rw [finalArgument?, hnone, foldl_afterWrite_of_none _ hnone, initial, hnone]
    exact lookup_tabulate ((mem_factoryParams h ha).mpr (Or.inl ⟨hres, hidentity⟩)) _
  · obtain ⟨m, hm, hmp⟩ := List.mem_map.mp hmem
    have hmember : a.data.member? p.name = some m := hmp ▸ hnames.member?_of_mem hm
    rw [finalArgument?, hmember, ← hmp, foldl_afterWrite hnames _ hm]
    dsimp only
    cases lastWritten? writes m.name with
    | some d => rfl
    | none =>
      rw [initial, hnames.member?_of_mem hm]
      by_cases hrequired : m.required = true
      · simp only [hrequired, if_true]
        exact lookup_tabulate ((mem_factoryParams h ha).mpr (Or.inr ⟨m, hm, hrequired, rfl⟩)) _
      · simp [hrequired]

theorem buildWith_eq (args : List (Argument S)) (calls : List (SetterCall S)) :
    buildWith (.ofCatalogue artifacts) a args calls = (do
      let given ← bind? a.factory.params args
      let writes ← calls.mapM (written (.ofCatalogue artifacts) a)
      let full ← finalArguments? a given writes
      construct (.ofCatalogue artifacts) a full) := by
  cases hgiven : bind? a.factory.params args with
  | none =>
    rw [buildWith, create, call_of_none hgiven]
    rfl
  | some given =>
    obtain ⟨v, rfl, hcreate⟩ := exists_create_eq h ha hgiven
    rw [buildWith, hcreate, pure_bind, foldlM_set h ha, lift_some, pure_bind, bind_assoc]
    refine congrArg _ (funext fun writes => ?_)
    rw [pure_bind, build_eq h ha (names_tabulate _ _), finalArguments?,
      mapM_eq_pure fun p hp => finalArgument?_eq h ha hp]
    exact (construct_eq h ha _).symm

/-! ### Building gives a record -/

theorem exists_create_of_fits {args : List (Argument S)} (hargs : FitAll (.ofCatalogue artifacts) a.factory args) :
    ∃ fields : Fields S, fields.map (·.1) = a.fieldNames ∧
      create (.ofCatalogue artifacts) a args = pure (.builder a.id fields) := by
  obtain ⟨given, hgiven⟩ := exists_bind? hargs
  obtain ⟨v, -, hcreate⟩ := exists_create_eq h ha hgiven
  exact ⟨_, names_tabulate _ _, hcreate⟩

omit ha in
/-- Arguments that fit make a value in place. -/
theorem exists_madeInPlace {m : Member} {target : String} {members : List Member}
    (hmembers : table.boxCycles.properties.find? target = some members) {args : List (Argument S)}
    (hargs : FitAll (.ofCatalogue artifacts) (nestedSetter m target members).callable args) :
    ∃ d : Datum S, madeInPlace (.ofCatalogue artifacts) target args = pure d := by
  obtain ⟨b, hb, hfind, hid, rfl, hparams⟩ := h.find?_of_properties hmembers
  obtain rfl : b.typeName = target := congrArg TypeId.name hid
  -- The last argument is the step, and those before it are for the factory of the target.
  obtain ⟨xs, x, rfl, hxs, hx⟩ := exists_concat_of_forall₂ hargs
  cases x with
  | datum _ | context => cases hx
  | step f =>
    rw [← requiredParams_false, ← hparams] at hxs
    obtain ⟨fields, hfields, hcreate⟩ := exists_create_of_fits h hb hxs
    refine ⟨.record b.id (f.apply fields), ?_⟩
    rw [madeInPlace, hfind, lift_some, pure_bind, List.getLast?_concat, List.dropLast_concat]
    dsimp only
    rw [hcreate, pure_bind, configure, pure_bind]
    exact build_eq h hb ((f.names fields).trans hfields)

/-- A call that fits writes something, and leaves the template as it is. -/
theorem exists_written {c : SetterCall S} (hc : c.FitsIn (.ofCatalogue artifacts) a) :
    ∃ w, written (.ofCatalogue artifacts) a c = pure w := by
  obtain ⟨s, hs, hargs⟩ := hc
  obtain ⟨m, hm, hsm⟩ := h.exists_member_of_setter ha (List.mem_of_find?_eq_some hs)
  have hmember := (h.namesDistinct ha).member?_of_mem hm
  suffices hpassed : s.member = m.name ∧ ∃ d, passed (.ofCatalogue artifacts) m c.args s.kind = pure d by
    obtain ⟨hname, d, hd⟩ := hpassed
    refine ⟨(m.name, d), ?_⟩
    rw [written, hs, lift_some, pure_bind, hname, hmember, lift_some, pure_bind, hd, pure_bind]
  rcases mem_settersOf hsm with ⟨hwrapped, rfl⟩ | ⟨name, rfl⟩ | ⟨target, members, htarget, hmembers, rfl, -⟩
  · refine ⟨rfl, ?_⟩
    obtain ⟨d, hd, hfits⟩ := exists_datum_of_fitAll rfl hargs
    obtain ⟨d', hd'⟩ := exists_wrapInto? hwrapped hfits
    exact ⟨d', by rw [wrappingSetter, passed, hd, sole?, lift_some, pure_bind, hd', lift_some]⟩
  · refine ⟨rfl, ?_⟩
    obtain ⟨d, hd, -⟩ := exists_datum_of_fitAll rfl hargs
    exact ⟨d, by rw [directSetter, passed, hd, sole?, lift_some]⟩
  · refine ⟨rfl, ?_⟩
    obtain ⟨d, hd⟩ := exists_madeInPlace h hmembers hargs
    exact ⟨d, by rw [nestedSetter, passed, htarget, lift_some, pure_bind, hd]⟩

theorem exists_buildWith {args : List (Argument S)} {calls : List (SetterCall S)}
    (hargs : FitAll (.ofCatalogue artifacts) a.factory args)
    (hcalls : ∀ c ∈ calls, c.FitsIn (.ofCatalogue artifacts) a) : ∃ fields : Fields S,
      fields.map (·.1) = a.fieldNames ∧
        buildWith (.ofCatalogue artifacts) a args calls = pure (.record a.id fields) := by
  obtain ⟨given, hgiven⟩ := exists_bind? hargs
  obtain ⟨v, -, hcreate⟩ := exists_create_eq h ha hgiven
  obtain ⟨writes, hwrites⟩ := exists_mapM_eq_pure fun c hc => exists_written h ha (hcalls c hc)
  refine ⟨tabulate a.fieldNames (writes.foldl (afterWrite a) (initial a v)), names_tabulate _ _, ?_⟩
  rw [buildWith, hcreate, pure_bind, foldlM_set h ha, hwrites, pure_bind, pure_bind, build_eq h ha (names_tabulate _ _)]

/-- A setter changes its member only, which is not part of the identity. -/
theorem frame_set {c : SetterCall S} {fields : Fields S} {t t' : Template} {d : Datum S}
    (hset : (set (.ofCatalogue artifacts) c.name c.args (.builder a.id fields)).run t = some (d, t')) :
    ∃ s fields', a.setter? c.name = some s ∧ d = .builder a.id fields' ∧
      (∀ other, other ≠ s.member → fields'.lookup other = fields.lookup other) ∧
        (a.isResource = true → s.member ≠ logicalName ∧ s.member ≠ dependsOn) := by
  rw [StateT.run, set, h.find?_id ha, lift_some, pure_bind] at hset
  cases hsetter : a.setter? c.name with
  | none =>
    rw [hsetter] at hset
    cases hset
  | some s =>
    obtain ⟨m, hm, hname, hcall⟩ := exists_call_setter (S := S) h ha (List.mem_of_find?_eq_some hsetter)
    rw [hsetter, lift_some, pure_bind, hcall] at hset
    obtain ⟨⟨x, u⟩, -, hset⟩ := Option.bind_eq_some_iff.mp hset
    dsimp only at hset
    rw [overwrite] at hset
    cases hover : overwrite? m.name (keep m x) fields with
    | none =>
      rw [hover] at hset
      cases hset
    | some fields' =>
      rw [hover] at hset
      cases hset
      refine ⟨s, fields', rfl, rfl, fun other hne => lookup_overwrite?_of_ne hover (hname ▸ hne), fun hres => ?_⟩
      rw [hname]
      exact (h.namesDistinct ha).identity hres m hm

end Building

/-! ### The round trip -/

/-- Running the factory, setters and the build method gives what the full constructor gives for the final values.
    With arguments that fit this is a record, and a setter changes its own member and nothing else. -/
theorem buildWith_eq_construct {schema : Schema} {config : Config} {bundle : Bundle} {a : Artifact}
    (h : Bundle.ofSchema schema config = .ok bundle) (ha : a ∈ bundle.artifacts) :
    (∀ (args : List (Argument S)) (calls : List (SetterCall S)), buildWith bundle a args calls = (do
        let given ← bind? a.factory.params args
        let writes ← calls.mapM (written bundle a)
        let full ← finalArguments? a given writes
        construct bundle a full)) ∧
      (∀ (args : List (Argument S)) (calls : List (SetterCall S)), FitAll bundle a.factory args →
        (∀ c ∈ calls, c.FitsIn bundle a) → ∃ fields : Fields S, fields.map (·.1) = a.fieldNames ∧
          buildWith bundle a args calls = pure (.record a.id fields)) ∧
      ∀ (c : SetterCall S) (fields : Fields S) (t t' : Template) (d : Datum S),
        (set bundle c.name c.args (.builder a.id fields)).run t = some (d, t') →
          ∃ s fields', a.setter? c.name = some s ∧ d = .builder a.id fields' ∧
            (∀ other, other ≠ s.member → fields'.lookup other = fields.lookup other) ∧
              (a.isResource = true → s.member ≠ Emission.logicalName ∧ s.member ≠ Emission.dependsOn) := by
  obtain ⟨table, artifacts, hE, rfl⟩ := Emission.ofSchema_ok h
  exact ⟨buildWith_eq hE ha, fun args calls => exists_buildWith hE ha, fun c fields t t' d => frame_set hE ha⟩

/-- A resource type that may hold a property type, which is made of a scalar. -/
def grove : Schema where
  properties := .ofList [("Leaf", { fields := .ofList [("Label", (Field.ofPrimitive "String").withRequired true)] })]
  resources := .ofList [("Tree", { fields := .ofList [("Leaf", .nested "Leaf")] })]

theorem buildWith_eq_construct_grove : ∃ bundle a, Bundle.ofSchema grove {} = .ok bundle ∧
    bundle.find? "Tree" = some a ∧ ∃ fields : Fields String, fields.map (·.1) = ["logical_name", "leaf", "depends_on"] ∧
      buildWith bundle a [.datum (.text "T"), .datum .absent]
        [⟨"leaf_with", [.datum (.value (.of "x")), .step ⟨id, fun _ => rfl⟩]⟩] =
          pure (.record ⟨.resource, "Tree"⟩ fields) := by
  have hshape : ((Bundle.ofSchema grove {}).toOption.bind (·.find? "Tree")).map
      (fun a => (a.id, a.fieldNames, a.factory.params, (a.setter? "leaf_with").map (·.callable.params))) =
        some (⟨.resource, "Tree"⟩, ["logical_name", "leaf", "depends_on"],
          [⟨"logical_name", .logicalName⟩, ⟨"depends_on", .dependencies⟩],
          some [⟨"label", .value (.value .string)⟩, ⟨"configure", .configure "Leaf"⟩]) := by decide +kernel
  obtain ⟨a, hfind, hshape⟩ := Option.map_eq_some_iff.mp hshape
  obtain ⟨bundle, hok, hfind⟩ := Option.bind_eq_some_iff.mp hfind
  simp only [Prod.mk.injEq] at hshape
  obtain ⟨hid, hfields, hparams, hsetter⟩ := hshape
  obtain ⟨s, hs, hsparams⟩ := Option.map_eq_some_iff.mp hsetter
  have h := eq_ok_of_toOption hok
  have hbuild := (buildWith_eq_construct (S := String) h (List.mem_of_find?_eq_some hfind)).2.1
    [.datum (.text "T"), .datum .absent] [⟨"leaf_with", [.datum (.value (.of "x")), .step ⟨id, fun _ => rfl⟩]⟩]
  rw [hid, hfields, FitAll, hparams] at hbuild
  refine ⟨bundle, a, h, hfind, hbuild ?_ ?_⟩
  · exact .cons ⟨"T", rfl⟩ (.cons (Or.inl rfl) .nil)
  · intro c hc
    obtain rfl := List.mem_singleton.mp hc
    refine ⟨s, hs, ?_⟩
    rw [FitAll, hsparams]
    exact .cons ⟨.of "x", rfl⟩ (.cons trivial .nil)

end Typewright.Evaluation
