import Typewright.Proofs.Evaluation

/-! # What the functions of an artifact do

The constructor of the data type makes a record of the values it is given, that of the builder a builder of the values
of the identity and the required members, and the factory the same builder. The build method keeps all values. All of
this rests on the names of parameters and fields being distinct, so that a name has the value of its own argument. -/

namespace Typewright.Evaluation

variable {S : Type}

/-! ### Parameters -/

/-- Whether a parameter of a type takes a value. -/
def takesDatum : ParamType → Bool
  | .configure _ | .context => false
  | _ => true

theorem suits_datum {type : ParamType} (h : takesDatum type) (d : Datum S) : (Argument.datum d).suits type = true := by
  cases type with
  | configure _ | context => cases h
  | _ => rfl

theorem exists_datum_of_suits {type : ParamType} (h : takesDatum type) {x : Argument S} (hx : x.suits type = true) :
    ∃ d, x = .datum d := by
  cases x with
  | datum d => exact ⟨d, rfl⟩
  | step _ | context => cases type <;> simp_all [takesDatum, Argument.suits]

/-- Parameters that take values, given the values of `v`. -/
theorem bind?_data {params : List Param} (hdata : ∀ p ∈ params, takesDatum p.type) (v : String → Datum S) :
    bind? params (params.map fun p => .datum (v p.name)) =
      some (tabulate (params.map (·.name)) fun n => .datum (v n)) := by
  induction params with
  | nil => rfl
  | cons p ps ih =>
    rw [List.map_cons, bind?, if_pos (suits_datum (hdata p List.mem_cons_self) _),
      ih fun q hq => hdata q (List.mem_cons_of_mem _ hq)]
    rfl

/-- Arguments for parameters that take values are values, one under each name. -/
theorem exists_data_of_bind? {params : List Param} (hdata : ∀ p ∈ params, takesDatum p.type)
    (hnodup : (params.map (·.name)).Nodup) : ∀ {args : List (Argument S)} {given : List (String × Argument S)},
      bind? params args = some given → ∃ v : String → Datum S, args = params.map (fun p => .datum (v p.name)) ∧
        given = tabulate (params.map (·.name)) fun n => .datum (v n) := by
  induction params with
  | nil =>
    intro args given h
    cases args with
    | nil =>
      cases h
      exact ⟨fun _ => .absent, rfl, rfl⟩
    | cons x xs => cases h
  | cons p ps ih =>
    intro args given h
    cases args with
    | nil => cases h
    | cons x xs =>
      rw [bind?] at h
      split at h
      · rename_i hx
        obtain ⟨d, rfl⟩ := exists_datum_of_suits (hdata p List.mem_cons_self) hx
        obtain ⟨rest, hrest, rfl⟩ := Option.map_eq_some_iff.mp h
        obtain ⟨hnot, hnodup⟩ := List.nodup_cons.mp hnodup
        obtain ⟨v, rfl, rfl⟩ := ih (fun q hq => hdata q (List.mem_cons_of_mem _ hq)) hnodup hrest
        have hother : ∀ n ∈ ps.map (·.name), Function.update v p.name d n = v n := by
          intro n hn
          refine Function.update_of_ne ?_ _ _
          rintro rfl
          exact hnot hn
        refine ⟨Function.update v p.name d, ?_, ?_⟩
        · rw [List.map_cons, Function.update_self]
          exact congrArg _ (List.map_congr_left fun q hq => by rw [hother q.name (List.mem_map_of_mem hq)])
        · rw [List.map_cons, tabulate_cons, Function.update_self]
          exact congrArg _ (tabulate_congr fun n hn => by rw [hother n hn])
      · cases h

theorem bind?_concat (params : List Param) (p : Param) (args : List (Argument S)) (x : Argument S) :
    bind? (params ++ [p]) (args ++ [x]) =
      (bind? params args).bind fun given => if x.suits p.type then some (given ++ [(p.name, x)]) else none := by
  induction params generalizing args with
  | nil =>
    cases args with
    | nil => by_cases hx : x.suits p.type = true <;> simp [bind?, hx]
    | cons y ys => cases ys <;> simp [bind?]
  | cons q qs ih =>
    cases args with
    | nil => cases qs <;> simp [bind?]
    | cons y ys =>
      rw [List.cons_append, List.cons_append, bind?, bind?]
      split
      · rw [ih ys]
        cases bind? qs ys with
        | none => rfl
        | some given => by_cases hx : x.suits p.type = true <;> simp [hx]
      · rfl

theorem bind?_concat_nil (params : List Param) (p : Param) :
    bind? (params ++ [p]) ([] : List (Argument S)) = none := by
  cases params <;> rfl

/-- Parameters, each beside what it is given. -/
theorem bind?_pairs {pairs : List (Param × Argument S)} (h : ∀ e ∈ pairs, e.2.suits e.1.type = true) :
    bind? (pairs.map (·.1)) (pairs.map (·.2)) = some (pairs.map fun e => (e.1.name, e.2)) := by
  induction pairs with
  | nil => rfl
  | cons e pairs ih =>
    rw [List.map_cons, List.map_cons, bind?, if_pos (h e List.mem_cons_self),
      ih fun e he => h e (List.mem_cons_of_mem _ he)]
    rfl

/-- A name has what its parameter is given, if no other parameter has the name. -/
theorem lookup_pairs {pairs : List (Param × Argument S)} (hnodup : ((pairs.map (·.1)).map (·.name)).Nodup) {p : Param}
    {x : Argument S} (hmem : (p, x) ∈ pairs) : (pairs.map fun e => (e.1.name, e.2)).lookup p.name = some x := by
  have hbeside : (p.name, x) ∈ pairs.map fun e => (e.1.name, e.2) :=
    List.mem_map_of_mem (f := fun e : Param × Argument S => (e.1.name, e.2)) hmem
  refine lookup_of_mem ?_ hbeside
  rw [List.map_map] at hnodup ⊢
  exact hnodup

/-! ### The functions of an artifact -/

section Functions
variable {schema : Schema} {config : Config} {table : MemberTable} {artifacts : Catalogue Artifact} {a : Artifact}

open Emission

theorem takesDatum_of_mem_requiredParams {members : List Member} {resource : Bool} {p : Param}
    (hp : p ∈ requiredParams members resource) : takesDatum p.type := by
  rcases mem_withIdentity.mp hp with ⟨-, rfl | rfl⟩ | hmem
  · rfl
  · rfl
  · obtain ⟨m, -, rfl⟩ := List.mem_map.mp hmem
    rfl

/-- The frame of a function that has no receiver and is given the values of `v`. -/
def frameOf (scope : String → Option Artifact) (params : List Param) (v : String → Datum S) : Frame S :=
  ⟨scope, none, tabulate (params.map (·.name)) fun n => .datum (v n)⟩

theorem datum?_of_lookup {frame : Frame S} {n : String} {d : Datum S} (h : frame.args.lookup n = some (.datum d)) :
    frame.datum? n = some d := by
  rw [Frame.datum?, h]

theorem datum?_frameOf {scope : String → Option Artifact} {params : List Param} {n : String}
    (hn : n ∈ params.map (·.name)) (v : String → Datum S) : (frameOf scope params v).datum? n = some (v n) :=
  datum?_of_lookup (lookup_tabulate hn _)

theorem call_of_bind {bundle : Bundle} {scope : String → Option Artifact} {receiver : Option (TypeId × Fields S)}
    {c : Callable} {args : List (Argument S)} {bound : List (String × Argument S)}
    (h : bind? c.params args = some bound) :
    call bundle scope receiver c args = Frame.eval bundle ⟨scope, receiver, bound⟩ c.body := by
  rw [call, h, lift_some, pure_bind]

theorem call_of_none {bundle : Bundle} {scope : String → Option Artifact} {receiver : Option (TypeId × Fields S)}
    {c : Callable} {args : List (Argument S)} (h : bind? c.params args = none) :
    call bundle scope receiver c args = failure := by
  rw [call, h, lift_none, failure_bind]

theorem call_data {bundle : Bundle} {scope : String → Option Artifact} {c : Callable}
    (hdata : ∀ p ∈ c.params, takesDatum p.type) (v : String → Datum S) :
    call bundle scope none c (c.params.map fun p => .datum (v p.name)) =
      Frame.eval bundle (frameOf scope c.params v) c.body :=
  call_of_bind (bind?_data hdata v)

/-- Parameters that are passed on are passed on with their values. -/
theorem mapM_paramBodies {bundle : Bundle} {frame : Frame S} {params : List Param} {v : String → Datum S}
    (h : ∀ p ∈ params, frame.datum? p.name = some (v p.name)) :
    (paramBodies params).mapM (frame.eval bundle) = pure (params.map fun p => v p.name) := by
  rw [paramBodies, List.mapM_map]
  refine mapM_eq_pure fun p hp => ?_
  rw [Function.comp_apply, eval_param, h p hp, lift_some]

theorem mapM_paramBodies_of_forall₂ {bundle : Bundle} {frame : Frame S} {params : List Param} {ds : List (Datum S)}
    (h : List.Forall₂ (fun p d => frame.datum? p.name = some d) params ds) :
    (paramBodies params).mapM (frame.eval bundle) = pure ds := by
  induction h with
  | nil => rfl
  | @cons p d ps ds hp _ ih =>
    rw [paramBodies, List.map_cons, List.mapM_cons, eval_param, hp, lift_some, pure_bind]
    exact congrArg (· >>= fun ds => pure (d :: ds)) ih

@[simp] theorem eval_boxedIf {bundle : Bundle} {frame : Frame S} (m : Member) (b : Body) :
    frame.eval bundle (boxedIf m b) = frame.eval bundle b := by
  rw [boxedIf]
  split
  · exact eval_boxed b
  · rfl

/-- What a new builder of `a` holds: what it was given for the identity and the required members. -/
def initial (a : Artifact) (v : String → Datum S) (n : String) : Datum S :=
  match a.data.member? n with
  | some m => if m.required then v n else .absent
  | none => v n

variable (h : Emits schema config table artifacts) (ha : a ∈ (Bundle.ofCatalogue artifacts).artifacts)
include h ha

theorem nodup_fieldNames : a.fieldNames.Nodup := (h.namesDistinct ha).nodup_fields

/-- The constructor of the builder keeps what it is given. -/
theorem start_eq (v : String → Datum S) :
    start (.ofCatalogue artifacts) a (a.builder.constructor.params.map fun p => .datum (v p.name)) =
      pure (.builder a.id (tabulate a.fieldNames (initial a v))) := by
  have hnames := h.namesDistinct ha
  rw [start, (h.generated ha).builderConstructor, call_data fun p hp => takesDatum_of_mem_requiredParams hp]
  refine (eval_constructBuilder (Bundle.ownScope_self _ a) (g := initial a v) fun e he => ?_).trans ?_
  · have hgiven : ∀ n ∈ withIdentity a.isResource logicalName ((requiredMembers a.data.members).map (·.name)) dependsOn,
        (frameOf ((Bundle.ofCatalogue artifacts).ownScope a) (requiredParams a.data.members a.isResource) v).datum? n =
          some (v n) := fun n hn =>
      datum?_frameOf (names_requiredParams _ _ ▸ hn) v
    rcases mem_fieldsWith he with ⟨hres, hname, hbody⟩ | ⟨m, hm, rfl⟩
    · rw [hbody, eval_param, initial, hnames.member?_identity hres hname]
      exact congrArg liftM (hgiven e.1 (mem_withIdentity.mpr (Or.inl ⟨hres, hname⟩)))
    · rw [initial, hnames.member?_of_mem hm]
      by_cases hrequired : m.required = true
      · have hmem : m.name ∈ (requiredMembers a.data.members).map (·.name) :=
          List.mem_map_of_mem (List.mem_filter.mpr ⟨hm, hrequired⟩)
        simp only [hrequired, if_true, eval_boxedIf, eval_param]
        exact congrArg liftM (hgiven m.name (mem_withIdentity.mpr (Or.inr hmem)))
      · simp [hrequired]
  · rw [names_fieldsWith]
    rfl

/-- The factory starts a builder of what it is given. -/
theorem exists_create_eq {args : List (Argument S)} {given : List (String × Argument S)}
    (hgiven : bind? a.factory.params args = some given) : ∃ v : String → Datum S,
      given = tabulate (a.factory.params.map (·.name)) (fun n => .datum (v n)) ∧
        create (.ofCatalogue artifacts) a args = pure (.builder a.id (tabulate a.fieldNames (initial a v))) := by
  have hfactory := (h.generated ha).factory
  have hdata : ∀ p ∈ a.factory.params, takesDatum p.type := by
    rw [hfactory]
    exact fun p hp => takesDatum_of_mem_requiredParams hp
  have hnodup : (a.factory.params.map (·.name)).Nodup := by
    rw [hfactory]
    exact (h.namesDistinct ha).nodup_requiredParams _ id
  obtain ⟨v, rfl, rfl⟩ := exists_data_of_bind? hdata hnodup hgiven
  refine ⟨v, rfl, ?_⟩
  -- The builder's constructor takes the parameters of the factory.
  have hparams : a.builder.constructor.params = a.factory.params := by
    rw [hfactory, (h.generated ha).builderConstructor]
    rfl
  have hstart := start_eq h ha v
  rw [hparams] at hstart
  have hbody : a.factory.body = .newBuilder a.typeName (paramBodies a.factory.params) := by
    rw [hfactory]
    rfl
  rw [create, call_data hdata, hbody, eval_newBuilder]
  have hscope : (frameOf ((Bundle.ofCatalogue artifacts).ownScope a) a.factory.params v).scope a.typeName = some a :=
    Bundle.ownScope_self _ a
  rw [hscope, lift_some, pure_bind, mapM_paramBodies fun p hp => datum?_frameOf (List.mem_map_of_mem hp) v, pure_bind,
    List.map_map]
  exact hstart

/-- The constructor of the data type makes a record of what it is given. -/
theorem construct_eq (v : String → Datum S) :
    construct (.ofCatalogue artifacts) a (a.data.constructor.params.map fun p => .datum (v p.name)) =
      pure (.record a.id (tabulate a.fieldNames v)) := by
  have hnames := (h.generated ha).names_constructorParams
  have hdata : ∀ p ∈ a.data.constructor.params, takesDatum p.type := by
    rw [(h.generated ha).constructor]
    intro p hp
    rcases mem_withIdentity.mp hp with ⟨-, rfl | rfl⟩ | hmem
    · rfl
    · rfl
    · obtain ⟨m, -, rfl⟩ := List.mem_map.mp hmem
      by_cases hrequired : m.required = true
      · simp [hrequired, takesDatum]
      · simp [hrequired, takesDatum]
  have hgiven : ∀ n ∈ a.fieldNames,
      (frameOf ((Bundle.ofCatalogue artifacts).ownScope a) a.data.constructor.params v).datum? n = some (v n) :=
    fun n hn => datum?_frameOf (hnames ▸ hn) v
  have hbody : a.data.constructor.body = .construct a.typeName (fieldsWith a.data.members a.isResource .param fun m =>
      if m.boxed && !m.required then .boxedOptional (.param m.name) else boxedIf m (.param m.name)) := by
    rw [(h.generated ha).constructor]
    rfl
  rw [construct, call_data hdata, hbody]
  refine (eval_construct (Bundle.ownScope_self _ a) (g := v) fun e he => ?_).trans ?_
  · rcases mem_fieldsWith he with ⟨hres, hname, hparam⟩ | ⟨m, hm, rfl⟩
    · rw [hparam, eval_param, hgiven e.1 (mem_withIdentity.mpr (Or.inl ⟨hres, hname⟩)), lift_some]
    · have hmem : m.name ∈ a.fieldNames := mem_withIdentity.mpr (Or.inr (List.mem_map_of_mem hm))
      have hparam : Frame.eval (.ofCatalogue artifacts) (frameOf ((Bundle.ofCatalogue artifacts).ownScope a)
          a.data.constructor.params v) (.param m.name) = pure (v m.name) := by
        rw [eval_param, hgiven m.name hmem, lift_some]
      dsimp only
      split
      · rw [eval_boxedOptional, hparam]
      · rw [eval_boxedIf, hparam]
  · rw [names_fieldsWith]
    rfl

/-- The build method keeps what the builder holds. -/
theorem build_eq {fields : Fields S} (hfields : fields.map (·.1) = a.fieldNames) :
    build (.ofCatalogue artifacts) (.builder a.id fields) = pure (.record a.id fields) := by
  have hnodup : (fields.map (·.1)).Nodup := hfields ▸ nodup_fieldNames h ha
  have hbuild := (h.generated ha).build
  have hbound : bind? a.builder.build.params ([] : List (Argument S)) = some [] := by
    rw [hbuild]
    rfl
  rw [build, h.find?_id ha, lift_some, pure_bind, call_of_bind hbound, hbuild]
  refine (eval_construct (Bundle.ownScope_self _ a) (g := fun n => (fields.lookup n).getD .absent)
    fun e he => ?_).trans ?_
  · have hheld : ∀ n ∈ a.fieldNames, fields.lookup n = some ((fields.lookup n).getD .absent) := by
      intro n hn
      have hlookup := lookup_tabulate (hfields ▸ hn) fun n => (fields.lookup n).getD .absent
      rwa [tabulate_lookup hnodup] at hlookup
    rcases mem_fieldsWith he with ⟨hres, hname, hbody⟩ | ⟨m, hm, rfl⟩
    · rw [hbody, eval_held]
      exact congrArg liftM (hheld e.1 (mem_withIdentity.mpr (Or.inl ⟨hres, hname⟩)))
    · rw [eval_held]
      exact congrArg liftM (hheld m.name (mem_withIdentity.mpr (Or.inr (List.mem_map_of_mem hm))))
  · rw [names_fieldsWith]
    have htabulate := tabulate_lookup hnodup .absent
    rw [hfields] at htabulate
    exact congrArg (fun fs => pure (Datum.record a.id fs)) htabulate

end Functions

end Typewright.Evaluation
