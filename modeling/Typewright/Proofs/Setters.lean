import Typewright.Proofs.Functions

/-! # What setters do

A setter makes a value of its arguments, in one of three ways, and overwrites its own member with it. A setter that
makes the value in place passes it to the direct setter of the member, which the bundle knows by its plain name. -/

namespace Typewright.Evaluation

variable {S : Type}

/-! ### The values that setters make -/

/-- The one value that a function is called with. -/
def sole? : List (Argument S) → Option (Datum S)
  | [.datum d] => some d
  | _ => none

/-- Raw values of a type in the value envelope. -/
def wrapInto? : FieldType → Datum S → Option (Datum S)
  | .list _ => wrapEach?
  | .map _ => wrapValues?
  | _ => wrap?

/-- A value of a type made from what its factory takes and a configuration step. -/
def madeInPlace (bundle : Bundle) (target : String) (args : List (Argument S)) : Eval (Datum S) := do
  let b ← bundle.find? target
  match args.getLast? with
  | some (.step f) =>
    let started ← create bundle b args.dropLast
    let configured ← configure f started
    build bundle configured
  | _ => failure

/-- The value for the member `m` that a setter of a kind makes of its arguments. -/
def passed (bundle : Bundle) (m : Member) (args : List (Argument S)) : SetterKind → Eval (Datum S)
  | .direct => sole? args
  | .wrapping => do
    let raw ← sole? args
    wrapInto? m.type raw
  | .nested => do
    let target ← m.type.named?
    madeInPlace bundle target args

/-- What a member holds when it has a value. -/
def keep (m : Member) (d : Datum S) : Datum S := if m.required then d else .present d

/-! ### Calls of setters -/

section Setters
variable {schema : Schema} {config : Config} {table : MemberTable} {artifacts : Catalogue Artifact} {a : Artifact}
  {bundle : Bundle} {scope : String → Option Artifact} {type : TypeId} {fields : Fields S}

open Emission

theorem bind?_singleton {p : Param} (h : takesDatum p.type) (args : List (Argument S)) :
    bind? [p] args = (sole? args).map fun d => [(p.name, .datum d)] := by
  cases args with
  | nil => rfl
  | cons x xs =>
    cases xs with
    | nil =>
      cases x with
      | datum d => rw [bind?, if_pos (suits_datum h d)]; rfl
      | step _ | context =>
        rw [bind?, if_neg fun hx => ?_]
        · rfl
        · obtain ⟨d, hd⟩ := exists_datum_of_suits h hx
          cases hd
    | cons y ys => cases x <;> simp [bind?, sole?]

/-- A member overwritten with the value of a body. -/
def overwrite (type : TypeId) (fields : Fields S) (m : Member) (d : Datum S) : Eval (Datum S) := do
  let fields ← overwrite? m.name (keep m d) fields
  return .builder type fields

theorem eval_assignTo {frame : Frame S} (hself : frame.receiver = some (type, fields)) (m : Member) (b : Body) :
    frame.eval bundle (assignTo m b) = frame.eval bundle b >>= overwrite type fields m := by
  rw [assignTo, eval_assign, hself]
  by_cases hrequired : m.required = true
  · simp only [hrequired, if_true, lift_some, pure_bind]
    refine congrArg _ (funext fun d => ?_)
    rw [overwrite, keep, if_pos hrequired]
  · simp only [hrequired, if_false, Bool.false_eq_true, lift_some, pure_bind, eval_present, bind_assoc]
    refine congrArg _ (funext fun d => ?_)
    rw [overwrite, keep, if_neg hrequired]

theorem eval_wrapAs {frame : Frame S} (type : FieldType) (b : Body) :
    frame.eval bundle (wrapAs type b) = frame.eval bundle b >>= fun d => liftM (wrapInto? type d) := by
  cases type with
  | list t => exact eval_wrapEach b
  | map t => exact eval_wrapValues b
  | _ => exact eval_wrap b

/-- A setter that takes one value and overwrites its member with what `make` gives for it. -/
theorem call_assigning {c : Callable} {m : Member} {t : FieldType} {b : Body} {make : Datum S → Option (Datum S)}
    (hparams : c.params = [⟨m.name, .value t⟩]) (hbody : c.body = assignTo m b)
    (hb : ∀ frame : Frame S, frame.eval bundle b = frame.eval bundle (.param m.name) >>= fun d => liftM (make d))
    (args : List (Argument S)) :
    call bundle scope (some (type, fields)) c args =
      (liftM ((sole? args).bind make) : Eval (Datum S)) >>= overwrite type fields m := by
  have hbound := bind?_singleton (p := ⟨m.name, .value t⟩) rfl args
  cases hsole : sole? args with
  | none =>
    rw [hsole] at hbound
    rw [call_of_none (hparams ▸ hbound)]
    rfl
  | some d =>
    rw [hsole] at hbound
    rw [call_of_bind (hparams ▸ hbound), hbody, eval_assignTo rfl, hb, eval_param,
      datum?_of_lookup (d := d) (by simp), lift_some, pure_bind]
    rfl

theorem call_directSetter (m : Member) (name : String) (args : List (Argument S)) :
    call bundle scope (some (type, fields)) (directSetter m name).callable args =
      (liftM (sole? args) : Eval (Datum S)) >>= overwrite type fields m := by
  rw [← Option.bind_fun_some (sole? args)]
  exact call_assigning rfl rfl (fun frame => by simp) args

theorem call_wrappingSetter (m : Member) (args : List (Argument S)) :
    call bundle scope (some (type, fields)) (wrappingSetter m).callable args =
      (liftM ((sole? args).bind (wrapInto? m.type)) : Eval (Datum S)) >>= overwrite type fields m :=
  call_assigning rfl rfl (fun _ => eval_wrapAs m.type _) args

/-- The body by which a value is made by the factory, a step and the build method. -/
theorem eval_builtBy_args {frame : Frame S} {f : Step S} {step : String} (hscope : frame.scope a.typeName = some a)
    (hstep : frame.step? step = some f) (args : List Body) :
    frame.eval bundle (builtBy a.typeName args step) = (do
      let values ← args.mapM (frame.eval bundle)
      let started ← create bundle a (values.map .datum)
      let configured ← configure f started
      build bundle configured) := by
  rw [builtBy, eval_invokeBuild, eval_applyConfigure hstep, eval_invokeFactory, hscope, lift_some, pure_bind,
    bind_assoc, bind_assoc]

/-- The body by which a value is made in place, where the parameters have the values of `v`. -/
theorem eval_builtBy {frame : Frame S} {f : Step S} {step : String} {v : String → Datum S}
    (hscope : frame.scope a.typeName = some a) (hstep : frame.step? step = some f)
    (hv : ∀ p ∈ a.factory.params, frame.datum? p.name = some (v p.name)) :
    frame.eval bundle (builtBy a.typeName (paramBodies a.factory.params) step) = (do
      let started ← create bundle a (a.factory.params.map fun p => .datum (v p.name))
      let configured ← configure f started
      build bundle configured) := by
  rw [eval_builtBy_args hscope hstep, mapM_paramBodies hv, pure_bind, List.map_map]
  rfl

theorem lookup_concat_of_mem {names : List String} {n : String} (hn : n ∈ names) (v : String → Datum S)
    (e : String × Argument S) :
    (tabulate names (fun n => Argument.datum (v n)) ++ [e]).lookup n = some (.datum (v n)) := by
  rw [List.lookup_append, lookup_tabulate hn, Option.some_or]

theorem lookup_concat_self {names : List String} {n : String} (hn : n ∉ names) (v : String → Datum S)
    (x : Argument S) : (tabulate names (fun n => Argument.datum (v n)) ++ [(n, x)]).lookup n = some x := by
  have hnone : (tabulate names fun n => Argument.datum (v n)).lookup n = none := by
    refine List.lookup_eq_none_iff.mpr fun e he => ?_
    obtain ⟨k, hk, rfl⟩ := List.mem_map.mp he
    exact bne_iff_ne.mpr fun heq => hn (heq ▸ hk)
  rw [List.lookup_append, hnone, Option.none_or, List.lookup_cons, beq_self_eq_true]

variable (h : Emits schema config table artifacts) (ha : a ∈ (Bundle.ofCatalogue artifacts).artifacts)
include h ha

theorem set_eq {s : Setter} (hs : s ∈ a.builder.setters) (args : List (Argument S)) :
    set (.ofCatalogue artifacts) s.callable.name args (.builder a.id fields) =
      call (.ofCatalogue artifacts) (Bundle.ofCatalogue artifacts).find? (some (a.id, fields)) s.callable args := by
  rw [set, h.find?_id ha, lift_some, pure_bind, (h.namesDistinct ha).setter?_of_mem hs, lift_some, pure_bind]

/-- What is made in place of `v` and the step `f` is passed to the direct setter. -/
theorem eval_passed {m : Member} (hm : m ∈ a.data.members)
    (hdirect : directSetter m (setterName m.name) ∈ settersOf table.boxCycles m) {b : Artifact}
    (hfind : (Bundle.ofCatalogue artifacts).find? b.typeName = some b) {step : String}
    (hfresh : step ∉ b.factory.params.map (·.name)) (v : String → Datum S) (f : Step S) :
    Frame.eval (.ofCatalogue artifacts) ⟨(Bundle.ofCatalogue artifacts).find?, some (a.id, fields),
        tabulate (b.factory.params.map (·.name)) (fun n => .datum (v n)) ++ [(step, .step f)]⟩
        (.callSetter (setterName m.name) (builtBy b.typeName (paramBodies b.factory.params) step)) = (do
      let started ← create (.ofCatalogue artifacts) b (b.factory.params.map fun p => .datum (v p.name))
      let configured ← configure f started
      build (.ofCatalogue artifacts) configured) >>= overwrite a.id fields m := by
  let frame : Frame S := ⟨(Bundle.ofCatalogue artifacts).find?, some (a.id, fields),
    tabulate (b.factory.params.map (·.name)) (fun n => .datum (v n)) ++ [(step, .step f)]⟩
  -- The name of the step is none of the parameters before it, so in the frame both are found.
  have hstep : frame.step? step = some f := by rw [Frame.step?, lookup_concat_self hfresh]
  have hv : ∀ p ∈ b.factory.params, frame.datum? p.name = some (v p.name) := fun p hp =>
    datum?_of_lookup (lookup_concat_of_mem (List.mem_map_of_mem hp) v _)
  rw [eval_callSetter rfl, eval_builtBy hfind hstep hv]
  refine congrArg _ (funext fun d => ?_)
  exact (set_eq h ha (h.mem_setters ha hm hdirect) [.datum d]).trans (call_directSetter m _ [.datum d])

/-- A setter that makes the value in place passes it to the direct setter. -/
theorem call_nestedSetter {m : Member} (hm : m ∈ a.data.members) {target : String} {members : List Member}
    (hmembers : table.boxCycles.properties.find? target = some members)
    (hdirect : directSetter m (setterName m.name) ∈ settersOf table.boxCycles m) (args : List (Argument S)) :
    call (.ofCatalogue artifacts) (Bundle.ofCatalogue artifacts).find? (some (a.id, fields))
        (nestedSetter m target members).callable args =
      madeInPlace (.ofCatalogue artifacts) target args >>= overwrite a.id fields m := by
  obtain ⟨b, hb, hfind, hid, rfl, hparams⟩ := h.find?_of_properties hmembers
  obtain rfl : b.typeName = target := congrArg TypeId.name hid
  have hdata : ∀ p ∈ b.factory.params, takesDatum p.type :=
    hparams ▸ fun p hp => takesDatum_of_mem_requiredParams hp
  have hnodup : (b.factory.params.map (·.name)).Nodup :=
    hparams ▸ (h.namesDistinct hb).nodup_requiredMembers
  let params := b.factory.params
  let step : Param := ⟨configureName params, .configure b.typeName⟩
  have hcallable : (nestedSetter m b.typeName b.data.members).callable = {
      name := m.name ++ "_with"
      params := params ++ [step]
      body := .callSetter (setterName m.name) (builtBy b.typeName (paramBodies params) step.name) } := by
    rw [nestedSetter, ← requiredParams_false, ← hparams]
  have hfresh : step.name ∉ params.map (·.name) := freeName_not_mem _ _
  rw [hcallable]
  rcases args.eq_nil_or_concat with rfl | ⟨xs, x, rfl⟩
  · rw [call_of_none (bind?_concat_nil params step), madeInPlace, hfind, lift_some, pure_bind, List.getLast?_nil]
    rfl
  · have hbound := bind?_concat params step xs x
    rw [madeInPlace, hfind, lift_some, pure_bind, List.concat_eq_append, List.getLast?_concat, List.dropLast_concat]
    cases hgiven : bind? params xs with
    | none =>
      rw [hgiven] at hbound
      rw [call_of_none hbound]
      cases x with
      | step f =>
        dsimp only
        rw [create, call_of_none hgiven]
        rfl
      | datum _ | context => rfl
    | some given =>
      rw [hgiven] at hbound
      cases x with
      | datum _ | context => rw [call_of_none hbound]; rfl
      | step f =>
        obtain ⟨v, rfl, rfl⟩ := exists_data_of_bind? hdata hnodup hgiven
        rw [call_of_bind hbound]
        exact eval_passed h ha hm hdirect hfind hfresh v f

/-- A setter overwrites its member with the value that it makes of its arguments. -/
theorem exists_call_setter {s : Setter} (hs : s ∈ a.builder.setters) :
    ∃ m ∈ a.data.members, s.member = m.name ∧ ∀ (args : List (Argument S)) (fields : Fields S),
      call (.ofCatalogue artifacts) (Bundle.ofCatalogue artifacts).find? (some (a.id, fields)) s.callable args =
        passed (.ofCatalogue artifacts) m args s.kind >>= overwrite a.id fields m := by
  obtain ⟨m, hm, hsm⟩ := h.exists_member_of_setter ha hs
  refine ⟨m, hm, ?_⟩
  rcases mem_settersOf hsm with ⟨-, rfl⟩ | ⟨name, rfl⟩ | ⟨target, members, htarget, hmembers, rfl, hdirect⟩
  · refine ⟨rfl, fun args fields => (call_wrappingSetter m args).trans ?_⟩
    cases hsole : sole? args with
    | none =>
      rw [wrappingSetter, passed, hsole]
      rfl
    | some d =>
      rw [wrappingSetter, passed, hsole, lift_some, pure_bind]
      rfl
  · exact ⟨rfl, fun args fields => call_directSetter m name args⟩
  · refine ⟨rfl, fun args fields => (call_nestedSetter h ha hm hmembers hdirect args).trans ?_⟩
    rw [nestedSetter, passed, htarget, lift_some, pure_bind]

end Setters

end Typewright.Evaluation
