import Mathlib.Logic.Function.Basic
import Typewright.Proofs.Emitted
import Typewright.Template

/-! # What generated functions do

A body is evaluated in a frame, which says what the names in it mean: the parameters, the members of the receiver, and
the artifacts that type names stand for. The functions of an artifact take its own name for the artifact itself; its
setters, which only mention the types of members, take every name for what it means in the bundle. Raw scalars are of
any type `S`. A value on the heap is that value. A body that makes no sense in its frame has no value; so has one that
never comes to an end, which is why evaluation is a partial fixed point. -/

namespace Typewright.Evaluation

/-- What generated code computes with. -/
inductive Datum (S : Type) where
  | scalar (s : S)
  | value (v : Value S)
  | list (items : List (Datum S))
  | map (entries : List (String × Datum S))
  | text (s : String)
  | texts (ss : List String)
  /-- An optional value that is not there. -/
  | absent
  | present (d : Datum S)
  /-- A value of a data type. -/
  | record (type : TypeId) (fields : List (String × Datum S))
  | builder (type : TypeId) (fields : List (String × Datum S))
  /-- The answer of a template that does not take a resource. -/
  | refused (cause : TemplateError)

/-- The members of a record or a builder, with their values. -/
abbrev Fields (S : Type) := List (String × Datum S)

/-- A configuration step: what it does to the members of a builder, which stay the same by name. -/
structure Step (S : Type) where
  apply : Fields S → Fields S
  names : ∀ fields, (apply fields).map (·.1) = fields.map (·.1)

/-- What a function is called with. -/
inductive Argument (S : Type) where
  | datum (d : Datum S)
  | step (f : Step S)
  | context

variable {S : Type}

/-- Evaluation reads and changes the template that is the context. -/
abbrev Eval (α : Type) := StateT Template Option α

/-- Where a body is evaluated. -/
structure Frame (S : Type) where
  /-- The artifacts that type names stand for. -/
  scope : String → Option Artifact
  receiver : Option (TypeId × Fields S)
  args : List (String × Argument S)

namespace Frame

def datum? (f : Frame S) (name : String) : Option (Datum S) :=
  match f.args.lookup name with
  | some (.datum d) => some d
  | _ => none

def step? (f : Frame S) (name : String) : Option (Step S) :=
  match f.args.lookup name with
  | some (.step g) => some g
  | _ => none

def context? (f : Frame S) (name : String) : Option Unit :=
  match f.args.lookup name with
  | some .context => some ()
  | _ => none

def held? (f : Frame S) (name : String) : Option (Datum S) := f.receiver.bind fun r => r.2.lookup name

end Frame

/-- A raw scalar in the value envelope. -/
def wrap? : Datum S → Option (Datum S)
  | .scalar s => some (.value (.of s))
  | _ => none

/-- Every item of a raw list in the value envelope. -/
def wrapEach? : Datum S → Option (Datum S)
  | .list items => (items.mapM wrap?).map .list
  | _ => none

/-- Every value of a raw map in the value envelope. -/
def wrapValues? : Datum S → Option (Datum S)
  | .map entries => (entries.mapM fun e => (wrap? e.2).map (e.1, ·)).map .map
  | _ => none

/-- `fields` with `d` for the member `name`, which must be there. -/
def overwrite? (name : String) (d : Datum S) (fields : Fields S) : Option (Fields S) :=
  if name ∈ fields.map (·.1) then some (fields.map fun e => (e.1, if e.1 = name then d else e.2)) else none

/-- The identity of a record as a template sees it. -/
def resource? (bundle : Bundle) (type : TypeId) (fields : Fields S) : Option Resource := do
  let a ← bundle.artifacts.find? (·.id = type)
  let resourceType ← a.data.resourceType
  match fields.lookup Emission.logicalName, fields.lookup Emission.dependsOn with
  | some (.text name), some .absent => return ⟨name, resourceType, none⟩
  | some (.text name), some (.present (.texts names)) => return ⟨name, resourceType, some names⟩
  | _, _ => none

/-- Whether a parameter of a type can be given an argument at all: only steps configure, and only a template is a
    context. -/
def Argument.suits : ParamType → Argument S → Bool
  | .configure _, .step _ | .context, .context => true
  | .configure _, _ | .context, _ => false
  | _, .datum _ => true
  | _, _ => false

/-- The parameters of a function with what it is called with, one argument for each. -/
def bind? : List Param → List (Argument S) → Option (List (String × Argument S))
  | [], [] => some []
  | p :: ps, x :: xs => if x.suits p.type then (bind? ps xs).map ((p.name, x) :: ·) else none
  | _, _ => none

/-- The value of a body. -/
def Frame.eval (bundle : Bundle) (frame : Frame S) (body : Body) : Eval (Datum S) :=
  match body with
  | .param name => liftM (frame.datum? name)
  | .held name => liftM (frame.held? name)
  | .wrap b => do
    let d ← frame |>.eval bundle b
    wrap? d
  | .wrapEach b => do
    let d ← frame |>.eval bundle b
    wrapEach? d
  | .wrapValues b => do
    let d ← frame |>.eval bundle b
    wrapValues? d
  | .boxed b | .boxedOptional b => frame |>.eval bundle b
  | .present b => do
    let d ← frame |>.eval bundle b
    return .present d
  | .absent => return .absent
  | .construct target fields => do
    let a ← frame.scope target
    let fields ← fields.mapM fun e => do
      let d ← frame |>.eval bundle e.2
      return (e.1, d)
    return .record a.id fields
  | .constructBuilder target fields => do
    let a ← frame.scope target
    let fields ← fields.mapM fun e => do
      let d ← frame |>.eval bundle e.2
      return (e.1, d)
    return .builder a.id fields
  | .newBuilder target args => do
    let a ← frame.scope target
    let args ← args.mapM fun b => frame |>.eval bundle b
    let bound ← bind? a.builder.constructor.params (args.map .datum)
    Frame.mk (bundle.ownScope a) none bound |>.eval bundle a.builder.constructor.body
  | .invokeFactory target args => do
    let a ← frame.scope target
    let args ← args.mapM fun b => frame |>.eval bundle b
    let bound ← bind? a.factory.params (args.map .datum)
    Frame.mk (bundle.ownScope a) none bound |>.eval bundle a.factory.body
  | .applyConfigure step b => do
    match ← (frame |>.eval bundle b) with
    | .builder type fields =>
      let f ← frame.step? step
      return .builder type (f.apply fields)
    | _ => failure
  | .invokeBuild b => do
    match ← (frame |>.eval bundle b) with
    | .builder type fields =>
      let a ← bundle.artifacts.find? (·.id = type)
      let bound ← bind? a.builder.build.params []
      Frame.mk (bundle.ownScope a) (some (type, fields)) bound |>.eval bundle a.builder.build.body
    | _ => failure
  | .callSetter setter b => do
    let d ← frame |>.eval bundle b
    let (type, fields) ← frame.receiver
    let a ← bundle.artifacts.find? (·.id = type)
    let s ← a.setter? setter
    let bound ← bind? s.callable.params [.datum d]
    Frame.mk bundle.find? (some (type, fields)) bound |>.eval bundle s.callable.body
  | .assign member b => do
    let d ← frame |>.eval bundle b
    let (type, fields) ← frame.receiver
    let fields ← overwrite? member d fields
    return .builder type fields
  | .logicalNameOr supplied context allocated => do
    match ← (frame |>.eval bundle supplied) with
    | .present d => return d
    | .absent =>
      let _ ← frame.context? context
      let t ← get
      set (t.allocate allocated).2
      return .text (t.allocate allocated).1
    | _ => failure
  | .dependenciesOr supplied context => do
    match ← (frame |>.eval bundle supplied) with
    | .present d => return .present d
    | .absent =>
      let _ ← frame.context? context
      match (← get).dependee with
      | some names => return .present (.texts names)
      | none => return .absent
    | _ => failure
  | .register context b => do
    match ← (frame |>.eval bundle b) with
    | .record type fields =>
      let _ ← frame.context? context
      let r ← resource? bundle type fields
      match (← get).register r with
      | .ok t =>
        set t
        return .record type fields
      | .error cause => return .refused cause
    | _ => failure
  | .attributeRef name => do
    match frame.held? Emission.logicalName with
    | some (.text logicalName) => return .value (.attributeOf logicalName name)
    | _ => failure
partial_fixpoint

/-! ### Calls -/

/-- A function of an artifact, called. -/
def call (bundle : Bundle) (scope : String → Option Artifact) (receiver : Option (TypeId × Fields S)) (c : Callable)
    (args : List (Argument S)) : Eval (Datum S) := do
  let bound ← bind? c.params args
  Frame.eval bundle ⟨scope, receiver, bound⟩ c.body

/-- The full constructor of the data type. -/
def construct (bundle : Bundle) (a : Artifact) (args : List (Argument S)) : Eval (Datum S) :=
  call bundle (bundle.ownScope a) none a.data.constructor args

/-- The constructor of the builder. -/
def start (bundle : Bundle) (a : Artifact) (args : List (Argument S)) : Eval (Datum S) :=
  call bundle (bundle.ownScope a) none a.builder.constructor args

/-- The factory. -/
def create (bundle : Bundle) (a : Artifact) (args : List (Argument S)) : Eval (Datum S) :=
  call bundle (bundle.ownScope a) none a.factory args

/-- The helper. -/
def help (bundle : Bundle) (a : Artifact) (args : List (Argument S)) : Eval (Datum S) :=
  call bundle (bundle.ownScope a) none a.helper args

/-- A step applied to a builder. -/
def configure (f : Step S) : Datum S → Eval (Datum S)
  | .builder type fields => return .builder type (f.apply fields)
  | _ => failure

/-- A builder, built. -/
def build (bundle : Bundle) : Datum S → Eval (Datum S)
  | .builder type fields => do
    let a ← bundle.artifacts.find? (·.id = type)
    call bundle (bundle.ownScope a) (some (type, fields)) a.builder.build []
  | _ => failure

/-- A setter of a builder, called by its name. -/
def set (bundle : Bundle) (setter : String) (args : List (Argument S)) : Datum S → Eval (Datum S)
  | .builder type fields => do
    let a ← bundle.artifacts.find? (·.id = type)
    let s ← a.setter? setter
    call bundle bundle.find? (some (type, fields)) s.callable args
  | _ => failure

/-! ### What templates are asked for -/

def Datum.ofOption : Option (Datum S) → Datum S
  | none => .absent
  | some d => .present d

/-- The logical name of a resource: the one that is supplied, or else one that the template gives out. -/
def logicalNameFor (typeName : String) : Option String → Eval String
  | some name => return name
  | none => modifyGet fun t => t.allocate typeName

/-- What a resource depends on: what is supplied, or else what the template has at hand. -/
def dependenciesFor : Option (List String) → Eval (Option (List String))
  | some names => return some names
  | none => return (← get).dependee

/-- A record registered with the template, or the answer that it cannot be. -/
def enroll (bundle : Bundle) : Datum S → Eval (Datum S)
  | .record type fields => do
    let r ← resource? bundle type fields
    match (← get).register r with
    | .ok t =>
      modify fun _ => t
      return .record type fields
    | .error cause => return .refused cause
  | _ => failure

/-! ### Named values -/

section Named
variable {α β : Type}

/-- Names with the values that `g` gives them. -/
def tabulate (names : List String) (g : String → α) : List (String × α) := names.map fun n => (n, g n)

theorem tabulate_cons (n : String) (names : List String) (g : String → α) :
    tabulate (n :: names) g = (n, g n) :: tabulate names g := rfl

@[simp] theorem names_tabulate (names : List String) (g : String → α) : (tabulate names g).map (·.1) = names := by
  rw [tabulate, List.map_map]
  exact List.map_id names

theorem tabulate_congr {names : List String} {f g : String → α} (h : ∀ n ∈ names, f n = g n) :
    tabulate names f = tabulate names g :=
  List.map_congr_left fun n hn => by rw [h n hn]

theorem lookup_tabulate {names : List String} {n : String} (h : n ∈ names) (g : String → α) :
    (tabulate names g).lookup n = some (g n) := by
  induction names with
  | nil => cases h
  | cons k names ih =>
    rw [tabulate_cons, List.lookup_cons]
    by_cases hn : n = k
    · simp [hn]
    · rw [beq_false_of_ne hn]
      exact ih ((List.mem_cons.mp h).resolve_left hn)

theorem lookup_of_mem {entries : List (String × α)} (h : (entries.map (·.1)).Nodup) {e : String × α}
    (he : e ∈ entries) : entries.lookup e.1 = some e.2 := by
  obtain ⟨before, after, rfl⟩ := List.append_of_mem he
  rw [List.map_append] at h
  refine List.lookup_eq_some_iff.mpr ⟨before, after, rfl, fun p hp => bne_iff_ne.mpr ?_⟩
  exact ((List.nodup_append.mp h).2.2 p.1 (List.mem_map_of_mem hp) e.1 List.mem_cons_self).symm

/-- Values with distinct names are what looking them up gives. -/
theorem tabulate_lookup {entries : List (String × α)} (h : (entries.map (·.1)).Nodup) (d : α) :
    tabulate (entries.map (·.1)) (fun n => (entries.lookup n).getD d) = entries := by
  induction entries with
  | nil => rfl
  | cons e entries ih =>
    obtain ⟨hnot, hnodup⟩ := List.nodup_cons.mp h
    have hrest : tabulate (entries.map (·.1)) (fun n => ((e :: entries).lookup n).getD d) = entries := by
      conv_rhs => rw [← ih hnodup]
      refine tabulate_congr fun n hn => ?_
      have hne : n ≠ e.1 := by
        rintro rfl
        exact hnot hn
      rw [List.lookup_cons, beq_false_of_ne hne]
    rw [List.map_cons, tabulate_cons, List.lookup_cons, beq_self_eq_true]
    exact congrArg (e :: ·) hrest

theorem overwrite?_tabulate {names : List String} {name : String} (h : name ∈ names) (g : String → Datum S)
    (d : Datum S) : overwrite? name d (tabulate names g) = some (tabulate names (Function.update g name d)) := by
  rw [overwrite?, if_pos (by rwa [names_tabulate])]
  refine congrArg some ?_
  rw [tabulate, List.map_map]
  refine List.map_congr_left fun n _ => ?_
  by_cases hn : n = name
  · simp [hn]
  · simp [hn]

theorem lookup_replace_of_ne {name other : String} (hne : other ≠ name) (d : Datum S) (fields : Fields S) :
    (fields.map fun e => (e.1, if e.1 = name then d else e.2)).lookup other = fields.lookup other := by
  induction fields with
  | nil => rfl
  | cons e fields ih =>
    rw [List.map_cons, List.lookup_cons, List.lookup_cons, ih]
    by_cases he : other = e.1
    · simp [← he, hne]
    · simp [beq_false_of_ne he]

theorem lookup_overwrite?_of_ne {name other : String} {d : Datum S} {fields fields' : Fields S}
    (h : overwrite? name d fields = some fields') (hne : other ≠ name) :
    fields'.lookup other = fields.lookup other := by
  rw [overwrite?] at h
  split at h
  · cases h
    exact lookup_replace_of_ne hne d fields
  · cases h

end Named

/-! ### Equations -/

section Equations
variable {α β : Type} {bundle : Bundle} {frame : Frame S}

@[simp] theorem lift_some (x : α) : (liftM (some x) : Eval α) = pure x := rfl

@[simp] theorem lift_none : (liftM (none : Option α) : Eval α) = failure := rfl

@[simp] theorem failure_bind (f : α → Eval β) : ((failure : Eval α) >>= f) = failure := rfl

-- The equations of the evaluation are derived here, once for all lemmas that take one of them.
attribute [local simp] Frame.eval

@[simp] theorem eval_param (name : String) : frame.eval bundle (.param name) = liftM (frame.datum? name) := by
  rw [Frame.eval]

theorem eval_param_of_datum? {name : String} {d : Datum S} (h : frame.datum? name = some d) :
    frame.eval bundle (.param name) = pure d := by
  rw [eval_param, h, lift_some]

@[simp] theorem eval_held (name : String) : frame.eval bundle (.held name) = liftM (frame.held? name) := by
  rw [Frame.eval]

@[simp] theorem eval_boxed (b : Body) : frame.eval bundle (.boxed b) = frame.eval bundle b := by
  rw [Frame.eval]

@[simp] theorem eval_boxedOptional (b : Body) : frame.eval bundle (.boxedOptional b) = frame.eval bundle b := by
  rw [Frame.eval]

@[simp] theorem eval_absent : frame.eval bundle .absent = pure .absent := by rw [Frame.eval]

theorem eval_wrap (b : Body) : frame.eval bundle (.wrap b) = frame.eval bundle b >>= fun d => liftM (wrap? d) := by
  rw [Frame.eval]

theorem eval_wrapEach (b : Body) :
    frame.eval bundle (.wrapEach b) = frame.eval bundle b >>= fun d => liftM (wrapEach? d) := by
  rw [Frame.eval]

theorem eval_wrapValues (b : Body) :
    frame.eval bundle (.wrapValues b) = frame.eval bundle b >>= fun d => liftM (wrapValues? d) := by
  rw [Frame.eval]

theorem eval_present (b : Body) :
    frame.eval bundle (.present b) = frame.eval bundle b >>= fun d => pure (.present d) := by
  rw [Frame.eval]

theorem eval_assign (member : String) (b : Body) : frame.eval bundle (.assign member b) = (do
    let d ← frame.eval bundle b
    let (type, fields) ← frame.receiver
    let fields ← overwrite? member d fields
    return .builder type fields) := by
  rw [Frame.eval]

theorem eval_newBuilder (target : String) (args : List Body) : frame.eval bundle (.newBuilder target args) = (do
    let a ← frame.scope target
    let args ← args.mapM (frame.eval bundle)
    start bundle a (args.map .datum)) := by
  rw [Frame.eval]
  rfl

theorem eval_invokeFactory (target : String) (args : List Body) :
    frame.eval bundle (.invokeFactory target args) = (do
      let a ← frame.scope target
      let args ← args.mapM (frame.eval bundle)
      create bundle a (args.map .datum)) := by
  rw [Frame.eval]
  rfl

theorem eval_applyConfigure {f : Step S} {step : String} (hstep : frame.step? step = some f) (b : Body) :
    frame.eval bundle (.applyConfigure step b) = frame.eval bundle b >>= configure f := by
  rw [Frame.eval]
  congr
  funext d
  cases d <;> simp [configure, hstep]

theorem eval_applyConfigure_congr {frame' : Frame S} {step : String} {b : Body}
    (hb : frame.eval bundle b = frame'.eval bundle b) (hstep : frame.step? step = frame'.step? step) :
    frame.eval bundle (.applyConfigure step b) = frame'.eval bundle (.applyConfigure step b) := by
  rw [Frame.eval.eq_def bundle frame, Frame.eval.eq_def bundle frame']
  dsimp only
  rw [hb, hstep]

theorem eval_invokeBuild (b : Body) :
    frame.eval bundle (.invokeBuild b) = frame.eval bundle b >>= build bundle := by
  rw [Frame.eval]
  congr

theorem eval_callSetter {type : TypeId} {fields : Fields S} (hself : frame.receiver = some (type, fields))
    (setter : String) (b : Body) : frame.eval bundle (.callSetter setter b) =
      frame.eval bundle b >>= fun d => set bundle setter [.datum d] (.builder type fields) := by
  rw [Frame.eval, hself]
  rfl

theorem eval_logicalNameOr {name? : Option String} {supplied : Body} {context : String}
    (hsupplied : frame.eval bundle supplied = pure (.ofOption (name?.map .text)))
    (hcontext : frame.context? context = some ()) (allocated : String) :
    frame.eval bundle (.logicalNameOr supplied context allocated) =
      logicalNameFor allocated name? >>= fun name => pure (.text name) := by
  rw [Frame.eval, hsupplied, pure_bind]
  cases name? with
  | some name => rfl
  | none =>
    rw [hcontext]
    rfl

theorem eval_dependenciesOr {names? : Option (List String)} {supplied : Body} {context : String}
    (hsupplied : frame.eval bundle supplied = pure (.ofOption (names?.map .texts)))
    (hcontext : frame.context? context = some ()) :
    frame.eval bundle (.dependenciesOr supplied context) =
      dependenciesFor names? >>= fun names? => pure (.ofOption (names?.map .texts)) := by
  rw [Frame.eval, hsupplied, pure_bind]
  cases names? with
  | some names => rfl
  | none =>
    simp only [Option.map_none, Datum.ofOption, hcontext, lift_some, pure_bind, dependenciesFor, bind_assoc]
    refine congrArg _ (funext fun t => ?_)
    cases t.dependee <;> rfl

theorem eval_register {context : String} (hcontext : frame.context? context = some ()) (b : Body) :
    frame.eval bundle (.register context b) = frame.eval bundle b >>= enroll bundle := by
  rw [Frame.eval]
  congr
  funext d
  cases d with
  | record type fields =>
    simp only [hcontext, lift_some, pure_bind]
    rfl
  | _ => rfl

theorem mapM_fields {fields : List (String × Body)} {g : String → Datum S}
    (h : ∀ e ∈ fields, frame.eval bundle e.2 = pure (g e.1)) :
    (fields.mapM fun e => do
      let d ← frame.eval bundle e.2
      return (e.1, d)) = (pure (tabulate (fields.map (·.1)) g) : Eval (Fields S)) := by
  rw [tabulate, List.map_map]
  refine mapM_eq_pure fun e he => ?_
  rw [h e he, pure_bind]
  rfl

theorem eval_construct {target : String} {a : Artifact} {fields : List (String × Body)} {g : String → Datum S}
    (htarget : frame.scope target = some a) (h : ∀ e ∈ fields, frame.eval bundle e.2 = pure (g e.1)) :
    frame.eval bundle (.construct target fields) = pure (.record a.id (tabulate (fields.map (·.1)) g)) := by
  rw [Frame.eval, htarget, lift_some, pure_bind, mapM_fields h, pure_bind]

theorem eval_constructBuilder {target : String} {a : Artifact} {fields : List (String × Body)} {g : String → Datum S}
    (htarget : frame.scope target = some a) (h : ∀ e ∈ fields, frame.eval bundle e.2 = pure (g e.1)) :
    frame.eval bundle (.constructBuilder target fields) = pure (.builder a.id (tabulate (fields.map (·.1)) g)) := by
  rw [Frame.eval, htarget, lift_some, pure_bind, mapM_fields h, pure_bind]

end Equations

end Typewright.Evaluation
