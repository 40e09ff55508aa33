import Typewright.Proofs.References
import Typewright.Source.Declarations

/-! # The types of generated code

A body has a type in a context: what type names stand for, the parameters of the function and, if it is a method, the
artifact it is a method of. A construction must list the struct fields of its target one by one, a call must pass one
value for each parameter. Types of members are always those that the bundle knows under their names. -/

namespace Typewright.Typing

inductive Ty where
  | scalar (s : Scalar)
  /-- A scalar in the value envelope. -/
  | value (s : Scalar)
  | list (item : Ty)
  | map (item : Ty)
  | data (id : TypeId)
  | builder (id : TypeId)
  | box (item : Ty)
  | option (item : Ty)
  /-- Names of resources, if there are any. -/
  | dependencies
  /-- What registering gives: the resource, or an error. -/
  | result (id : TypeId)
  /-- The type of a name that stands for nothing. -/
  | unknown (name : String)
  deriving DecidableEq

namespace Ty

def text : Ty := .scalar .string

/-- The type of the values of a field. -/
def ofField (bundle : Bundle) : FieldType → Ty
  | .scalar s => .scalar s
  | .value s => .value s
  | .list t => .list (ofField bundle t)
  | .map t => .map (ofField bundle t)
  | .named name =>
    match bundle.denoted? name with
    | some id => .data id
    | none => .unknown name

/-- What a member holds if it has a value. -/
def held (bundle : Bundle) (m : Member) : Ty :=
  if m.boxed then .box (ofField bundle m.type) else ofField bundle m.type

/-- The type of the struct field of a member. -/
def ofMember (bundle : Bundle) (m : Member) : Ty := if m.required then held bundle m else .option (held bundle m)

/-- The type of the values of a parameter. Steps and the context are no values. -/
def ofParam? (bundle : Bundle) : ParamType → Option Ty
  | .value t => some (ofField bundle t)
  | .optional t => some (.option (ofField bundle t))
  | .logicalName => some text
  | .optionalLogicalName => some (.option text)
  | .dependencies => some .dependencies
  | .configure _ | .context => none

end Ty

/-- The struct fields of an artifact with their types. -/
def slots (bundle : Bundle) (a : Artifact) : List (String × Ty) :=
  Emission.withIdentity a.isResource (Emission.logicalName, .text)
    (a.data.members.map fun m => (m.name, .ofMember bundle m)) (Emission.dependsOn, .dependencies)

/-- Where a body stands. -/
structure Context where
  bundle : Bundle
  /-- The artifacts that type names stand for. -/
  scope : String → Option Artifact
  receiver : Option Artifact
  params : List Param

inductive HasType (c : Context) : Body → Ty → Prop
  | param {name : String} {p : ParamType} {T : Ty} (hp : ⟨name, p⟩ ∈ c.params) (hT : Ty.ofParam? c.bundle p = some T) :
    HasType c (.param name) T
  | held {name : String} {a : Artifact} {T : Ty} (ha : c.receiver = some a) (hT : (name, T) ∈ slots c.bundle a) :
    HasType c (.held name) T
  | wrap {b : Body} {s : Scalar} (hb : HasType c b (.scalar s)) : HasType c (.wrap b) (.value s)
  | wrapEach {b : Body} {s : Scalar} (hb : HasType c b (.list (.scalar s))) : HasType c (.wrapEach b) (.list (.value s))
  | wrapValues {b : Body} {s : Scalar} (hb : HasType c b (.map (.scalar s))) :
    HasType c (.wrapValues b) (.map (.value s))
  | boxed {b : Body} {T : Ty} (hb : HasType c b T) : HasType c (.boxed b) (.box T)
  | boxedOptional {b : Body} {T : Ty} (hb : HasType c b (.option T)) : HasType c (.boxedOptional b) (.option (.box T))
  | present {b : Body} {T : Ty} (hb : HasType c b T) : HasType c (.present b) (.option T)
  | absent {T : Ty} : HasType c .absent (.option T)
  | construct {target : String} {a : Artifact} {fields : List (String × Body)} (ha : c.scope target = some a)
      (hnames : fields.map (·.1) = (slots c.bundle a).map (·.1))
      (hvalues : List.Forall₂ (HasType c) (fields.map (·.2)) ((slots c.bundle a).map (·.2))) :
    HasType c (.construct target fields) (.data a.id)
  | constructBuilder {target : String} {a : Artifact} {fields : List (String × Body)} (ha : c.scope target = some a)
      (hnames : fields.map (·.1) = (slots c.bundle a).map (·.1))
      (hvalues : List.Forall₂ (HasType c) (fields.map (·.2)) ((slots c.bundle a).map (·.2))) :
    HasType c (.constructBuilder target fields) (.builder a.id)
  | newBuilder {target : String} {a : Artifact} {args : List Body} {Ts : List Ty} (ha : c.scope target = some a)
      (hTs : a.builder.constructor.params.map (fun p => Ty.ofParam? c.bundle p.type) = Ts.map some)
      (hargs : List.Forall₂ (HasType c) args Ts) :
    HasType c (.newBuilder target args) (.builder a.id)
  | invokeFactory {target : String} {a : Artifact} {args : List Body} {Ts : List Ty} (ha : c.scope target = some a)
      (hTs : a.factory.params.map (fun p => Ty.ofParam? c.bundle p.type) = Ts.map some)
      (hargs : List.Forall₂ (HasType c) args Ts) :
    HasType c (.invokeFactory target args) (.builder a.id)
  | applyConfigure {step target : String} {a : Artifact} {b : Body} (hp : ⟨step, .configure target⟩ ∈ c.params)
      (ha : c.scope target = some a) (hb : HasType c b (.builder a.id)) :
    HasType c (.applyConfigure step b) (.builder a.id)
  | invokeBuild {b : Body} {id : TypeId} (hb : HasType c b (.builder id)) : HasType c (.invokeBuild b) (.data id)
  /-- A setter that takes one value. -/
  | callSetter {setter name : String} {a : Artifact} {s : Setter} {t : FieldType} {b : Body}
      (ha : c.receiver = some a) (hs : a.setter? setter = some s) (hparams : s.callable.params = [⟨name, .value t⟩])
      (hb : HasType c b (.ofField c.bundle t)) :
    HasType c (.callSetter setter b) (.builder a.id)
  | assign {member : String} {a : Artifact} {T : Ty} {b : Body} (ha : c.receiver = some a)
      (hT : (member, T) ∈ slots c.bundle a) (hb : HasType c b T) : HasType c (.assign member b) (.builder a.id)
  | logicalNameOr {context allocated : String} {b : Body} (hcontext : ⟨context, .context⟩ ∈ c.params)
      (hb : HasType c b (.option .text)) : HasType c (.logicalNameOr b context allocated) .text
  | dependenciesOr {context : String} {b : Body} (hcontext : ⟨context, .context⟩ ∈ c.params)
      (hb : HasType c b .dependencies) : HasType c (.dependenciesOr b context) .dependencies
  /-- Only resources can be registered. -/
  | register {context name : String} {b : Body} (hcontext : ⟨context, .context⟩ ∈ c.params)
      (hb : HasType c b (.data ⟨.resource, name⟩)) : HasType c (.register context b) (.result ⟨.resource, name⟩)
  | attributeRef {name : String} {a : Artifact} (ha : c.receiver = some a)
      (hname : (Emission.logicalName, .text) ∈ slots c.bundle a) : HasType c (.attributeRef name) (.value .string)

/-- The parameters of a function have distinct names, and its body is of the type that the function gives. -/
structure FunctionTyped (bundle : Bundle) (scope : String → Option Artifact) (receiver : Option Artifact) (f : Callable)
    (T : Ty) : Prop where
  nodup : f.paramNames.Nodup
  body : HasType ⟨bundle, scope, receiver, f.params⟩ f.body T

/-- All functions of an artifact are well typed, where `own` says what type names stand for in the functions that only
    mention the artifact itself. In setters, names stand for what they are when written down. -/
structure WellTyped (bundle : Bundle) (own : String → Option Artifact) (a : Artifact) : Prop where
  nodup : ((slots bundle a).map (·.1)).Nodup
  known : ∀ m ∈ a.data.members, ∀ name, m.type.mentioned? = some name → (bundle.denoted? name).isSome = true
  constructor : FunctionTyped bundle own none a.data.constructor (.data a.id)
  accessors : ∀ acc ∈ a.data.accessors, HasType ⟨bundle, own, some a, []⟩ acc.body (.value .string)
  builderConstructor : FunctionTyped bundle own none a.builder.constructor (.builder a.id)
  setters : ∀ s ∈ a.builder.setters,
    FunctionTyped bundle (Source.denoted? bundle) (some a) s.callable (.builder a.id)
  build : FunctionTyped bundle own (some a) a.builder.build (.data a.id)
  factory : FunctionTyped bundle own none a.factory (.builder a.id)
  helper : FunctionTyped bundle own none a.helper (if a.isResource then .result a.id else .data a.id)

end Typewright.Typing
