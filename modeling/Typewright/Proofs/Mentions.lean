import Typewright.Proofs.WellTyped
import Typewright.Proofs.Written

/-! # What an artifact names and mentions

A body names parameters, struct fields and setters, and mentions types. Where it is well typed all of these are bound,
so every name in the functions of an artifact is one that the bundle declares somewhere (`WrittenName`), and every type
name among its members, parameters and bodies stands for an artifact. -/

namespace Typewright

/-- The type that the type of a parameter mentions. -/
def ParamType.mentioned? : ParamType → Option String
  | .value t | .optional t => t.mentioned?
  | .configure target => some target
  | .logicalName | .optionalLogicalName | .dependencies | .context => none

/-- The names of scalars that no known primitive stands for. -/
def FieldType.otherNames : FieldType → List String
  | .scalar (.other name) | .value (.other name) => [name]
  | .list t | .map t => t.otherNames
  | _ => []

def ParamType.otherNames : ParamType → List String
  | .value t | .optional t => t.otherNames
  | .logicalName | .optionalLogicalName | .dependencies | .configure _ | .context => []

/-- The names in the artifacts of a bundle that are written as identifiers. -/
inductive Bundle.WrittenName (b : Bundle) : String → Prop
  | segment {a : Artifact} {name : String} (ha : a ∈ b.artifacts) (hname : name ∈ a.placement.modulePath) :
    b.WrittenName name
  | data {a : Artifact} (ha : a ∈ b.artifacts) : b.WrittenName a.data.name
  | builder {a : Artifact} (ha : a ∈ b.artifacts) : b.WrittenName a.builder.name
  | member {a : Artifact} {m : Member} (ha : a ∈ b.artifacts) (hm : m ∈ a.data.members) : b.WrittenName m.name
  | accessor {a : Artifact} {acc : Accessor} (ha : a ∈ b.artifacts) (hacc : acc ∈ a.data.accessors) :
    b.WrittenName acc.name
  | callable {a : Artifact} {c : Callable} (ha : a ∈ b.artifacts) (hc : c ∈ a.callables) : b.WrittenName c.name
  | param {a : Artifact} {c : Callable} {p : Param} (ha : a ∈ b.artifacts) (hc : c ∈ a.callables) (hp : p ∈ c.params) :
    b.WrittenName p.name
  | memberScalar {a : Artifact} {m : Member} {name : String} (ha : a ∈ b.artifacts) (hm : m ∈ a.data.members)
      (hname : name ∈ m.type.otherNames) : b.WrittenName name
  | paramScalar {a : Artifact} {c : Callable} {p : Param} {name : String} (ha : a ∈ b.artifacts) (hc : c ∈ a.callables)
      (hp : p ∈ c.params) (hname : name ∈ p.type.otherNames) : b.WrittenName name

/-- The schema names in the types and in the bodies of an artifact. -/
def Artifact.mentions (a : Artifact) : List String :=
  (a.data.members.flatMap fun m => m.type.mentioned?.toList) ++
    (a.callables.flatMap fun c => (c.params.flatMap fun p => p.type.mentioned?.toList) ++ c.body.mentionedTypes) ++
      a.data.accessors.flatMap fun acc => acc.body.mentionedTypes

namespace Source

open Emission Typing

/-! ### Names in bodies -/

mutual

/-- The names in a body that are written as identifiers. -/
def identifiersOf : Body → List String
  | .param name | .held name => [name]
  | .wrap b | .wrapEach b | .wrapValues b | .boxed b | .boxedOptional b | .present b | .invokeBuild b => identifiersOf b
  | .construct _ fields | .constructBuilder _ fields => identifiersInFields fields
  | .newBuilder _ args | .invokeFactory _ args => identifiersInArgs args
  | .applyConfigure name b | .callSetter name b | .assign name b | .register name b => name :: identifiersOf b
  | .logicalNameOr b context _ | .dependenciesOr b context => context :: identifiersOf b
  | .absent | .attributeRef _ => []

def identifiersInFields : List (String × Body) → List String
  | [] => []
  | (name, b) :: rest => name :: identifiersOf b ++ identifiersInFields rest

def identifiersInArgs : List Body → List String
  | [] => []
  | b :: rest => identifiersOf b ++ identifiersInArgs rest

end

mutual

theorem targets_references : ∀ b : Body, (references b).map (·.target) = b.mentionedTypes
  | .param _ | .held _ | .absent | .attributeRef _ => by rw [references, Body.mentionedTypes, List.map_nil]
  | .wrap b | .wrapEach b | .wrapValues b | .boxed b | .boxedOptional b | .present b | .invokeBuild b
  | .applyConfigure _ b | .callSetter _ b | .assign _ b | .register _ b | .logicalNameOr b _ _
  | .dependenciesOr b _ => by
    rw [references, Body.mentionedTypes, targets_references b]
  | .construct _ fields | .constructBuilder _ fields => by
    rw [references, Body.mentionedTypes, List.map_cons, targets_referencesInFields fields]
  | .newBuilder _ args | .invokeFactory _ args => by
    rw [references, Body.mentionedTypes, List.map_cons, targets_referencesInArgs args]

theorem targets_referencesInFields : ∀ fields : List (String × Body),
    (referencesInFields fields).map (·.target) = Body.mentionedInFields fields
  | [] => by rw [referencesInFields, Body.mentionedInFields, List.map_nil]
  | (_, b) :: fields => by
    rw [referencesInFields, Body.mentionedInFields, List.map_append, targets_references b,
      targets_referencesInFields fields]

theorem targets_referencesInArgs : ∀ args : List Body,
    (referencesInArgs args).map (·.target) = Body.mentionedInArgs args
  | [] => by rw [referencesInArgs, Body.mentionedInArgs, List.map_nil]
  | b :: args => by
    rw [referencesInArgs, Body.mentionedInArgs, List.map_append, targets_references b, targets_referencesInArgs args]

end

theorem targets_typeReferences (t : FieldType) : (typeReferences t).map (·.target) = t.mentioned?.toList := by
  rw [typeReferences, List.map_map]
  exact List.map_id _

theorem targets_paramReferences (p : Param) : (paramReferences p).map (·.target) = p.type.mentioned?.toList := by
  obtain ⟨_, type⟩ := p
  cases type with
  | value t | optional t => exact targets_typeReferences t
  | configure target | logicalName | optionalLogicalName | dependencies | context => rfl

/-- What an artifact mentions are the targets of its references. -/
theorem targets_allReferences (a : Artifact) : (allReferences a).map (·.target) = a.mentions := by
  simp only [allReferences, Artifact.mentions, callableReferences, List.map_append, List.map_flatMap,
    targets_typeReferences, targets_paramReferences, targets_references]

/-! ### Names that are bound -/

/-- What a name in a body can be: a parameter, a struct field of the receiver or of a type, or a setter. -/
inductive Bound (c : Context) (name : String) : Prop where
  | param {p : Param} (hp : p ∈ c.params) (hname : p.name = name) : Bound c name
  | field {a : Artifact} (ha : c.receiver = some a ∨ ∃ target, c.scope target = some a)
      (hname : name ∈ (slots c.bundle a).map (·.1)) : Bound c name
  | setter {a : Artifact} {s : Setter} (ha : c.receiver = some a) (hs : s ∈ a.builder.setters)
      (hname : s.callable.name = name) : Bound c name

/-- All names are bound, and all types are in scope. -/
structure Closed (c : Context) (names : List String) (refs : List Reference) : Prop where
  names : ∀ name ∈ names, Bound c name
  targets : ∀ r ∈ refs, (c.scope r.target).isSome = true

namespace Closed
variable {c : Context} {names names' : List String} {refs refs' : List Reference} {name target : String} {a : Artifact}

theorem nil : Closed c [] [] where
  names _ hn := nomatch hn
  targets _ hr := nomatch hr

theorem append (h : Closed c names refs) (h' : Closed c names' refs') : Closed c (names ++ names') (refs ++ refs') where
  names n hn := (List.mem_append.mp hn).elim (h.names n) (h'.names n)
  targets r hr := (List.mem_append.mp hr).elim (h.targets r) (h'.targets r)

theorem cons_name (hname : Bound c name) (h : Closed c names refs) : Closed c (name :: names) refs where
  names _ hn := (List.mem_cons.mp hn).elim (fun heq => heq ▸ hname) (h.names _)
  targets := h.targets

theorem cons_target (ha : c.scope target = some a) (role : Role) (h : Closed c names refs) :
    Closed c names (⟨role, target⟩ :: refs) where
  names := h.names
  targets r hr := (List.mem_cons.mp hr).elim (fun heq => by rw [heq, ha]; rfl) (h.targets r)

end Closed

mutual

/-- A well typed body is closed. -/
theorem closed_of_hasType {c : Context} : ∀ {b : Body} {T : Ty}, HasType c b T →
    Closed c (identifiersOf b) (references b)
  | .param _, _, h => by
    rw [identifiersOf, references]
    cases h with
    | param hp hT => exact .cons_name (.param hp rfl) .nil
  | .held _, _, h => by
    rw [identifiersOf, references]
    cases h with
    | held ha hT => exact .cons_name (.field (Or.inl ha) (List.mem_map_of_mem hT)) .nil
  | .absent, _, _ | .attributeRef _, _, _ => by
    rw [identifiersOf, references]
    exact .nil
  | .wrap b, _, h | .wrapEach b, _, h | .wrapValues b, _, h | .boxed b, _, h | .boxedOptional b, _, h
  | .present b, _, h | .invokeBuild b, _, h => by
    rw [identifiersOf, references]
    cases h
    rename_i hb
    exact closed_of_hasType hb
  | .construct target fields, _, h => by
    rw [identifiersOf, references]
    cases h with
    | construct ha hnames hvalues =>
      exact (closed_fields hvalues fun e he => .field (Or.inr ⟨target, ha⟩)
        (hnames ▸ List.mem_map_of_mem he)).cons_target ha _
  | .constructBuilder target fields, _, h => by
    rw [identifiersOf, references]
    cases h with
    | constructBuilder ha hnames hvalues =>
      exact (closed_fields hvalues fun e he => .field (Or.inr ⟨target, ha⟩)
        (hnames ▸ List.mem_map_of_mem he)).cons_target ha _
  | .newBuilder target args, _, h => by
    rw [identifiersOf, references]
    cases h with
    | newBuilder ha _ hargs => exact (closed_args hargs).cons_target ha _
  | .invokeFactory target args, _, h => by
    rw [identifiersOf, references]
    cases h with
    | invokeFactory ha _ hargs => exact (closed_args hargs).cons_target ha _
  | .applyConfigure _ b, _, h => by
    rw [identifiersOf, references]
    cases h with
    | applyConfigure hp _ hb => exact (closed_of_hasType hb).cons_name (.param hp rfl)
  | .callSetter _ b, _, h => by
    rw [identifiersOf, references]
    cases h with
    | callSetter ha hs _ hb =>
      exact (closed_of_hasType hb).cons_name
        (.setter ha (List.mem_of_find?_eq_some hs) (by simpa using List.find?_some hs))
  | .assign _ b, _, h => by
    rw [identifiersOf, references]
    cases h with
    | assign ha hT hb => exact (closed_of_hasType hb).cons_name (.field (Or.inl ha) (List.mem_map_of_mem hT))
  | .logicalNameOr b _ _, _, h => by
    rw [identifiersOf, references]
    cases h with
    | logicalNameOr hcontext hb => exact (closed_of_hasType hb).cons_name (.param hcontext rfl)
  | .dependenciesOr b _, _, h => by
    rw [identifiersOf, references]
    cases h with
    | dependenciesOr hcontext hb => exact (closed_of_hasType hb).cons_name (.param hcontext rfl)
  | .register _ b, _, h => by
    rw [identifiersOf, references]
    cases h with
    | register hcontext hb => exact (closed_of_hasType hb).cons_name (.param hcontext rfl)

theorem closed_fields {c : Context} : ∀ {fields : List (String × Body)} {Ts : List Ty},
    List.Forall₂ (HasType c) (fields.map (·.2)) Ts → (∀ e ∈ fields, Bound c e.1) →
      Closed c (identifiersInFields fields) (referencesInFields fields)
  | [], _, _, _ => by
    rw [identifiersInFields, referencesInFields]
    exact .nil
  | (_, b) :: fields, _, h, hnames => by
    rw [identifiersInFields, referencesInFields]
    obtain _ | ⟨hb, hfields⟩ := h
    have hrest := closed_fields hfields fun e he => hnames e (List.mem_cons_of_mem _ he)
    exact ((closed_of_hasType hb).append hrest).cons_name (hnames _ List.mem_cons_self)

theorem closed_args {c : Context} : ∀ {args : List Body} {Ts : List Ty}, List.Forall₂ (HasType c) args Ts →
    Closed c (identifiersInArgs args) (referencesInArgs args)
  | [], _, _ => by
    rw [identifiersInArgs, referencesInArgs]
    exact .nil
  | b :: args, _, h => by
    rw [identifiersInArgs, referencesInArgs]
    obtain _ | ⟨hb, hargs⟩ := h
    exact (closed_of_hasType hb).append (closed_args hargs)

end

/-! ### The functions of an artifact -/

section Functions
variable {schema : Schema} {config : Config} {table : MemberTable} {artifacts : Catalogue Artifact} {a b : Artifact}
  {c : Callable} {p : Param} {r : Reference} {name : String}

theorem isSome_denoted?_of_mem (h : Emits schema config table artifacts) (hname : name ∈ schema.names) :
    (denoted? (.ofCatalogue artifacts) name).isSome = true := by
  rw [h.denoted?_source]
  exact h.isSome_find?_of_mem hname

theorem typeName_mem_names (h : Emits schema config table artifacts)
    (ha : a ∈ (Bundle.ofCatalogue artifacts).artifacts) : a.typeName ∈ schema.names := by
  have hsome : (schema.find? a.id).isSome = true := by
    rw [← h.isSome_find?_schema, h.mem_artifacts_iff.mp ha]
    rfl
  exact Catalogue.mem_names_of_isSome hsome

theorem mentioned_of_requiredParams {members : List Typewright.Member} {resource : Bool}
    (hp : p ∈ requiredParams members resource) (hname : p.type.mentioned? = some name) :
    ∃ m ∈ members, m.type.mentioned? = some name := by
  rcases mem_withIdentity.mp hp with ⟨-, rfl | rfl⟩ | hmem
  · cases hname
  · cases hname
  · obtain ⟨m, hm, rfl⟩ := List.mem_map.mp hmem
    exact ⟨m, (List.mem_filter.mp hm).1, hname⟩

theorem mentioned?_unwrapped {t : FieldType} (ht : t.isWrappedScalar = true) : t.unwrapped.mentioned? = none := by
  cases t with
  | value s => rfl
  | list t | map t =>
    cases t with
    | value s => rfl
    | _ => cases ht
  | _ => cases ht

variable (h : Emits schema config table artifacts) (ha : a ∈ (Bundle.ofCatalogue artifacts).artifacts)
include h ha

theorem mentioned_of_member {m : Typewright.Member} (hm : m ∈ a.data.members) (hname : m.type.mentioned? = some name) :
    name ∈ schema.names :=
  (h.resolved_member ha hm).mem_of_mentioned hname

theorem mentioned_of_helper (hp : p ∈ a.helper.params) (hname : p.type.mentioned? = some name) :
    name ∈ schema.names := by
  have hstep : ∀ {step : String}, p = ⟨step, .configure a.typeName⟩ → name ∈ schema.names := by
    rintro step rfl
    cases hname
    exact typeName_mem_names h ha
  have hrequired : p ∈ requiredParams a.data.members false → name ∈ schema.names := by
    intro hp
    obtain ⟨m, hm, hname⟩ := mentioned_of_requiredParams hp hname
    exact mentioned_of_member h ha hm hname
  rw [(h.generated ha).helper] at hp
  split at hp
  · simp only [resourceHelper, List.cons_append, List.mem_cons, List.mem_append, List.not_mem_nil, or_false] at hp
    rcases hp with rfl | (hp | rfl | rfl) | hp
    · cases hname
    · exact hrequired hp
    · cases hname
    · cases hname
    · exact hstep hp
  · rw [propertyHelper] at hp
    rcases List.mem_append.mp hp with hp | hp
    · exact hrequired hp
    · exact hstep (List.mem_singleton.mp hp)

theorem mentioned_of_setter {s : Setter} (hs : s ∈ a.builder.setters) (hp : p ∈ s.callable.params)
    (hname : p.type.mentioned? = some name) : name ∈ schema.names := by
  obtain ⟨m, hm, hsm⟩ := h.exists_member_of_setter ha hs
  rcases mem_settersOf hsm with ⟨hwrapped, rfl⟩ | ⟨_, rfl⟩ | ⟨target, members, htarget, hmembers, rfl, -⟩
  · -- Raw values are scalars or collections of scalars.
    obtain rfl := List.mem_singleton.mp hp
    have hnone : m.type.unwrapped.mentioned? = some name := hname
    rw [mentioned?_unwrapped hwrapped] at hnone
    cases hnone
  · obtain rfl := List.mem_singleton.mp hp
    exact mentioned_of_member h ha hm hname
  · obtain ⟨b, hb, -, hid, rfl, -⟩ := h.find?_of_properties hmembers
    rcases List.mem_append.mp hp with hp | hp
    · rw [← requiredParams_false] at hp
      obtain ⟨m', hm', hname⟩ := mentioned_of_requiredParams hp hname
      exact mentioned_of_member h hb hm' hname
    · obtain rfl := List.mem_singleton.mp hp
      cases hname
      have htypeName : b.typeName = name := congrArg TypeId.name hid
      exact htypeName ▸ typeName_mem_names h hb

/-- The types that parameters mention are declared. -/
theorem mentioned_of_param (hc : c ∈ a.callables) (hp : p ∈ c.params) (hname : p.type.mentioned? = some name) :
    name ∈ schema.names := by
  have hgen := h.generated ha
  have hrequired : p ∈ requiredParams a.data.members a.isResource → name ∈ schema.names := by
    intro hp
    obtain ⟨m, hm, hname⟩ := mentioned_of_requiredParams hp hname
    exact mentioned_of_member h ha hm hname
  rcases List.mem_append.mp hc with hc | hc
  · simp only [List.mem_cons, List.not_mem_nil, or_false] at hc
    rcases hc with rfl | rfl | rfl | rfl | rfl
    · rcases (mem_constructorParams_iff h ha).mp hp with ⟨-, rfl | rfl⟩ | ⟨m, hm, rfl⟩
      · cases hname
      · cases hname
      · refine mentioned_of_member h ha hm ?_
        cases hrequired : m.required <;> simpa [hrequired, ParamType.mentioned?] using hname
    · exact hrequired (by rwa [hgen.factory] at hp)
    · exact hrequired (by rwa [hgen.builderConstructor] at hp)
    · rw [hgen.build] at hp
      cases hp
    · exact mentioned_of_helper h ha hp hname
  · obtain ⟨s, hs, rfl⟩ := List.mem_map.mp hc
    exact mentioned_of_setter h ha hs hp hname

/-- Every function of an artifact is well typed somewhere. -/
theorem exists_typed (hc : c ∈ a.callables) : ∃ scope receiver T,
    (scope = (Bundle.ofCatalogue artifacts).ownScope a ∨ scope = denoted? (.ofCatalogue artifacts)) ∧
      (receiver = none ∨ receiver = some a) ∧ FunctionTyped (.ofCatalogue artifacts) scope receiver c T := by
  have htyped := wellTyped_of_own h ha (Bundle.ownScope_self (.ofCatalogue artifacts) a)
  rcases List.mem_append.mp hc with hc | hc
  · simp only [List.mem_cons, List.not_mem_nil, or_false] at hc
    rcases hc with rfl | rfl | rfl | rfl | rfl
    · exact ⟨_, _, _, Or.inl rfl, Or.inl rfl, htyped.constructor⟩
    · exact ⟨_, _, _, Or.inl rfl, Or.inl rfl, htyped.factory⟩
    · exact ⟨_, _, _, Or.inl rfl, Or.inl rfl, htyped.builderConstructor⟩
    · exact ⟨_, _, _, Or.inl rfl, Or.inr rfl, htyped.build⟩
    · exact ⟨_, _, _, Or.inl rfl, Or.inl rfl, htyped.helper⟩
  · obtain ⟨s, hs, rfl⟩ := List.mem_map.mp hc
    exact ⟨_, _, _, Or.inr rfl, Or.inr rfl, htyped.setters s hs⟩

/-- What is in scope in a function is an artifact of that name. -/
theorem mem_of_scope {scope : String → Option Artifact}
    (hscope : scope = (Bundle.ofCatalogue artifacts).ownScope a ∨ scope = denoted? (.ofCatalogue artifacts))
    (hb : scope name = some b) : b ∈ (Bundle.ofCatalogue artifacts).artifacts ∧ b.typeName = name := by
  have hfound : (Bundle.ofCatalogue artifacts).find? name = some b →
      b ∈ (Bundle.ofCatalogue artifacts).artifacts ∧ b.typeName = name := fun hfind =>
    ⟨List.mem_of_find?_eq_some hfind, by simpa using List.find?_some hfind⟩
  rcases hscope with rfl | rfl
  · rw [Bundle.ownScope] at hb
    split at hb
    · rename_i hname
      cases hb
      exact ⟨ha, hname.symm⟩
    · exact hfound hb
  · rw [h.denoted?_source] at hb
    exact hfound hb

/-- The types that bodies mention are declared. -/
theorem mentioned_of_body (hc : c ∈ a.callables) (hr : r ∈ references c.body) : r.target ∈ schema.names := by
  obtain ⟨scope, receiver, T, hscope, -, htyped⟩ := exists_typed h ha hc
  obtain ⟨b, hb⟩ := Option.isSome_iff_exists.mp ((closed_of_hasType htyped.body).targets r hr)
  obtain ⟨hmem, hname⟩ := mem_of_scope h ha hscope hb
  exact hname ▸ typeName_mem_names h hmem

/-- Every type that an artifact mentions is declared. -/
theorem mem_names_of_mem_mentions (hname : name ∈ a.mentions) : name ∈ schema.names := by
  rcases List.mem_append.mp hname with hname | hname
  · rcases List.mem_append.mp hname with hname | hname
    · obtain ⟨m, hm, hname⟩ := List.mem_flatMap.mp hname
      exact mentioned_of_member h ha hm (Option.mem_toList.mp hname)
    · obtain ⟨c, hc, hname⟩ := List.mem_flatMap.mp hname
      rcases List.mem_append.mp hname with hname | hname
      · obtain ⟨p, hp, hname⟩ := List.mem_flatMap.mp hname
        exact mentioned_of_param h ha hc hp (Option.mem_toList.mp hname)
      · rw [← targets_references] at hname
        obtain ⟨r, hr, rfl⟩ := List.mem_map.mp hname
        exact mentioned_of_body h ha hc hr
  · obtain ⟨acc, hacc, hname⟩ := List.mem_flatMap.mp hname
    rw [((h.generated ha).accessors acc hacc).2, Body.mentionedTypes] at hname
    cases hname

/-- The names in bodies are among those that are declared. -/
theorem writtenName_of_body (hc : c ∈ a.callables) (hname : name ∈ identifiersOf c.body) :
    (Bundle.ofCatalogue artifacts).WrittenName name := by
  obtain ⟨scope, receiver, T, hscope, hreceiver, htyped⟩ := exists_typed h ha hc
  cases (closed_of_hasType htyped.body).names name hname with
  | param hp hname => exact hname ▸ .param ha hc hp
  | @field b hb hname =>
    have hmem : b ∈ (Bundle.ofCatalogue artifacts).artifacts := by
      rcases hb with hb | ⟨target, hb⟩
      · rcases hreceiver with rfl | rfl
        · cases hb
        · cases hb
          exact ha
      · exact (mem_of_scope h ha hscope hb).1
    -- Every struct field is a parameter of the constructor.
    rw [names_slots, ← (h.generated hmem).names_constructorParams] at hname
    obtain ⟨p, hp, rfl⟩ := List.mem_map.mp hname
    exact .param hmem List.mem_cons_self hp
  | @setter b s hb hs hname =>
    rcases hreceiver with rfl | rfl
    · cases hb
    · cases hb
      exact hname ▸ .callable ha (List.mem_append_right _ (List.mem_map_of_mem hs))

end Functions

end Source

end Typewright
