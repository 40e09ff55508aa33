import Typewright.Proofs.Allocation
import Typewright.Proofs.RoundTrip
import Typewright.Proofs.Stages
import Typewright.Proofs.WellTyped

/-! # What helpers of resources do

The helper of a resource type asks the template for a logical name unless it is given one, makes a record by the
factory, the configuration step and the build method, and registers it. A name that the template gives out is one that
it then takes: it is not empty, because the class has a name, and no resource has it yet. So only a name that the caller
supplies can be refused, and then the template stays as it is. -/

namespace Typewright

/-! ### Names of classes -/

/-- A type that has been validated has a class with a name. -/
theorem className_ne_empty {schema : Schema} (hvalid : schema.validate = .ok ()) {t : TypeId × TypeSpec}
    (ht : t ∈ schema.toList) (config : Config) : (Placement.ofType t.1 config).className ≠ "" := by
  have hname : "" ∉ TypeName.segments t.1.name := fun hmem =>
    Schema.validate_eq_ok_iff.mp hvalid t ht _ (.name hmem)
  have hlast := List.getLast?_eq_some_getLast (TypeName.segments_ne_nil t.1.name)
  rw [Placement.ofType, hlast, Option.getD_some]
  exact fun hempty => hname (hempty ▸ List.getLast_mem _)

theorem Emission.Emits.isResource_of_mem_resources {schema : Schema} {config : Config} {table : MemberTable}
    {artifacts : Catalogue Artifact} {a : Artifact} (h : Emits schema config table artifacts)
    (ha : a ∈ (Bundle.ofCatalogue artifacts).resources) : a.isResource = true := by
  obtain ⟨name, hname⟩ := SortedMap.mem_values_iff.mp ha
  have hkind : a.kind = .resource := congrArg TypeId.kind (h.id_of_resources hname)
  rw [Artifact.isResource, hkind]
  rfl

/-! ### What a template takes -/

namespace Template
variable {t : Template} {r : Resource}

theorem InStep.register_of_free (h : InStep t) (hname : r.logicalName ≠ "")
    (hfree : t.contains r.logicalName = false) :
    t.register r = .ok (t.enter r).2 ∧ (t.enter r).2.resources = t.resources ++ [r] := by
  rcases enter_cases t r with ⟨hempty, -⟩ | ⟨-, holder, hholder, hsame, -⟩ | ⟨-, -, henter⟩
  · exact absurd hempty hname
  · rw [(h.contains_iff _).mpr ⟨holder, hholder, hsame⟩] at hfree
    cases hfree
  · rw [register, henter]
    exact ⟨rfl, rfl⟩

theorem InStep.register_of_not_free (h : InStep t)
    (hnot : ¬ (r.logicalName ≠ "" ∧ t.contains r.logicalName = false)) : ∃ cause, t.register r = .error cause := by
  rcases enter_cases t r with ⟨-, henter⟩ | ⟨-, holder, -, -, henter⟩ | ⟨hname, hnew, -⟩
  · exact ⟨_, by rw [register, henter]⟩
  · exact ⟨_, by rw [register, henter]⟩
  · refine absurd ⟨hname, Bool.eq_false_iff.mpr fun htaken => ?_⟩ hnot
    obtain ⟨holder, hholder, hsame⟩ := (h.contains_iff _).mp htaken
    exact hnew holder hholder hsame

/-- A name that is given out is that of the type, or that with a positive number behind it. -/
theorem eq_or_numbered_of_allocate (t : Template) (typeName : String) :
    (t.allocate typeName).1 = typeName ∨ Numbered typeName (t.allocate typeName).1 := by
  by_cases hone : t.nextNumber typeName = 1
  · exact Or.inl (if_pos hone)
  · exact Or.inr ⟨_, Nat.one_le_of_lt (t.counter_lt_nextNumber typeName), candidate_of_ne_one hone⟩

theorem allocate_ne_empty {typeName : String} (hname : typeName ≠ "") (t : Template) :
    (t.allocate typeName).1 ≠ "" := by
  rcases t.eq_or_numbered_of_allocate typeName with heq | ⟨k, -, heq⟩
  · rwa [heq]
  · rw [heq]
    exact fun hempty => hname (String.append_eq_empty_iff.mp hempty).1

/-- A template that a run over the empty one leaves behind. -/
def Reachable (t : Template) : Prop := ∃ calls, t = (empty.run calls).2

theorem Reachable.inStep (h : Reachable t) : InStep t := by
  obtain ⟨calls, rfl⟩ := h
  exact inStep_empty.run calls

end Template

namespace Evaluation

variable {S : Type}

open Emission Typing

/-! ### Calls -/

/-- What the helper of a resource is called with, beside the template. -/
structure HelperCall (S : Type) where
  required : List (Datum S)
  name? : Option String
  dependencies? : Option (List String)
  step : Step S

namespace HelperCall

/-- In the order of the parameters. -/
def args (c : HelperCall S) : List (Argument S) :=
  .context :: c.required.map .datum ++
    [.datum (.ofOption (c.name?.map .text)), .datum (.ofOption (c.dependencies?.map .texts))] ++ [.step c.step]

/-- The resource that is to be registered under `name`, as the template sees it. -/
def resource (c : HelperCall S) (a : Artifact) (t : Template) (name : String) : Resource :=
  ⟨name, a.typeName, c.dependencies?.or t.dependee⟩

/-- What the template is asked for where `r` is registered in the end. -/
def asks (c : HelperCall S) (a : Artifact) (r : Resource) : List Template.Call :=
  match c.name? with
  | some _ => [.register r]
  | none => [.allocate a.placement.className, .register r]

end HelperCall

/-- A step that calls setters of `a` one after the other. -/
def Step.Performs (f : Step S) (bundle : Bundle) (a : Artifact) (calls : List (SetterCall S)) : Prop :=
  ∀ fields : Fields S, fields.map (·.1) = a.fieldNames →
    calls.foldlM (fun b c => set bundle c.name c.args b) (.builder a.id fields) =
      pure (.builder a.id (f.apply fields))

/-- A step that writes `writes` to the members of `a`, whatever they hold before. -/
def Step.Writes (f : Step S) (a : Artifact) (writes : List (String × Datum S)) : Prop :=
  ∀ g : String → Datum S, f.apply (tabulate a.fieldNames g) = tabulate a.fieldNames (writes.foldl (afterWrite a) g)

/-- What a member that was given `d` holds when setters have written `writes`. -/
def held (m : Member) (writes : List (String × Datum S)) (d : Datum S) : Datum S :=
  match lastWritten? writes m.name with
  | some w => keep m w
  | none => d

/-- What the record holds that a helper of `a` has made for the resource `r`. -/
structure Filled (bundle : Bundle) (a : Artifact) (c : HelperCall S) (writes : List (String × Datum S)) (r : Resource)
    (fields : Fields S) : Prop where
  names : fields.map (·.1) = a.fieldNames
  resource : resource? bundle a.id fields = some r
  required : List.Forall₂ (fun m d => fields.lookup m.name = some (held m writes d)) a.data.requiredMembers c.required
  optional : ∀ m ∈ a.data.members, m.required = false → fields.lookup m.name = some (held m writes .absent)

/-- A call of the helper of `a` registers one more resource, under `name`, and returns it. -/
structure Registers (bundle : Bundle) (a : Artifact) (c : HelperCall S) (writes : List (String × Datum S))
    (t : Template) (name : String) (fields : Fields S) (t' : Template) : Prop where
  returns : (help bundle a c.args).run t = some (.record a.id fields, t')
  filled : Filled bundle a c writes (c.resource a t name) fields
  asked : t' = (t.run (c.asks a (c.resource a t name))).2
  listed : t'.resources = t.resources ++ [c.resource a t name]

/-! ### Runs of computations -/

section Running
variable {α β : Type} {t t₁ : Template}

theorem run_bind_of {x : Eval α} {f : α → Eval β} {y : α} (h : x.run t = some (y, t₁)) :
    (x >>= f).run t = (f y).run t₁ := by
  rw [StateT.run_bind, h]
  rfl

theorem pure_inj {x y : α} (h : (pure x : Eval α) = pure y) : x = y := by
  have hrun : some (x, Template.empty) = some (y, Template.empty) := congrFun h Template.empty
  cases hrun
  rfl

theorem run_dependenciesFor (names? : Option (List String)) (t : Template) :
    (dependenciesFor names?).run t = some (names?.or t.dependee, t) := by
  cases names? <;> rfl

theorem run_enroll {bundle : Bundle} {type : TypeId} {fields : Fields S} {r : Resource}
    (h : resource? bundle type fields = some r) (t : Template) : (enroll bundle (.record type fields)).run t =
      match t.register r with
      | .ok t' => some (.record type fields, t')
      | .error cause => some (.refused cause, t) := by
  rw [enroll, h, lift_some, pure_bind, run_bind_of rfl]
  cases t.register r <;> rfl

end Running

/-! ### Configuration steps -/

section Steps
variable {schema : Schema} {config : Config} {table : MemberTable} {artifacts : Catalogue Artifact} {a : Artifact}
  {calls : List (SetterCall S)}

variable (h : Emits schema config table artifacts) (ha : a ∈ (Bundle.ofCatalogue artifacts).artifacts)
include h ha

/-- Calls that fit write values, and any step that makes these calls writes the same. -/
theorem exists_writes (hcalls : ∀ c ∈ calls, c.FitsIn (.ofCatalogue artifacts) a) :
    ∃ writes, calls.mapM (written (.ofCatalogue artifacts) a) = pure writes ∧
      ∀ f : Step S, f.Performs (.ofCatalogue artifacts) a calls → f.Writes a writes := by
  obtain ⟨writes, hwrites⟩ := exists_mapM_eq_pure fun c hc => exists_written h ha (hcalls c hc)
  refine ⟨writes, hwrites, fun f hf g => ?_⟩
  have hset := foldlM_set h ha calls g
  rw [hwrites, pure_bind, hf _ (names_tabulate _ _)] at hset
  exact (Datum.builder.inj (pure_inj hset)).2

theorem exists_performs (hcalls : ∀ c ∈ calls, c.FitsIn (.ofCatalogue artifacts) a) :
    ∃ f : Step S, f.Performs (.ofCatalogue artifacts) a calls := by
  obtain ⟨writes, hwrites, -⟩ := exists_writes h ha hcalls
  refine ⟨⟨fun fields => tabulate (fields.map (·.1))
    (writes.foldl (afterWrite a) fun n => (fields.lookup n).getD .absent), fun _ => names_tabulate _ _⟩, ?_⟩
  intro fields hfields
  have hnodup : (fields.map (·.1)).Nodup := hfields ▸ nodup_fieldNames h ha
  have htabulate := tabulate_lookup hnodup .absent
  rw [hfields] at htabulate
  have hset := foldlM_set h ha calls fun n => (fields.lookup n).getD .absent
  rw [htabulate, hwrites, pure_bind] at hset
  rw [hset]
  dsimp only
  rw [hfields]

end Steps

/-! ### The helper -/

section Helper
variable {schema : Schema} {config : Config} {table : MemberTable} {artifacts : Catalogue Artifact} {a : Artifact}
  {c : HelperCall S} {writes : List (String × Datum S)}

/-- The parameters of the required members, each beside its value. -/
def requiredPairs (a : Artifact) (c : HelperCall S) : List (Param × Argument S) :=
  (requiredParams a.data.members false).zip (c.required.map .datum)

/-- All parameters of the helper of `a`, each beside what it is given. -/
def helperPairs (a : Artifact) (c : HelperCall S) : List (Param × Argument S) :=
  (⟨contextName (requiredParams a.data.members false), .context⟩, .context) :: requiredPairs a c ++
    [(⟨logicalName, .optionalLogicalName⟩, .datum (.ofOption (c.name?.map .text))),
      (⟨dependsOn, .dependencies⟩, .datum (.ofOption (c.dependencies?.map .texts)))] ++
    [(⟨configureName (registeredParams a), .configure a.typeName⟩, .step c.step)]

/-- What the helper passes to the factory. -/
def HelperCall.factoryArgs (c : HelperCall S) (name : String) (dependencies? : Option (List String)) :
    List (Argument S) :=
  .datum (.text name) :: c.required.map .datum ++ [.datum (.ofOption (dependencies?.map .texts))]

def factoryPairs (a : Artifact) (c : HelperCall S) (name : String) (dependencies? : Option (List String)) :
    List (Param × Argument S) :=
  (⟨logicalName, .logicalName⟩, .datum (.text name)) :: requiredPairs a c ++
    [(⟨dependsOn, .dependencies⟩, .datum (.ofOption (dependencies?.map .texts)))]

/-- The record that a helper makes under `name`: by the factory, the step and the build method. -/
def made (bundle : Bundle) (a : Artifact) (c : HelperCall S) (name : String) (dependencies? : Option (List String)) :
    Eval (Datum S) := do
  let started ← create bundle a (c.factoryArgs name dependencies?)
  let configured ← configure c.step started
  build bundle configured

/-- What the names in the body of the helper of `a` mean when it is called with `c`. -/
structure Given (a : Artifact) (c : HelperCall S) (frame : Frame S) : Prop where
  context : frame.context? (contextName (requiredParams a.data.members false)) = some ()
  required : List.Forall₂ (fun p d => frame.datum? p.name = some d) (requiredParams a.data.members false) c.required
  name : frame.datum? logicalName = some (.ofOption (c.name?.map .text))
  dependencies : frame.datum? dependsOn = some (.ofOption (c.dependencies?.map .texts))
  step : frame.step? (configureName (registeredParams a)) = some c.step

theorem suits_of_mem_requiredPairs {e : Param × Argument S} (he : e ∈ requiredPairs a c) :
    e.2.suits e.1.type = true := by
  obtain ⟨hp, hx⟩ := List.of_mem_zip (a := e.1) (b := e.2) he
  obtain ⟨d, -, hd⟩ := List.mem_map.mp hx
  rw [← hd]
  exact suits_datum (takesDatum_of_mem_requiredParams hp) d

theorem suits_of_mem_helperPairs (a : Artifact) (c : HelperCall S) :
    ∀ e ∈ helperPairs a c, e.2.suits e.1.type = true := by
  simp only [helperPairs, List.mem_append, List.mem_cons, List.not_mem_nil, or_false]
  rintro e (((rfl | he) | rfl | rfl) | rfl)
  · rfl
  · exact suits_of_mem_requiredPairs he
  all_goals rfl

theorem suits_of_mem_factoryPairs (a : Artifact) (c : HelperCall S) (name : String)
    (dependencies? : Option (List String)) :
    ∀ e ∈ factoryPairs a c name dependencies?, e.2.suits e.1.type = true := by
  simp only [factoryPairs, List.mem_append, List.mem_cons, List.not_mem_nil, or_false]
  rintro e ((rfl | he) | rfl)
  · rfl
  · exact suits_of_mem_requiredPairs he
  · rfl

section Values
variable (hnames : NamesDistinct a) (v : String → Datum S)
include hnames

/-- The identity is what the factory was given. -/
theorem lookup_identity (hres : a.isResource = true) {n : String} (hn : n = logicalName ∨ n = dependsOn) :
    (tabulate a.fieldNames (writes.foldl (afterWrite a) (initial a v))).lookup n = some (v n) := by
  have hnone := hnames.member?_identity hres hn
  have hmem : n ∈ a.fieldNames := mem_withIdentity.mpr (Or.inl ⟨hres, hn⟩)
  rw [lookup_tabulate hmem, foldl_afterWrite_of_none _ hnone, initial, hnone]

/-- A member is what was written last, or else what the factory was given, or else not there. -/
theorem lookup_member {m : Member} (hm : m ∈ a.data.members) :
    (tabulate a.fieldNames (writes.foldl (afterWrite a) (initial a v))).lookup m.name =
      some (held m writes (if m.required then v m.name else .absent)) := by
  have hmem : m.name ∈ a.fieldNames := mem_withIdentity.mpr (Or.inr (List.mem_map_of_mem hm))
  rw [lookup_tabulate hmem, foldl_afterWrite hnames _ hm, initial, hnames.member?_of_mem hm]
  rfl

end Values

section Passing
variable (hlength : c.required.length = a.data.requiredMembers.length)
include hlength

theorem forall₂_requiredMembers {R : Member → Datum S → Prop}
    (h : ∀ m ∈ a.data.requiredMembers, ∀ d, (valueParam m, .datum d) ∈ requiredPairs a c → R m d) :
    List.Forall₂ R a.data.requiredMembers c.required := by
  refine List.forall₂_iff_zip.mpr ⟨hlength.symm, fun {m d} hmem => h m (List.of_mem_zip hmem).1 d ?_⟩
  rw [requiredPairs, requiredParams_false, List.zip_map]
  exact List.mem_map_of_mem (f := Prod.map valueParam Argument.datum) hmem

theorem map_requiredPairs : (requiredPairs a c).map (·.1) = requiredParams a.data.members false ∧
    (requiredPairs a c).map (·.2) = c.required.map .datum := by
  have hlength' : (requiredParams a.data.members false).length = (c.required.map Argument.datum).length := by
    rw [requiredParams_false, List.length_map, List.length_map, hlength]
    rfl
  exact ⟨List.map_fst_zip (Nat.le_of_eq hlength'), List.map_snd_zip (Nat.le_of_eq hlength'.symm)⟩

variable (hgenerated : Generated config table a) (hres : a.isResource = true)
include hgenerated hres

theorem map_helperPairs :
    (helperPairs a c).map (·.1) = a.helper.params ∧ (helperPairs a c).map (·.2) = c.args := by
  obtain ⟨hparams, hargs⟩ := map_requiredPairs hlength
  constructor
  · rw [(helper_of_isResource hgenerated hres).1, helperPairs, List.map_append, List.map_append, List.map_cons, hparams]
    rfl
  · rw [HelperCall.args, helperPairs, List.map_append, List.map_append, List.map_cons, hargs]
    rfl

theorem map_factoryPairs (name : String) (dependencies? : Option (List String)) :
    (factoryPairs a c name dependencies?).map (·.1) = a.factory.params ∧
      (factoryPairs a c name dependencies?).map (·.2) = c.factoryArgs name dependencies? := by
  obtain ⟨hparams, hargs⟩ := map_requiredPairs hlength
  constructor
  · rw [params_factory_of_isResource hgenerated hres, factoryPairs, List.map_append, List.map_cons, hparams]
    rfl
  · rw [HelperCall.factoryArgs, factoryPairs, List.map_append, List.map_cons, hargs]
    rfl

end Passing

variable (h : Emits schema config table artifacts) (ha : a ∈ (Bundle.ofCatalogue artifacts).artifacts)
  (hres : a.isResource = true) (hlength : c.required.length = a.data.requiredMembers.length)
include h ha hres hlength

/-- A call with as many values as there are required members gives every parameter what is meant for it. -/
theorem exists_given :
    ∃ bound, bind? a.helper.params c.args = some bound ∧ ∀ scope, Given a c ⟨scope, none, bound⟩ := by
  obtain ⟨hparams, hargs⟩ := map_helperPairs hlength (h.generated ha) hres
  have hbound := bind?_pairs (suits_of_mem_helperPairs a c)
  rw [hparams, hargs] at hbound
  have hlookup : ∀ p x, (p, x) ∈ helperPairs a c →
      ((helperPairs a c).map fun e => (e.1.name, e.2)).lookup p.name = some x := fun p x hmem =>
    lookup_pairs (hparams.symm ▸ nodup_helperParams h ha hres) hmem
  refine ⟨_, hbound, fun scope => ?_⟩
  constructor
  case context => rw [Frame.context?, hlookup ⟨contextName _, .context⟩ .context (by simp [helperPairs])]
  case name => exact datum?_of_lookup (hlookup ⟨logicalName, .optionalLogicalName⟩ _ (by simp [helperPairs]))
  case dependencies => exact datum?_of_lookup (hlookup ⟨dependsOn, .dependencies⟩ _ (by simp [helperPairs]))
  case step => rw [Frame.step?, hlookup ⟨configureName _, .configure a.typeName⟩ (.step c.step) (by simp [helperPairs])]
  case required =>
    rw [requiredParams_false, List.forall₂_map_left_iff]
    exact forall₂_requiredMembers hlength fun m _ d hmem =>
      datum?_of_lookup (hlookup (valueParam m) (.datum d) (by simp [helperPairs, hmem]))

/-- What the helper does, one thing after the other. -/
theorem help_eq : help (.ofCatalogue artifacts) a c.args = (do
    let name ← logicalNameFor a.placement.className c.name?
    let dependencies? ← dependenciesFor c.dependencies?
    let d ← made (.ofCatalogue artifacts) a c name dependencies?
    enroll (.ofCatalogue artifacts) d) := by
  obtain ⟨bound, hbound, hgiven⟩ := exists_given h ha hres hlength
  have hgiven := hgiven ((Bundle.ofCatalogue artifacts).ownScope a)
  rw [help, call_of_bind hbound, (helper_of_isResource (h.generated ha) hres).2, eval_register hgiven.context,
    eval_builtBy_args (Bundle.ownScope_self _ a) hgiven.step, List.cons_append, List.mapM_cons, List.mapM_append,
    mapM_paramBodies_of_forall₂ hgiven.required, List.mapM_cons, List.mapM_nil,
    eval_logicalNameOr (eval_param_of_datum? hgiven.name) hgiven.context,
    eval_dependenciesOr (eval_param_of_datum? hgiven.dependencies) hgiven.context]
  simp only [bind_assoc, pure_bind, List.map_cons, List.map_append, List.map_nil, made, HelperCall.factoryArgs,
    List.cons_append]

/-- The factory is given the name, the required values and the dependencies, each under its own name. -/
theorem exists_create_resource (name : String) (dependencies? : Option (List String)) :
    ∃ v : String → Datum S, v logicalName = .text name ∧ v dependsOn = .ofOption (dependencies?.map .texts) ∧
      List.Forall₂ (fun m d => v m.name = d) a.data.requiredMembers c.required ∧
        create (.ofCatalogue artifacts) a (c.factoryArgs name dependencies?) =
          pure (.builder a.id (tabulate a.fieldNames (initial a v))) := by
  obtain ⟨hparams, hargs⟩ := map_factoryPairs hlength (h.generated ha) hres name dependencies?
  have hbound := bind?_pairs (suits_of_mem_factoryPairs a c name dependencies?)
  rw [hparams, hargs] at hbound
  obtain ⟨v, hv, hcreate⟩ := exists_create_eq h ha hbound
  have hnodup : (a.factory.params.map (·.name)).Nodup := by
    rw [(h.generated ha).factory]
    exact (h.namesDistinct ha).nodup_requiredParams _ id
  have hvalue : ∀ p d, (p, .datum d) ∈ factoryPairs a c name dependencies? → v p.name = d := by
    intro p d hmem
    have hp : p ∈ a.factory.params := hparams ▸ List.mem_map_of_mem hmem
    have hgiven := lookup_pairs (hparams.symm ▸ hnodup) hmem
    have hheld := lookup_tabulate (List.mem_map_of_mem (f := (·.name)) hp) fun n => Argument.datum (v n)
    rw [hv] at hgiven
    exact Argument.datum.inj (Option.some.inj (hheld.symm.trans hgiven))
  refine ⟨v, hvalue ⟨logicalName, .logicalName⟩ _ (by simp [factoryPairs]),
    hvalue ⟨dependsOn, .dependencies⟩ _ (by simp [factoryPairs]), ?_, hcreate⟩
  exact forall₂_requiredMembers hlength fun m _ d hmem => hvalue (valueParam m) d (by simp [factoryPairs, hmem])

section Making
variable (hstep : c.step.Writes a writes)
include hstep

/-- What is made is a record of the artifact, which holds what was given and written. -/
theorem exists_made (name : String) (dependencies? : Option (List String)) : ∃ fields,
    Filled (.ofCatalogue artifacts) a c writes ⟨name, a.typeName, dependencies?⟩ fields ∧
      made (.ofCatalogue artifacts) a c name dependencies? = pure (.record a.id fields) := by
  have hnames := h.namesDistinct ha
  obtain ⟨v, hname, hdependencies, hrequired, hcreate⟩ := exists_create_resource h ha hres hlength name dependencies?
  refine ⟨tabulate a.fieldNames (writes.foldl (afterWrite a) (initial a v)), ?_, ?_⟩
  · constructor
    case names => exact names_tabulate _ _
    case resource =>
      have hresource : a.data.resourceType = some a.typeName := by
        rw [(h.generated ha).resourceType, if_pos hres]
      rw [resource?, h.find?_id ha, Option.bind_eq_bind, Option.bind_some, hresource, Option.bind_eq_bind,
        Option.bind_some, lookup_identity hnames v hres (Or.inl rfl), lookup_identity hnames v hres (Or.inr rfl), hname,
        hdependencies]
      cases dependencies? <;> rfl
    case required =>
      refine List.forall₂_iff_zip.mpr ⟨hlength.symm, fun {m d} hmem => ?_⟩
      obtain ⟨hm, hrequired'⟩ := List.mem_filter.mp (List.of_mem_zip hmem).1
      have hvalue : v m.name = d := (List.forall₂_iff_zip.mp hrequired).2 hmem
      rw [lookup_member hnames v hm, if_pos hrequired', hvalue]
    case optional =>
      intro m hm hoptional
      rw [lookup_member hnames v hm, hoptional]
      rfl
  · rw [made, hcreate, pure_bind, configure, hstep, pure_bind, build_eq h ha (names_tabulate _ _)]

variable {t : Template} {name : String}

/-- A call of the helper, where the name that it uses is known: the template answers whether it takes the resource. -/
theorem exists_run_help {t₁ : Template}
    (hname : (logicalNameFor a.placement.className c.name?).run t = some (name, t₁))
    (hdependee : t₁.dependee = t.dependee) : ∃ fields,
      Filled (.ofCatalogue artifacts) a c writes (c.resource a t name) fields ∧
        (help (.ofCatalogue artifacts) a c.args).run t =
          match t₁.register (c.resource a t name) with
          | .ok t' => some (.record a.id fields, t')
          | .error cause => some (.refused cause, t₁) := by
  obtain ⟨fields, hfilled, hmade⟩ := exists_made h ha hres hlength hstep name (c.dependencies?.or t.dependee)
  refine ⟨fields, hfilled, ?_⟩
  have hdependencies := run_dependenciesFor c.dependencies? t₁
  rw [hdependee] at hdependencies
  rw [help_eq h ha hres hlength, run_bind_of hname, run_bind_of hdependencies, hmade, pure_bind,
    run_enroll hfilled.resource]
  rfl

variable (ht : t.InStep)
include ht

/-- Without a name that is supplied the helper registers a resource under one that the template gives out. -/
theorem exists_registers_unnamed (hclass : a.placement.className ≠ "") (hname : c.name? = none) :
    ∃ fields t', Registers (.ofCatalogue artifacts) a c writes t (t.allocate a.placement.className).1 fields t' := by
  have hrun : (logicalNameFor a.placement.className c.name?).run t =
      some ((t.allocate a.placement.className).1, (t.allocate a.placement.className).2) := by
    rw [hname]
    rfl
  obtain ⟨fields, hfilled, hhelp⟩ := exists_run_help h ha hres hlength hstep hrun rfl
  have hafter : (t.allocate a.placement.className).2.InStep := ht.call (.allocate a.placement.className)
  obtain ⟨hregister, hlisted⟩ := hafter.register_of_free
    (r := c.resource a t (t.allocate a.placement.className).1) (t.allocate_ne_empty hclass) (t.contains_allocate _)
  rw [hregister] at hhelp
  refine ⟨fields, _, hhelp, hfilled, ?_, hlisted⟩
  rw [HelperCall.asks, hname]
  rfl

/-- A name that is supplied is used if the template takes it; else the template stays as it is. -/
theorem registers_named (hname : c.name? = some name) :
    (name ≠ "" ∧ t.contains name = false →
      ∃ fields t', Registers (.ofCatalogue artifacts) a c writes t name fields t') ∧
    (¬ (name ≠ "" ∧ t.contains name = false) →
      ∃ cause, (help (.ofCatalogue artifacts) a c.args).run t = some (.refused cause, t)) := by
  have hrun : (logicalNameFor a.placement.className c.name?).run t = some (name, t) := by
    rw [hname]
    rfl
  obtain ⟨fields, hfilled, hhelp⟩ := exists_run_help h ha hres hlength hstep hrun rfl
  constructor
  · rintro ⟨hnonempty, hfree⟩
    obtain ⟨hregister, hlisted⟩ := ht.register_of_free (r := c.resource a t name) hnonempty hfree
    rw [hregister] at hhelp
    refine ⟨fields, _, hhelp, hfilled, ?_, hlisted⟩
    rw [HelperCall.asks, hname]
    rfl
  · intro hnot
    obtain ⟨cause, hregister⟩ := ht.register_of_not_free (r := c.resource a t name) hnot
    rw [hregister] at hhelp
    exact ⟨cause, hhelp⟩

end Making

end Helper

/-- Without a name that is supplied the helper of a resource always succeeds, under a name that the template gives out:
    one that is not empty and was not registered, that of the class or that with a positive number behind it. A name
    that is supplied is the one that is registered, unless it is empty or taken; then the template stays as it is. -/
theorem helpers_register {schemas : List Schema} {config : Config} {bundle : Bundle} {a : Artifact}
    (h : Generation.ofSchemas schemas config = .ok bundle) (ha : a ∈ bundle.resources) {t : Template}
    (ht : t.Reachable) (c : HelperCall S) (calls : List (SetterCall S))
    (hlength : c.required.length = a.data.requiredMembers.length) (hcalls : ∀ call ∈ calls, call.FitsIn bundle a)
    (hstep : c.step.Performs bundle a calls) :
    ∃ writes, calls.mapM (written bundle a) = pure writes ∧
      (c.name? = none → ∃ name fields t', name = (t.allocate a.placement.className).1 ∧
        (name = a.placement.className ∨ Template.Numbered a.placement.className name) ∧ name ≠ "" ∧
          t.contains name = false ∧ Registers bundle a c writes t name fields t') ∧
      ∀ name, c.name? = some name →
        ((∃ fields t', Registers bundle a c writes t name fields t') ↔ name ≠ "" ∧ t.contains name = false) ∧
          (¬ (name ≠ "" ∧ t.contains name = false) →
            ∃ cause, (help bundle a c.args).run t = some (.refused cause, t)) := by
  obtain ⟨schema, -, hvalid, hschema⟩ := Generation.ofSchemas_ok h
  obtain ⟨table, artifacts, hE, rfl⟩ := ofSchema_ok hschema
  have hmem : a ∈ (Bundle.ofCatalogue artifacts).artifacts := List.mem_append_right _ ha
  have hres := hE.isResource_of_mem_resources ha
  have hclass : a.placement.className ≠ "" := by
    obtain ⟨spec, hspec, -⟩ := hE.find?_artifacts_iff.mp (hE.mem_artifacts_iff.mp hmem)
    have ht : (a.id, spec) ∈ schema.toList := Catalogue.mem_toList_iff.mpr hspec
    rw [(hE.generated hmem).placement]
    exact className_ne_empty hvalid ht config
  obtain ⟨writes, hwrites, hall⟩ := exists_writes hE hmem hcalls
  refine ⟨writes, hwrites, fun hname => ?_, fun name hname => ?_⟩
  · obtain ⟨fields, t', hregisters⟩ :=
      exists_registers_unnamed hE hmem hres hlength (hall c.step hstep) ht.inStep hclass hname
    exact ⟨_, fields, t', rfl, t.eq_or_numbered_of_allocate _, t.allocate_ne_empty hclass, t.contains_allocate _,
      hregisters⟩
  · obtain ⟨htakes, hrefuses⟩ := registers_named hE hmem hres hlength (hall c.step hstep) ht.inStep hname
    refine ⟨⟨?_, htakes⟩, hrefuses⟩
    -- What is refused returns no record.
    rintro ⟨fields, t', hregisters⟩
    by_contra hnot
    obtain ⟨cause, hrefused⟩ := hrefuses hnot
    rw [hregisters.returns] at hrefused
    cases hrefused

/-- A resource type with a required field. -/
def noticeboard : Schema where
  properties := .empty
  resources := .ofList [("Topic", { fields := .ofList [("Owner", (Field.ofPrimitive "String").withRequired true)] })]

/-- Where one topic has been named and a queue is called `Topic2`, the next topic is `Topic3`, and none can be called
    `Topic2`. -/
theorem helpers_register_noticeboard : ∃ bundle a t f, Generation.ofSchemas [noticeboard] {} = .ok bundle ∧
    a ∈ bundle.resources ∧ a.typeName = "Topic" ∧
      t = (Template.empty.run [.allocate "Topic", .register ⟨"Topic2", "Queue", none⟩]).2 ∧
        Step.Performs f bundle a [⟨"owner", [.datum (.scalar "me")]⟩] ∧
          (∃ writes fields t', [⟨"owner", [.datum (.scalar "me")]⟩].mapM (written bundle a) = pure writes ∧
            Registers bundle a ⟨[.value (.of "you")], none, none, f⟩ writes t "Topic3" fields t') ∧
          ∃ cause, (help bundle a (HelperCall.args ⟨[.value (.of "you")], some "Topic2", none, f⟩)).run t =
            some (.refused cause, t) := by
  have hshape : ((Generation.ofSchemas [noticeboard] {}).toOption.bind (·.resources.head?)).map
      (fun a => (a.typeName, a.placement.className, a.data.requiredMembers.length,
        (a.setter? "owner").map (·.callable.params))) =
      some ("Topic", "Topic", 1, some [⟨"owner", .value (.scalar .string)⟩]) := by decide +kernel
  obtain ⟨a, ha, hshape⟩ := Option.map_eq_some_iff.mp hshape
  obtain ⟨bundle, hok, ha⟩ := Option.bind_eq_some_iff.mp ha
  simp only [Prod.mk.injEq] at hshape
  obtain ⟨htype, hclass, hlength, hsetter⟩ := hshape
  obtain ⟨s, hs, hparams⟩ := Option.map_eq_some_iff.mp hsetter
  have h := eq_ok_of_toOption hok
  have hmem : a ∈ bundle.resources := List.mem_of_head? ha
  let calls : List (SetterCall String) := [⟨"owner", [.datum (.scalar "me")]⟩]
  have hcalls : ∀ call ∈ calls, call.FitsIn bundle a := by
    intro call hcall
    obtain rfl := List.mem_singleton.mp hcall
    refine ⟨s, hs, ?_⟩
    rw [FitAll, hparams]
    exact .cons ⟨"me", rfl⟩ .nil
  obtain ⟨f, hf⟩ : ∃ f : Step String, f.Performs bundle a calls := by
    obtain ⟨schema, -, -, hschema⟩ := Generation.ofSchemas_ok h
    obtain ⟨table, artifacts, hE, rfl⟩ := ofSchema_ok hschema
    exact exists_performs hE (List.mem_append_right _ hmem) hcalls
  let past : List Template.Call := [.allocate "Topic", .register ⟨"Topic2", "Queue", none⟩]
  refine ⟨bundle, a, (Template.empty.run past).2, f, h, hmem, htype, rfl, hf, ?_, ?_⟩
  · obtain ⟨writes, hwrites, hunnamed, -⟩ := helpers_register h hmem ⟨past, rfl⟩
      ⟨[.value (.of "you")], none, none, f⟩ calls hlength.symm hcalls hf
    obtain ⟨name, fields, t', hname, -, -, -, hregisters⟩ := hunnamed rfl
    obtain rfl : name = "Topic3" := by
      rw [hname, hclass]
      decide +kernel
    exact ⟨writes, fields, t', hwrites, hregisters⟩
  · obtain ⟨writes, -, -, hnamed⟩ := helpers_register h hmem ⟨past, rfl⟩
      ⟨[.value (.of "you")], some "Topic2", none, f⟩ calls hlength.symm hcalls hf
    exact (hnamed "Topic2" rfl).2 (by decide +kernel)

end Evaluation

end Typewright
