import Typewright.Proofs.Shadowing
import Typewright.Proofs.Setters

/-! # Values made in place are those of the helper

A setter that makes its value in place and the helper of the property type are put together apart from each other, the
one from the table of members, the other from the members of the artifact. They take the same parameters, and the setter
passes to the direct setter of its member what the helper makes: the two bodies are one, and it reads no more of its
frame than the arguments and what the name of the property type stands for. -/

namespace Typewright.Evaluation

variable {S : Type}

open Emission

/-- What is made in place depends on the arguments and on the artifact that the name of the type stands for. Whether
    there is a receiver makes no difference. -/
theorem eval_builtBy_congr {bundle : Bundle} {frame frame' : Frame S} {target : String}
    (hargs : frame.args = frame'.args) (hscope : frame.scope target = frame'.scope target) (params : List Param)
    (step : String) : frame.eval bundle (builtBy target (paramBodies params) step) =
      frame'.eval bundle (builtBy target (paramBodies params) step) := by
  have hparam : ∀ name, frame.eval bundle (.param name) = frame'.eval bundle (.param name) := fun name => by
    rw [eval_param, eval_param, Frame.datum?, Frame.datum?, hargs]
  have hparams : (paramBodies params).mapM (frame.eval bundle) = (paramBodies params).mapM (frame'.eval bundle) := by
    rw [paramBodies, List.mapM_map, List.mapM_map]
    exact congrArg (params.mapM ·) (funext fun p => hparam p.name)
  have hfactory : frame.eval bundle (.invokeFactory target (paramBodies params)) =
      frame'.eval bundle (.invokeFactory target (paramBodies params)) := by
    rw [eval_invokeFactory, eval_invokeFactory, hscope, hparams]
  have hstep : frame.step? step = frame'.step? step := by rw [Frame.step?, Frame.step?, hargs]
  rw [builtBy, eval_invokeBuild, eval_invokeBuild, eval_applyConfigure_congr hfactory hstep]

section Helper
variable {schema : Schema} {config : Config} {table : MemberTable} {artifacts : Catalogue Artifact} {a b : Artifact}

/-- The setter that makes a value of a property type in place, beside the helper of the type. -/
theorem nestedSetter_eq_helper (h : Emits schema config table artifacts)
    (hb : b ∈ (Bundle.ofCatalogue artifacts).artifacts) {target : String} (hid : b.id = ⟨.property, target⟩)
    (m : Member) : (nestedSetter m target b.data.members).callable =
      ⟨m.name ++ "_with", b.helper.params, .callSetter (setterName m.name) b.helper.body⟩ := by
  obtain ⟨hkind, rfl⟩ := TypeId.mk.inj hid
  rw [(h.generated hb).helper, Artifact.isResource, hkind]
  rfl

/-- The helper's body does the same within a setter, where there is a receiver and names of types have no artifact for
    themselves. -/
theorem eval_helper_body (h : Emits schema config table artifacts)
    (hb : b ∈ (Bundle.ofCatalogue artifacts).artifacts) {target : String} (hid : b.id = ⟨.property, target⟩)
    (hfind : (Bundle.ofCatalogue artifacts).find? target = some b) (receiver : Option (TypeId × Fields S))
    (bound : List (String × Argument S)) :
    Frame.eval (.ofCatalogue artifacts) ⟨(Bundle.ofCatalogue artifacts).find?, receiver, bound⟩ b.helper.body =
      Frame.eval (.ofCatalogue artifacts) ⟨(Bundle.ofCatalogue artifacts).ownScope b, none, bound⟩ b.helper.body := by
  obtain ⟨hkind, rfl⟩ := TypeId.mk.inj hid
  have hbody : ∃ params step, b.helper.body = builtBy b.typeName (paramBodies params) step := by
    rw [(h.generated hb).helper, Artifact.isResource, hkind]
    exact ⟨_, _, rfl⟩
  obtain ⟨params, step, hbody⟩ := hbody
  rw [hbody]
  exact eval_builtBy_congr (by rfl) (hfind.trans (Bundle.ownScope_self _ b).symm) params step

end Helper

/-- A setter that makes its value in place takes what the helper of the property type takes, and what it does is to pass
    to the direct setter of its member what the helper makes. -/
theorem nested_setters_call_helpers {schema : Schema} {config : Config} {bundle : Bundle} {a : Artifact}
    (h : Bundle.ofSchema schema config = .ok bundle) (ha : a ∈ bundle.artifacts) {s : Setter}
    (hs : s ∈ a.builder.setters) (hkind : s.kind = .nested) :
    ∃ m ∈ a.data.members, ∃ target b, s.member = m.name ∧ m.type = .named target ∧
      bundle.find? target = some b ∧ b.id = ⟨.property, target⟩ ∧
      s.callable = ⟨m.name ++ "_with", b.helper.params, .callSetter (setterName m.name) b.helper.body⟩ ∧
      (∃ primary, a.setter? (setterName m.name) = some primary ∧ primary.member = m.name ∧ primary.kind = .direct) ∧
      ∀ (args : List (Argument S)) (fields : Fields S), set bundle (m.name ++ "_with") args (.builder a.id fields) = (do
        let d ← help bundle b args
        set bundle (setterName m.name) [.datum d] (.builder a.id fields)) := by
  obtain ⟨table, artifacts, hE, rfl⟩ := ofSchema_ok h
  obtain ⟨m, hm, target, members, htype, hmembers, rfl⟩ := hE.exists_of_nested ha hs hkind
  obtain ⟨b, hb, hfind, hid, rfl, -⟩ := hE.find?_of_properties hmembers
  have hcallable := nestedSetter_eq_helper hE hb hid m
  have hdirect : directSetter m (setterName m.name) ∈ a.builder.setters := by
    refine hE.mem_setters ha hm (mem_settersOf_iff.mpr (Or.inr ⟨?_, Or.inl rfl⟩))
    rw [htype]
    rfl
  refine ⟨m, hm, target, b, rfl, htype, hfind, hid, hcallable,
    ⟨_, (hE.namesDistinct ha).setter?_of_mem hdirect, rfl, rfl⟩, fun args fields => ?_⟩
  refine (set_eq hE ha hs args).trans ?_
  rw [hcallable, help, call, call, bind_assoc]
  refine congrArg _ (funext fun bound => ?_)
  rw [eval_callSetter rfl, eval_helper_body hE hb hid hfind]

/-- A property type that may hold itself, with a field of the name that configuration steps have. -/
def thicket : Schema where
  properties := .ofList [("Branch", { fields := .ofList [
    ("Configure", (Field.ofPrimitive "String").withRequired true), ("Inner", .nested "Branch")] })]
  resources := .empty

/-- The step gets a name of its own, in the helper as in the setter. -/
theorem nested_setters_call_helpers_thicket : ∃ bundle a, Bundle.ofSchema thicket {} = .ok bundle ∧
    a ∈ bundle.artifacts ∧ a.id = ⟨.property, "Branch"⟩ ∧
      a.helper.params.map (·.name) = ["configure", "configure_"] ∧ ∃ s ∈ a.builder.setters,
        s.callable = ⟨"inner_with", a.helper.params, .callSetter "inner" a.helper.body⟩ ∧
          ∀ (args : List (Argument String)) (fields : Fields String),
            set bundle "inner_with" args (.builder a.id fields) = (do
              let d ← help bundle a args
              set bundle "inner" [.datum d] (.builder a.id fields)) := by
  have hshape : ((Bundle.ofSchema thicket {}).toOption.bind (·.find? "Branch")).map
      (fun a => (a.id, a.helper.params.map (·.name), a.data.members.map fun m => (m.name, m.type),
        (a.builder.setters.find? (·.kind = .nested)).map (·.member))) =
      some (⟨.property, "Branch"⟩, ["configure", "configure_"],
        [("configure", .value .string), ("inner", .named "Branch")], some "inner") := by
    rw [Bundle.ofSchema, memberTable_eq_insertionSort]
    decide +kernel
  obtain ⟨a, hfind, hshape⟩ := Option.map_eq_some_iff.mp hshape
  obtain ⟨bundle, hok, hfind⟩ := Option.bind_eq_some_iff.mp hfind
  simp only [Prod.mk.injEq] at hshape
  obtain ⟨hid, hparams, hmembers, hsetter⟩ := hshape
  obtain ⟨s, hs, hmember⟩ := Option.map_eq_some_iff.mp hsetter
  have h := eq_ok_of_toOption hok
  have ha : a ∈ bundle.artifacts := List.mem_of_find?_eq_some hfind
  have hmem : s ∈ a.builder.setters := List.mem_of_find?_eq_some hs
  have hkind : s.kind = .nested := by simpa using List.find?_some hs
  obtain ⟨m, hm, target, b, hwrites, htype, hb, -, hcallable, -, hcall⟩ :=
    nested_setters_call_helpers (S := String) h ha hmem hkind
  -- Of the members only the one that is written holds a type directly, and that is the type itself.
  have hname : m.name = "inner" := hwrites.symm.trans hmember
  obtain rfl : target = "Branch" := by
    have hpair := List.mem_map_of_mem (f := fun m => (m.name, m.type)) hm
    rw [hmembers, hname, htype] at hpair
    simpa using hpair
  obtain rfl : a = b := Option.some.inj (hfind.symm.trans hb)
  rw [hname] at hcallable hcall
  exact ⟨bundle, a, h, ha, hid, hparams, s, hmem, hcallable, hcall⟩

end Typewright.Evaluation
