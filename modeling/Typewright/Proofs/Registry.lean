import Typewright.Proofs.Tables
import Typewright.Template

/-! # Runs of a template

A run asks a template for one thing after the other; each call gives an answer and leaves a template behind. The list of
resources, in which registering looks for a name, and the set of names, which everything else asks, hold the same names:
every call keeps them in step (`InStep.call`), and so does every run that starts with them in step. What registering
decides can then be said by either of them. -/

namespace Typewright.Template

/-! ### Calls -/

/-- What a template is asked for. -/
inductive Call where
  | allocate (typeName : String)
  | register (r : Resource)
  | setDependee (dependee : Option (List String))

inductive Answer where
  | allocated (logicalName : String)
  | registered (result : Except TemplateError Resource)
  | done

/-- The answer to a call, and the template afterwards. -/
def call (t : Template) : Call → Answer × Template
  | .allocate typeName => (.allocated (t.allocate typeName).1, (t.allocate typeName).2)
  | .register r => (.registered (t.enter r).1, (t.enter r).2)
  | .setDependee dependee => (.done, t.setDependee dependee)

/-- Calls one after the other: each of them with its answer, and the template afterwards. -/
def run (t : Template) : List Call → List (Call × Answer) × Template
  | [] => ([], t)
  | c :: calls => ((c, (t.call c).1) :: ((t.call c).2.run calls).1, ((t.call c).2.run calls).2)

/-- The resource that a call registered, if it did. -/
def accepted? : Call × Answer → Option Resource
  | (.register r, .registered (.ok _)) => some r
  | _ => none

/-- The resources that were registered, in the order of the calls. -/
def accepted (history : List (Call × Answer)) : List Resource := history.filterMap accepted?

/-! ### List and set in step -/

/-- The names of the registered resources are not empty, distinct, and those of the set. -/
structure InStep (t : Template) : Prop where
  named : ∀ r ∈ t.resources, r.logicalName ≠ ""
  distinct : (t.resources.map (·.logicalName)).Nodup
  contains_iff : ∀ name, t.contains name = true ↔ ∃ r ∈ t.resources, r.logicalName = name

section Steps
variable {t : Template} {r : Resource}

theorem inStep_empty : InStep empty := by
  constructor
  case named => exact fun r hr => nomatch hr
  case distinct => exact List.nodup_nil
  case contains_iff => simp [contains, empty, SortedMap.contains]

/-- What registering can do: it refuses the empty name and a name that is taken, and else adds the resource. -/
theorem enter_cases (t : Template) (r : Resource) :
    (r.logicalName = "" ∧ t.enter r = (.error (.emptyName r.resourceType), t)) ∨
      (r.logicalName ≠ "" ∧ ∃ holder ∈ t.resources, holder.logicalName = r.logicalName ∧
        t.enter r = (.error (.duplicateName r.logicalName holder.resourceType), t)) ∨
      (r.logicalName ≠ "" ∧ (∀ s ∈ t.resources, s.logicalName ≠ r.logicalName) ∧
        t.enter r =
          (.ok r, { t with resources := t.resources ++ [r], names := t.names.insert r.logicalName () })) := by
  rw [enter]
  split
  · rename_i hempty
    exact Or.inl ⟨String.isEmpty_iff.mp hempty, rfl⟩
  · rename_i hempty
    have hname : r.logicalName ≠ "" := fun heq => hempty (String.isEmpty_iff.mpr heq)
    split
    · rename_i holder hfind
      have hsame : holder.logicalName = r.logicalName := by simpa using List.find?_some hfind
      exact Or.inr (Or.inl ⟨hname, holder, List.mem_of_find?_eq_some hfind, hsame, rfl⟩)
    · rename_i hfind
      exact Or.inr (Or.inr ⟨hname, fun s hs => by simpa using List.find?_eq_none.mp hfind s hs, rfl⟩)

theorem contains_insert (t : Template) (name other : String) (resources : List Resource) :
    ({ t with resources, names := t.names.insert name () } : Template).contains other = true ↔
      name = other ∨ t.contains other = true := by
  rw [contains, contains, SortedMap.contains, SortedMap.contains, SortedMap.find?_insert]
  split <;> simp [*]

theorem InStep.enter (h : InStep t) (r : Resource) : InStep (t.enter r).2 := by
  rcases enter_cases t r with ⟨-, henter⟩ | ⟨-, holder, -, -, henter⟩ | ⟨hname, hnew, henter⟩ <;> rw [henter]
  · exact h
  · exact h
  · constructor
    case named =>
      intro s hs
      rcases List.mem_append.mp hs with hs | hs
      · exact h.named s hs
      · exact List.mem_singleton.mp hs ▸ hname
    case distinct =>
      have hfree : r.logicalName ∉ t.resources.map (·.logicalName) := by
        intro hmem
        obtain ⟨s, hs, hsame⟩ := List.mem_map.mp hmem
        exact hnew s hs hsame
      rw [List.map_append]
      exact h.distinct.append (List.nodup_singleton _) (List.disjoint_singleton.mpr hfree)
    case contains_iff =>
      intro name
      rw [contains_insert, h.contains_iff, or_comm]
      simp only [List.mem_append, List.mem_singleton, or_and_right, exists_or, exists_eq_left]

/-- Every call keeps the list and the set in step. Only registering touches them. -/
theorem InStep.call (h : InStep t) (c : Call) : InStep (t.call c).2 := by
  cases c with
  | allocate typeName => exact ⟨h.named, h.distinct, h.contains_iff⟩
  | register r => exact h.enter r
  | setDependee dependee => exact ⟨h.named, h.distinct, h.contains_iff⟩

/-- A call adds the resource that it registered to the list, and nothing else. -/
theorem resources_call (t : Template) (c : Call) :
    (t.call c).2.resources = t.resources ++ (accepted? (c, (t.call c).1)).toList := by
  cases c with
  | allocate typeName => exact (List.append_nil _).symm
  | setDependee dependee => exact (List.append_nil _).symm
  | register r =>
    rw [Template.call]
    rcases enter_cases t r with ⟨-, henter⟩ | ⟨-, holder, -, -, henter⟩ | ⟨-, -, henter⟩ <;> rw [henter]
    · exact (List.append_nil _).symm
    · exact (List.append_nil _).symm
    · rfl

end Steps

/-! ### Runs -/

section Runs
variable {t : Template}

theorem accepted_cons (entry : Call × Answer) (history : List (Call × Answer)) :
    accepted (entry :: history) = (accepted? entry).toList ++ accepted history := by
  rw [accepted, List.filterMap_cons]
  cases accepted? entry <;> rfl

theorem InStep.run (h : InStep t) (calls : List Call) : InStep (t.run calls).2 := by
  induction calls generalizing t with
  | nil => exact h
  | cons c calls ih => exact ih (h.call c)

theorem resources_run (t : Template) (calls : List Call) :
    (t.run calls).2.resources = t.resources ++ accepted (t.run calls).1 := by
  induction calls generalizing t with
  | nil => exact (List.append_nil _).symm
  | cons c calls ih => rw [Template.run, ih, resources_call, accepted_cons, List.append_assoc]

end Runs

/-! ### What registering decides -/

/-- What a template answers where `r` is to be registered. If it refuses, it stays as it is, and so does all that it
    answers later. -/
structure Decides (t : Template) (r : Resource) : Prop where
  accepts_iff : (∃ s, (t.enter r).1 = .ok s) ↔ r.logicalName ≠ "" ∧ t.contains r.logicalName = false
  returns : ∀ s, (t.enter r).1 = .ok s → s = r
  refuses : ∀ e, (t.enter r).1 = .error e →
    (r.logicalName = "" ∧ e = .emptyName r.resourceType) ∨
      ∃ holder, (∀ s, (s ∈ t.resources ∧ s.logicalName = r.logicalName) ↔ s = holder) ∧
        e = .duplicateName r.logicalName holder.resourceType
  unchanged : ∀ e, (t.enter r).1 = .error e → (t.enter r).2 = t
  later : ∀ e, (t.enter r).1 = .error e → ∀ calls,
    t.run (.register r :: calls) = ((.register r, .registered (.error e)) :: (t.run calls).1, (t.run calls).2)

section Deciding
variable {t : Template} {r : Resource}

/-- A resource is the only one that has its name. -/
theorem InStep.holder_iff (h : InStep t) {holder : Resource} (hholder : holder ∈ t.resources)
    (hname : holder.logicalName = r.logicalName) (s : Resource) :
    (s ∈ t.resources ∧ s.logicalName = r.logicalName) ↔ s = holder := by
  constructor
  · rintro ⟨hs, hsame⟩
    exact List.inj_on_of_nodup_map h.distinct hs hholder (hsame.trans hname.symm)
  · rintro rfl
    exact ⟨hholder, hname⟩

theorem eq_of_enter_error {e : TemplateError} (h : (t.enter r).1 = .error e) : t.enter r = (.error e, t) := by
  rcases enter_cases t r with ⟨-, henter⟩ | ⟨-, holder, -, -, henter⟩ | ⟨-, -, henter⟩ <;> rw [henter] at h ⊢
  · cases h
    rfl
  · cases h
    rfl
  · cases h

theorem InStep.decides (h : InStep t) (r : Resource) : Decides t r := by
  have hlater : ∀ e, (t.enter r).1 = .error e → ∀ calls,
      t.run (.register r :: calls) = ((.register r, .registered (.error e)) :: (t.run calls).1, (t.run calls).2) := by
    intro e herror calls
    rw [Template.run, Template.call, eq_of_enter_error herror]
  have hunchanged : ∀ e, (t.enter r).1 = .error e → (t.enter r).2 = t := fun e herror => by
    rw [eq_of_enter_error herror]
  -- What is left is read off each of the three things that registering can do.
  rcases enter_cases t r with ⟨hempty, henter⟩ | ⟨hname, holder, hholder, hsame, henter⟩ | ⟨hname, hnew, henter⟩
  · refine ⟨?_, ?_, ?_, hunchanged, hlater⟩ <;> rw [henter]
    · exact ⟨fun ⟨s, hs⟩ => (nomatch hs), fun ⟨hname, _⟩ => absurd hempty hname⟩
    · exact fun s hs => nomatch hs
    · rintro e ⟨⟩
      exact Or.inl ⟨hempty, rfl⟩
  · have htaken : t.contains r.logicalName = true := (h.contains_iff _).mpr ⟨holder, hholder, hsame⟩
    refine ⟨?_, ?_, ?_, hunchanged, hlater⟩ <;> rw [henter]
    · exact ⟨fun ⟨s, hs⟩ => (nomatch hs), fun ⟨_, hfree⟩ => absurd (htaken.symm.trans hfree) (by decide)⟩
    · exact fun s hs => nomatch hs
    · rintro e ⟨⟩
      exact Or.inr ⟨holder, h.holder_iff hholder hsame, rfl⟩
  · have hfree : t.contains r.logicalName = false := by
      rw [Bool.eq_false_iff, ne_eq, h.contains_iff]
      rintro ⟨s, hs, hsame⟩
      exact hnew s hs hsame
    refine ⟨?_, ?_, ?_, hunchanged, hlater⟩ <;> rw [henter]
    · exact ⟨fun _ => ⟨hname, hfree⟩, fun _ => ⟨r, rfl⟩⟩
    · rintro s ⟨⟩
      rfl
    · exact fun e he => nomatch he

end Deciding

/-- After any run the template lists the resources that were registered, in the order of the calls. Their names are not
    empty, distinct, and the names that it contains, and by them it decides what can be registered next. -/
theorem run_in_step (calls : List Call) :
    (empty.run calls).2.resources = accepted (empty.run calls).1 ∧ InStep (empty.run calls).2 ∧
      (empty.run calls).2.size = (accepted (empty.run calls).1).length ∧
      ((empty.run calls).2.isEmpty = true ↔ accepted (empty.run calls).1 = []) ∧
      ∀ r, Decides (empty.run calls).2 r := by
  have hstep : InStep (empty.run calls).2 := inStep_empty.run calls
  have hresources : (empty.run calls).2.resources = accepted (empty.run calls).1 := resources_run empty calls
  refine ⟨hresources, hstep, ?_, ?_, hstep.decides⟩
  · rw [size, hresources]
  · rw [isEmpty, hresources, List.isEmpty_iff]

end Typewright.Template
