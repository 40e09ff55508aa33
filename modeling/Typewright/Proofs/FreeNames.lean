import Typewright.Proofs.Allocation
import Typewright.Proofs.Emitted
import Typewright.Proofs.Loops

/-! # Names found by trying

A parameter that stands beside others, and a resource without a name, are given the first name of a row that is not
taken. No name comes twice in either row, so the loops that try one name after the other come to an end: with the
fewest underscores behind the name of the parameter, and with the least number after those that were given out for the
type whose name is not registered. -/

namespace Typewright

/-! ### Parameters beside others -/

namespace Emission

theorem underscored_zero (base : String) : underscored base 0 = base := String.append_empty

theorem push_underscored (base : String) (n : Nat) : (underscored base n).push '_' = underscored base (n + 1) := by
  rw [underscored, underscored, List.replicate_succ', String.ofList_append, ← String.append_assoc,
    String.push_eq_append, String.singleton_eq_ofList]

/-- A turn of the search for a name beside others: a name that one of them has gets one more underscore. -/
def lengthen (params : List Param) (name : String) : Loop.Turn String String :=
  if params.any (·.name == name) then .again (name.push '_') else .stop name

theorem lengthen_eq (params : List Param) (name : String) : lengthen params name =
    if name ∈ params.map (·.name) then .again (name.push '_') else .stop name := by
  rw [lengthen]
  simp only [List.any_eq_true, beq_iff_eq, List.mem_map]

theorem ends_freeName (base : String) (params : List Param) : Loop.Ends (lengthen params) base
    (leastFree (underscored base) (params.map (·.name)) 0) (freeName base (params.map (·.name))) := by
  have hends : Loop.Ends (lengthen params) (underscored base 0)
      (leastFree (underscored base) (params.map (·.name)) 0 - 0) (freeName base (params.map (·.name))) := by
    refine Loop.ends_leastFree (underscored_inj base) (underscored base) (underscored base) (fun i hi => ?_)
      fun i hi => ?_
    · rw [Nat.zero_add] at hi
      rw [lengthen_eq, if_pos hi, push_underscored]
    · rw [Nat.zero_add] at hi ⊢
      rw [lengthen_eq, if_neg hi]
  rwa [underscored_zero, Nat.sub_zero] at hends

theorem isLeast_freeName (base : String) (params : List Param) : IsLeast {n | ∀ p ∈ params, p.name ≠ underscored base n}
    (leastFree (underscored base) (params.map (·.name)) 0) := by
  obtain ⟨⟨-, hfree⟩, hleast⟩ := isLeast_leastFree (underscored_inj base) (params.map (·.name)) 0
  refine ⟨fun p hp heq => hfree (heq ▸ List.mem_map_of_mem hp), fun n hn => hleast ⟨Nat.zero_le n, fun hmem => ?_⟩⟩
  obtain ⟨p, hp, hname⟩ := List.mem_map.mp hmem
  exact hn p hp hname

/-- The search for a name beside others ends, after no more underscores than there are parameters, with the fewest
    underscores behind the usual name that make it different from the names of all of them. -/
theorem freeName_fewest (base : String) (params : List Param) : ∃ n ≤ params.length,
    Loop.Ends (lengthen params) base n (freeName base (params.map (·.name))) ∧
      freeName base (params.map (·.name)) = underscored base n ∧
        IsLeast {n | ∀ p ∈ params, p.name ≠ underscored base n} n := by
  have hle := leastFree_le (underscored base) (params.map (·.name)) 0
  rw [Nat.zero_add, List.length_map] at hle
  exact ⟨_, hle, ends_freeName base params, rfl, isLeast_freeName base params⟩

end Emission

/-! ### Numbers behind the names of types -/

namespace Template

/-- A turn of the search for the next number of a type, where `k` is the last one that was tried. -/
def tryNext (t : Template) (typeName : String) (k : Nat) : Loop.Turn Nat Nat :=
  if t.contains (candidate typeName (k + 1)) then .again (k + 1) else .stop (k + 1)

/-- `k` is the number that a template gives out for a type: the search for it ends there, the template answers with its
    name and remembers it, and nothing else of it changes. -/
structure GivesOut (t : Template) (typeName : String) (k : Nat) : Prop where
  ends : ∃ n ≤ t.names.size, Loop.Ends (t.tryNext typeName) (t.counter typeName) n k
  least : IsLeast {k | t.counter typeName < k ∧ t.contains (candidate typeName k) = false} k
  name : (t.allocate typeName).1 = candidate typeName k
  remembers : ∃ counters, (t.allocate typeName).2 = { t with counters } ∧ ∀ other,
    counters.find? other = if typeName = other then some k else t.counters.find? other

/-- Of two answers for a type the later one has the greater number. -/
def Ascends (typeName : String) (earlier later : Call × Answer) : Prop :=
  earlier.1 = .allocate typeName → later.1 = .allocate typeName → ∃ k l,
    earlier.2 = .allocated (candidate typeName k) ∧ later.2 = .allocated (candidate typeName l) ∧ k < l

section Numbers
variable {t t' : Template} {typeName : String}

theorem tryNext_eq (t : Template) (typeName : String) (k : Nat) : t.tryNext typeName k =
    if candidate typeName (k + 1) ∈ t.names.keys then .again (k + 1) else .stop (k + 1) := by
  rw [tryNext]
  simp only [mem_keys_iff_contains]

theorem ends_nextNumber (t : Template) (typeName : String) : ∃ n ≤ t.names.size,
    Loop.Ends (t.tryNext typeName) (t.counter typeName) n (t.nextNumber typeName) := by
  refine ⟨t.nextNumber typeName - (t.counter typeName + 1), ?_, ?_⟩
  · have hle : t.nextNumber typeName ≤ t.counter typeName + 1 + t.names.keys.length := leastFree_le _ _ _
    rw [SortedMap.keys, List.length_map] at hle
    exact Nat.sub_le_of_le_add (Nat.add_comm _ _ ▸ hle)
  · refine Loop.ends_leastFree (candidate_inj typeName) (fun i => t.counter typeName + i) id
      (fun i hi => ?_) fun i hi => ?_ <;> rw [Nat.add_right_comm] at hi
    · rw [tryNext_eq, if_pos hi, Nat.add_assoc]
    · rw [tryNext_eq, if_neg hi, Nat.add_right_comm, id]

theorem isLeast_nextNumber (t : Template) (typeName : String) :
    IsLeast {k | t.counter typeName < k ∧ t.contains (candidate typeName k) = false} (t.nextNumber typeName) := by
  have hleast := isLeast_leastFree (candidate_inj typeName) t.names.keys (t.counter typeName + 1)
  refine ⟨⟨t.counter_lt_nextNumber typeName, t.contains_allocate typeName⟩, ?_⟩
  rintro k ⟨hlater, hfree⟩
  rw [Bool.eq_false_iff, ne_eq, ← mem_keys_iff_contains] at hfree
  exact hleast.2 ⟨hlater, hfree⟩

theorem givesOut_nextNumber (t : Template) (typeName : String) : GivesOut t typeName (t.nextNumber typeName) where
  ends := t.ends_nextNumber typeName
  least := t.isLeast_nextNumber typeName
  name := rfl
  remembers := ⟨_, rfl, fun other => SortedMap.find?_insert _ _ other _⟩

theorem ascends_of_advances {c c' : Call} (h : Advances (t.call c).2 t') :
    Ascends typeName (c, (t.call c).1) (c', (t'.call c').1) := by
  rintro rfl rfl
  exact ⟨t.nextNumber typeName, t'.nextNumber typeName, rfl, rfl, nextNumber_lt_of_advances h⟩

end Numbers

/-- Every template gives out for a type the least number after the last one whose name is not registered, and in every
    run the numbers that are given out for one type ascend, whatever else is asked in between. -/
theorem numbers_least_and_ascending :
    (∀ (t : Template) (typeName : String), ∃ k, GivesOut t typeName k) ∧
      ∀ (t : Template) (calls : List Call) (typeName : String), (t.run calls).1.Pairwise (Ascends typeName) :=
  ⟨fun t typeName => ⟨_, t.givesOut_nextNumber typeName⟩, fun t calls _ => pairwise_run ascends_of_advances t calls⟩

end Template

end Typewright
