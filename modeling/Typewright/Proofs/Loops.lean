import Mathlib.Order.Bounds.Basic
import Typewright.Fresh

/-! # Loops

A loop goes on from state to state until a turn stops it with an answer. `Loop.Ends` says after how many turns that is;
nothing in it keeps a loop from going on for ever, so it holds only of a loop that comes to an end. A loop ends if
something gets smaller with every turn (`exists_ends`), and a loop that counts upwards until a name is free ends at the
least number whose name is free (`ends_leastFree`). -/

namespace Typewright

namespace Loop

/-- What a turn of a loop comes to. -/
inductive Turn (State Answer : Type) where
  | again (s : State)
  | stop (a : Answer)

/-- The loop that starts with a state goes on a number of times, and then it stops with an answer. -/
inductive Ends {State Answer : Type} (turn : State → Turn State Answer) : State → Nat → Answer → Prop where
  | stop {s : State} {a : Answer} : turn s = .stop a → Ends turn s 0 a
  | again {s s' : State} {n : Nat} {a : Answer} : turn s = .again s' → Ends turn s' n a → Ends turn s (n + 1) a

section
variable {State Answer : Type} {turn : State → Turn State Answer} {s : State} {a : Answer} {n : Nat}

/-- A loop ends if every turn that goes on leaves less to be done, and it goes on no more often than that. -/
theorem exists_ends {left : State → Nat} (hless : ∀ s s', turn s = .again s' → left s' < left s) (s : State) :
    ∃ n ≤ left s, ∃ a, Ends turn s n a := by
  induction hleft : left s using Nat.strongRecOn generalizing s with
  | ind k ih =>
    cases hturn : turn s with
    | stop a => exact ⟨0, Nat.zero_le k, a, .stop hturn⟩
    | again s' =>
      have hlt := hless s s' hturn
      obtain ⟨n, hn, a, hends⟩ := ih (left s') (hleft ▸ hlt) s' rfl
      exact ⟨n + 1, by omega, a, .again hturn hends⟩

/-- What no turn changes until the loop stops with it is the answer. -/
theorem Ends.eq_answer (answer : State → Answer) (hagain : ∀ s s', turn s = .again s' → answer s' = answer s)
    (hstop : ∀ s a, turn s = .stop a → answer s = a) (h : Ends turn s n a) : answer s = a := by
  induction h with
  | stop hturn => exact hstop _ _ hturn
  | again hturn _ ih => exact (hagain _ _ hturn).symm.trans ih

/-- A loop whose states are known, one after the other. -/
theorem Ends.of_turns (states : Nat → State) (hagain : ∀ i < n, turn (states i) = .again (states (i + 1)))
    (hstop : turn (states n) = .stop a) : Ends turn (states 0) n a := by
  induction n generalizing states with
  | zero => exact .stop hstop
  | succ n ih =>
    refine .again (hagain 0 (Nat.zero_lt_succ n)) (ih (fun i => states (i + 1)) ?_ hstop)
    exact fun i hi => hagain (i + 1) (Nat.succ_lt_succ hi)

/-- A loop that counts upwards while names are taken ends at the first number whose name is free. -/
theorem ends_leastFree {name : Nat → String} (inj : ∀ i j, name i = name j → i = j) {taken : List String} {start : Nat}
    (states : Nat → State) (answer : Nat → Answer)
    (hagain : ∀ i, name (start + i) ∈ taken → turn (states i) = .again (states (i + 1)))
    (hstop : ∀ i, name (start + i) ∉ taken → turn (states i) = .stop (answer (start + i))) :
    Ends turn (states 0) (leastFree name taken start - start) (answer (leastFree name taken start)) := by
  have hle := le_leastFree name taken start
  have hfree := leastFree_not_mem inj taken start
  refine .of_turns states (fun i hi => hagain i ?_) ?_
  · exact mem_of_lt_leastFree (Nat.le_add_right start i) (by omega)
  · have hlast : start + (leastFree name taken start - start) = leastFree name taken start := by omega
    have hturn := hstop (leastFree name taken start - start)
    rw [hlast] at hturn
    exact hturn hfree

end

end Loop

/-- The number that `leastFree` finds is the least one from `start` on whose name is free. -/
theorem isLeast_leastFree {name : Nat → String} (inj : ∀ i j, name i = name j → i = j) (taken : List String)
    (start : Nat) : IsLeast {k | start ≤ k ∧ name k ∉ taken} (leastFree name taken start) := by
  refine ⟨⟨le_leastFree name taken start, leastFree_not_mem inj taken start⟩, ?_⟩
  rintro k ⟨hstart, hfree⟩
  by_contra hlt
  exact hfree (mem_of_lt_leastFree hstart (Nat.lt_of_not_le hlt))

end Typewright
