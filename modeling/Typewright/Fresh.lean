/-!
# Names that are free

`leastFree` looks through a numbered family of names for the first one that is not taken. A name that turned out to be
taken is dropped from the list, by which the search ends; this changes nothing as long as no two numbers give the
same name (`leastFree_not_mem`, `mem_of_lt_leastFree`).
-/

namespace Typewright

/-- The names other than `name`. -/
def without (name : String) (names : List String) : List String := names.filter (· ≠ name)

theorem mem_without {a name : String} {names : List String} : a ∈ without name names ↔ a ∈ names ∧ a ≠ name := by
  simp [without]

theorem length_without_lt {name : String} {names : List String} (h : name ∈ names) :
    (without name names).length < names.length :=
  List.length_filter_lt_length_iff_exists.mpr ⟨name, h, by simp⟩

/-- The first number from `start` on whose name is not in `taken`. -/
def leastFree (name : Nat → String) (taken : List String) (start : Nat) : Nat :=
  if _h : name start ∈ taken then leastFree name (without (name start) taken) (start + 1) else start
termination_by taken.length
decreasing_by exact length_without_lt _h

theorem le_leastFree (name : Nat → String) (taken : List String) (start : Nat) :
    start ≤ leastFree name taken start := by
  fun_induction leastFree name taken start with
  | case1 taken start _ ih => omega
  | case2 taken start _ => exact Nat.le_refl _

/-- The search tries no more numbers than there are names that are taken. -/
theorem leastFree_le (name : Nat → String) (taken : List String) (start : Nat) :
    leastFree name taken start ≤ start + taken.length := by
  fun_induction leastFree name taken start with
  | case1 taken start h ih =>
    have := length_without_lt h
    omega
  | case2 taken start _ => exact Nat.le_add_right _ _

theorem leastFree_not_mem {name : Nat → String} (inj : ∀ m n, name m = name n → m = n) (taken : List String)
    (start : Nat) : name (leastFree name taken start) ∉ taken := by
  fun_induction leastFree name taken start with
  | case1 taken start _ ih =>
    intro hmem
    refine ih (mem_without.mpr ⟨hmem, fun heq => ?_⟩)
    have := le_leastFree name (without (name start) taken) (start + 1)
    have := inj _ _ heq
    omega
  | case2 taken start h => exact h

theorem mem_of_lt_leastFree {name : Nat → String} {taken : List String} {start n : Nat} (hs : start ≤ n)
    (hn : n < leastFree name taken start) : name n ∈ taken := by
  fun_induction leastFree name taken start with
  | case1 taken start h ih =>
    rcases Nat.lt_or_eq_of_le hs with hlt | rfl
    · exact (mem_without.mp (ih hlt hn)).1
    · exact h
  | case2 taken start h => omega

end Typewright
