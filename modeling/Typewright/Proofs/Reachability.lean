import Typewright.Proofs.Containment
import Typewright.Proofs.Loops

/-! # Searching a table of members

A search keeps the types that it has still to visit on a stack. It takes the latest of them off, and if it has not
visited that type before, it puts on all that the type holds. Such a loop comes to an end on every table: each turn
takes one type off, and what a type holds is put on only once (`length_linksAhead_insert`). No turn changes whether the
goal can still be reached (`reaches_visit`), so the loop ends with the answer of `Containment.reaches`, which goes
through the types in another order. -/

namespace Typewright
open Relation

/-! ### Searches that agree -/

namespace Containment
variable {held : Containment} {visited visited' : Visited} {goal id : TypeId} {pending pending' : List TypeId}

/-- A search depends on which types are pending and on what can be expanded, not on the order of either. -/
theorem reaches_congr (hstep : ∀ a b, held.Step visited a b ↔ held.Step visited' a b)
    (hpending : ∀ p, p ∈ pending ↔ p ∈ pending') :
    held.reaches goal visited pending = held.reaches goal visited' pending' := by
  have hsame : held.Step visited = held.Step visited' := by
    funext a b
    exact propext (hstep a b)
  rw [Bool.eq_iff_iff, reaches_iff, reaches_iff, hsame]
  simp only [hpending]

/-- A type that is not declared holds nothing, so it does not matter that it is not counted as expanded. -/
theorem reaches_cons (hne : id ≠ goal) (hv : id ∉ visited) : held.reaches goal visited (id :: pending) =
    held.reaches goal (visited.insert id) (held[id]?.getD [] ++ pending) := by
  rw [reaches, if_neg hne, dif_neg hv]
  split
  · rename_i hnone
    rw [hnone]
    refine reaches_congr (fun a b => ⟨fun h => ⟨fun hmem => ?_, h.2⟩, Step.of_insert⟩) fun p => Iff.rfl
    rcases Std.TreeSet.mem_insert.mp hmem with heq | hmem
    · have hheld := h.2
      rw [← TypeId.order_eq_iff.mp heq, hnone] at hheld
      exact List.not_mem_nil hheld
    · exact h.1 hmem
  · rename_i contained hsome
    rw [hsome, Option.getD_some]

end Containment

/-! ### The search as a loop -/

namespace MemberTable
variable {table : MemberTable} {goal id : TypeId} {visited : Containment.Visited}

/-- The types that a type holds directly: none if it is not declared. -/
def heldIn (table : MemberTable) (id : TypeId) : List TypeId := ((table.find? id).map table.heldBy).getD []

/-- A search under way: the types that it has visited, and those that it has come to, the latest first. -/
structure Search where
  visited : Containment.Visited
  stack : List TypeId

/-- A turn of the search for `goal`. -/
def visit (table : MemberTable) (goal : TypeId) : Search → Loop.Turn Search Bool
  | ⟨_, []⟩ => .stop false
  | ⟨visited, id :: stack⟩ =>
    if id = goal then .stop true
    else if id ∈ visited then .again ⟨visited, stack⟩
    else .again ⟨visited.insert id, (table.heldIn id).reverse ++ stack⟩

/-- What a turn that goes on can do: it leaves out a type that was visited before, or it visits one. -/
theorem visit_again {s s' : Search} (h : table.visit goal s = .again s') :
    ∃ id stack, s.stack = id :: stack ∧ id ≠ goal ∧
      ((id ∈ s.visited ∧ s' = ⟨s.visited, stack⟩) ∨
        (id ∉ s.visited ∧ s' = ⟨s.visited.insert id, (table.heldIn id).reverse ++ stack⟩)) := by
  obtain ⟨visited, _ | ⟨id, stack⟩⟩ := s
  · cases h
  · rw [visit] at h
    split at h
    · cases h
    · rename_i hne
      split at h
      · rename_i hv
        cases h
        exact ⟨id, stack, rfl, hne, Or.inl ⟨hv, rfl⟩⟩
      · rename_i hv
        cases h
        exact ⟨id, stack, rfl, hne, Or.inr ⟨hv, rfl⟩⟩

theorem getD_containment (table : MemberTable) (id : TypeId) : table.containment[id]?.getD [] = table.heldIn id := by
  rw [getElem?_containment, heldIn]

/-- A turn does not change what a search from there on finds. -/
theorem reaches_visit {s s' : Search} (h : table.visit goal s = .again s') :
    table.containment.reaches goal s'.visited s'.stack = table.containment.reaches goal s.visited s.stack := by
  obtain ⟨id, stack, hstack, hne, ⟨hv, rfl⟩ | ⟨hv, rfl⟩⟩ := visit_again h <;> rw [hstack]
  · rw [Containment.reaches, if_neg hne, dif_pos hv]
  · rw [Containment.reaches_cons hne hv, getD_containment]
    exact Containment.reaches_congr (fun _ _ => Iff.rfl) fun p => by simp

theorem reaches_of_stop {s : Search} {found : Bool} (h : table.visit goal s = .stop found) :
    table.containment.reaches goal s.visited s.stack = found := by
  obtain ⟨visited, _ | ⟨id, stack⟩⟩ := s
  · cases h
    rw [Containment.reaches]
  · rw [visit] at h
    split at h
    · rename_i hgoal
      cases h
      rw [Containment.reaches, if_pos hgoal]
    · split at h <;> cases h

/-! ### Its end -/

/-- The members that hold a declared type, each as the type that it holds. -/
def links (table : MemberTable) : List TypeId := table.toList.flatMap fun e => table.heldBy e.2

/-- What the types that are not in `visited` hold. -/
def linksAhead (table : MemberTable) (visited : Containment.Visited) : List TypeId :=
  (table.toList.filter fun e => e.1 ∉ visited).flatMap fun e => table.heldBy e.2

theorem linksAhead_empty (table : MemberTable) : table.linksAhead ∅ = table.links := by
  rw [linksAhead, links, List.filter_eq_self.mpr]
  intro e _
  simp

/-- What a type holds is no longer ahead once the type has been visited. -/
theorem length_linksAhead_insert (table : MemberTable) (hv : id ∉ visited) :
    (table.linksAhead (visited.insert id)).length + (table.heldIn id).length ≤ (table.linksAhead visited).length := by
  have hfewer : ∀ e : TypeId × List Member,
      decide (e.1 ∉ visited.insert id) = true → decide (e.1 ∉ visited) = true := by
    intro e he
    simp only [Std.TreeSet.mem_insert, not_or, decide_eq_true_eq] at he ⊢
    exact he.2
  rw [heldIn]
  cases hfind : table.find? id with
  | none => exact length_flatMap_filter_le (fun e => table.heldBy e.2) hfewer table.toList
  | some members =>
    exact length_flatMap_filter_add_le (a := (id, members)) (fun e => table.heldBy e.2) hfewer (by simp [hv]) (by simp)
      (Catalogue.mem_toList_iff.mpr hfind)

/-- What a search has left to do: the types on its stack, and those that can still be put there. -/
def remaining (table : MemberTable) (s : Search) : Nat := (table.linksAhead s.visited).length + s.stack.length

theorem remaining_visit_lt {s s' : Search} (h : table.visit goal s = .again s') :
    table.remaining s' < table.remaining s := by
  obtain ⟨id, stack, hstack, -, ⟨-, rfl⟩ | ⟨hv, rfl⟩⟩ := visit_again h <;> rw [remaining, remaining, hstack]
  · exact Nat.lt_succ_self _
  · have hlength := length_linksAhead_insert table hv
    simp only [List.length_append, List.length_reverse, List.length_cons]
    omega

/-- On every table the search from one type for another one ends: it goes on at most once for each member that holds a
    declared type directly, and once more. It finds the goal if and only if it starts there or can come there over such
    members, from each to the type that its name means. -/
theorem reaches_iff_path (table : MemberTable) (start goal : TypeId) :
    (∃ n ≤ table.links.length + 1,
      Loop.Ends (table.visit goal) ⟨∅, [start]⟩ n (table.containment.reaches goal ∅ [start])) ∧
      (table.containment.reaches goal ∅ [start] = true ↔ ReflTransGen table.Holds start goal) := by
  have hless : ∀ s s', table.visit goal s = .again s' → table.remaining s' < table.remaining s :=
    fun _ _ => remaining_visit_lt
  obtain ⟨n, hn, found, hends⟩ := Loop.exists_ends hless ⟨∅, [start]⟩
  have hfound : table.containment.reaches goal ∅ [start] = found :=
    hends.eq_answer (fun s => table.containment.reaches goal s.visited s.stack)
      (fun _ _ => reaches_visit) fun _ _ => reaches_of_stop
  rw [remaining, linksAhead_empty] at hn
  exact ⟨⟨n, hn, hfound ▸ hends⟩, reaches_containment_iff⟩

end MemberTable

end Typewright
