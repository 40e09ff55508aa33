import Std.Data.TreeMap.Lemmas
import Std.Data.TreeSet.Lemmas
import Typewright.Emission.Members

/-!
# Containment

A data type contains the types of its members that are held directly; lists and maps are on the heap already. A
type that contains itself, through any number of others, could not be laid out, so every member on such a cycle is
boxed. `Containment.reaches` follows containment from a list of types that are still to be visited; a type is
expanded once, so the declared types that have not been expanded, with what they hold, bound the search.
-/

namespace Typewright

/-! ### The order of types -/

namespace TypeId

/-- By name; of one name property types come first. -/
def order : TypeId → TypeId → Ordering := compareLex (compareOn (·.name)) (compareOn (·.kind.isResource))

instance : Std.TransCmp order := inferInstanceAs (Std.TransCmp (compareLex _ _))

theorem order_eq_iff {a b : TypeId} : order a b = .eq ↔ a = b := by
  obtain ⟨kind, name⟩ := a
  obtain ⟨kind', name'⟩ := b
  cases kind <;> cases kind' <;> simp [order, compareLex_eq_eq, compareOn, TypeKind.isResource]

instance : Std.LawfulEqCmp order where
  eq_of_compare := order_eq_iff.mp

end TypeId

/-- Under every declared type the types that its members hold directly. -/
abbrev Containment := Std.TreeMap TypeId (List TypeId) TypeId.order

namespace MemberTable

/-- The type that a name means in a member. -/
def denoted? (table : MemberTable) (name : String) : Option TypeId :=
  (table.kindOf? name).map fun kind => ⟨kind, name⟩

/-- The types that a list of members holds directly. -/
def heldBy (table : MemberTable) (members : List Member) : List TypeId :=
  members.filterMap fun m => m.type.named?.bind table.denoted?

def containment (table : MemberTable) : Containment :=
  Std.TreeMap.ofList (table.toList.map fun e => (e.1, table.heldBy e.2)) TypeId.order

end MemberTable

/-! ### Searching -/

theorem length_flatMap_filter_le {α β : Type} {p q : α → Bool} (f : α → List β)
    (hle : ∀ x, q x = true → p x = true) :
    ∀ l : List α, ((l.filter q).flatMap f).length ≤ ((l.filter p).flatMap f).length
  | [] => Nat.le_refl _
  | x :: l => by
    have ih := length_flatMap_filter_le f hle l
    cases hq : q x with
    | true =>
      rw [List.filter_cons_of_pos hq, List.filter_cons_of_pos (hle x hq)]
      simp only [List.flatMap_cons, List.length_append]
      omega
    | false =>
      rw [List.filter_cons_of_neg (by simp [hq]), List.filter_cons]
      split
      · rw [List.flatMap_cons, List.length_append]
        omega
      · exact ih

/-- What stands for the elements of a list gets shorter by the part of an element that no longer counts. -/
theorem length_flatMap_filter_add_le {α β : Type} {p q : α → Bool} {a : α} (f : α → List β)
    (hle : ∀ x, q x = true → p x = true) (hp : p a = true) (hq : q a = false) :
    ∀ {l : List α}, a ∈ l → ((l.filter q).flatMap f).length + (f a).length ≤ ((l.filter p).flatMap f).length
  | [], h => by simp at h
  | x :: l, h => by
    rcases List.mem_cons.mp h with rfl | h
    · have := length_flatMap_filter_le f hle l
      simp only [List.filter_cons, hp, hq, if_true, Bool.false_eq_true, if_false, List.flatMap_cons, List.length_append]
      omega
    · have ih := length_flatMap_filter_add_le f hle hp hq h
      cases hqx : q x with
      | true =>
        simp only [List.filter_cons, hqx, hle x hqx, if_true, List.flatMap_cons, List.length_append]
        omega
      | false =>
        rw [List.filter_cons_of_neg (by simp [hqx]), List.filter_cons]
        split
        · rw [List.flatMap_cons, List.length_append]
          omega
        · exact ih

namespace Containment

/-- The types that a search has expanded. -/
abbrev Visited := Std.TreeSet TypeId TypeId.order

/-- The declared types that are not in `visited`. -/
def unvisited (held : Containment) (visited : Visited) : List TypeId :=
  held.keys.filter fun id => id ∉ visited

/-- What a search can still come to: the unvisited types, each with what it holds. -/
def ahead (held : Containment) (visited : Visited) : List TypeId :=
  (held.unvisited visited).flatMap fun id => id :: held[id]?.getD []

theorem length_ahead_insert_lt {held : Containment} {visited : Visited} {id : TypeId} {contained : List TypeId}
    (hid : held[id]? = some contained) (hv : id ∉ visited) :
    (held.ahead (visited.insert id)).length + contained.length < (held.ahead visited).length := by
  have hmem : id ∈ held.keys := Std.TreeMap.mem_keys.mpr (Std.TreeMap.mem_iff_isSome_getElem?.mpr (by simp [hid]))
  have := length_flatMap_filter_add_le (p := fun x => x ∉ visited) (q := fun x => x ∉ visited.insert id)
    (fun id => id :: held[id]?.getD []) (fun x hx => by
      simp only [Std.TreeSet.mem_insert, not_or, decide_eq_true_eq] at hx ⊢
      exact hx.2) (by simp [hv]) (by simp) hmem
  simp only [hid, Option.getD_some, List.length_cons] at this
  unfold ahead unvisited
  omega

/-- Whether `goal` is one of the types of `pending` or can be reached from one of them over types that are held
    directly, without expanding a type of `visited`. -/
def reaches (held : Containment) (goal : TypeId) (visited : Visited) : List TypeId → Bool
  | [] => false
  | id :: pending =>
    if id = goal then true
    else if _hv : id ∈ visited then reaches held goal visited pending
    else
      match _hm : held[id]? with
      | none => reaches held goal visited pending
      | some contained => reaches held goal (visited.insert id) (contained ++ pending)
termination_by pending => (held.ahead visited).length + pending.length
decreasing_by
  · simp
  · simp
  · have := length_ahead_insert_lt _hm _hv
    simp only [List.length_append, List.length_cons]
    omega

end Containment

namespace MemberTable

/-- Whether a member of `owner` holds a type that contains `owner` again. -/
def closesCycle (table : MemberTable) (held : Containment) (owner : TypeId) (member : Member) : Bool :=
  match member.type.named?.bind table.denoted? with
  | some target => held.reaches owner ∅ [target]
  | none => false

/-- The table with the members boxed by which a type would contain itself. -/
def boxCycles (table : MemberTable) : MemberTable :=
  let held := table.containment
  table.map fun owner members =>
    members.map fun m => { m with boxed := table.closesCycle held owner m }

end MemberTable

end Typewright
