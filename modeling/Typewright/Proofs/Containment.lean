import Mathlib.Logic.Relation
import Typewright.Proofs.Emitted

/-! # Containment without cycles

The search of `Containment.reaches` finds a type if and only if it can be reached over members that are held directly
(`reaches_iff`): a path that avoids the expanded types either avoids the next one too or goes on from one of the types
that this one holds. Hence exactly the members whose type reaches their owner again are boxed, what is left of the
containment graph has no cycle, and the order in which the types are gone through does not matter. -/

namespace Typewright
open Relation

/-! ### The search -/

namespace Containment
variable {held : Containment} {visited : Visited} {goal id p : TypeId}

/-- `b` is held by `a`, and `a` has not been expanded. -/
def Step (held : Containment) (visited : Visited) (a b : TypeId) : Prop := a ∉ visited ∧ b ∈ held[a]?.getD []

theorem Step.of_insert {a b : TypeId} (h : held.Step (visited.insert id) a b) : held.Step visited a b :=
  ⟨fun hmem => h.1 (Std.TreeSet.mem_insert.mpr (Or.inr hmem)), h.2⟩

/-- A path to the goal avoids `id`, or from `id` on it leads through a type that `id` holds. -/
theorem avoids_or_leaves (id : TypeId) (h : ReflTransGen (held.Step visited) p goal) :
    ReflTransGen (held.Step (visited.insert id)) p goal ∨
      ∃ c ∈ held[id]?.getD [], ReflTransGen (held.Step (visited.insert id)) c goal := by
  induction h using ReflTransGen.head_induction_on with
  | refl => exact Or.inl ReflTransGen.refl
  | @head a c hstep _ ih =>
    rcases ih with ih | ih
    · by_cases ha : a = id
      · subst ha
        exact Or.inr ⟨c, hstep.2, ih⟩
      · refine Or.inl (ReflTransGen.head ⟨fun hmem => ?_, hstep.2⟩ ih)
        rcases Std.TreeSet.mem_insert.mp hmem with heq | hmem
        · exact ha (TypeId.order_eq_iff.mp heq).symm
        · exact hstep.1 hmem
    · exact Or.inr ih

/-- From a type that holds nothing, or that has been expanded, only the type itself is reached. -/
theorem eq_of_path (h : ReflTransGen (held.Step visited) id goal) (hid : ∀ b, ¬ held.Step visited id b) :
    id = goal := by
  rcases ReflTransGen.cases_head h with heq | ⟨b, hstep, -⟩
  · exact heq
  · exact absurd hstep (hid b)

/-- The search succeeds if and only if there is a path from a pending type that expands no visited one. -/
theorem reaches_iff {pending : List TypeId} :
    held.reaches goal visited pending = true ↔ ∃ p ∈ pending, ReflTransGen (held.Step visited) p goal := by
  fun_induction reaches held goal visited pending with
  | case1 => simp
  | case2 visited pending =>
    exact ⟨fun _ => ⟨goal, List.mem_cons_self, ReflTransGen.refl⟩, fun _ => rfl⟩
  | case3 visited id pending hne hv ih =>
    rw [ih]
    constructor
    · rintro ⟨p, hp, hpath⟩
      exact ⟨p, List.mem_cons_of_mem _ hp, hpath⟩
    · rintro ⟨p, hp, hpath⟩
      rcases List.mem_cons.mp hp with rfl | hp
      · exact absurd (eq_of_path hpath fun b hstep => hstep.1 hv) hne
      · exact ⟨p, hp, hpath⟩
  | case4 visited id pending hne hv hnone ih =>
    rw [ih]
    constructor
    · rintro ⟨p, hp, hpath⟩
      exact ⟨p, List.mem_cons_of_mem _ hp, hpath⟩
    · rintro ⟨p, hp, hpath⟩
      rcases List.mem_cons.mp hp with rfl | hp
      · refine absurd (eq_of_path hpath fun b hstep => ?_) hne
        have hmem := hstep.2
        rw [hnone] at hmem
        exact List.not_mem_nil hmem
      · exact ⟨p, hp, hpath⟩
  | case5 visited id pending hne hv contained hsome ih =>
    rw [ih]
    constructor
    · rintro ⟨p, hp, hpath⟩
      have hpath' := ReflTransGen.mono (fun _ _ => Step.of_insert) _ _ hpath
      rcases List.mem_append.mp hp with hp | hp
      · refine ⟨id, List.mem_cons_self, ReflTransGen.head ⟨hv, ?_⟩ hpath'⟩
        rw [hsome]
        exact hp
      · exact ⟨p, List.mem_cons_of_mem _ hp, hpath'⟩
    · rintro ⟨p, hp, hpath⟩
      rcases avoids_or_leaves id hpath with hpath | ⟨c, hc, hpath⟩
      · rcases List.mem_cons.mp hp with rfl | hp
        · -- A path from `id` that does not expand `id` is empty, but `id` is not the goal.
          refine absurd (eq_of_path hpath fun b hstep => hstep.1 ?_) hne
          exact Std.TreeSet.mem_insert_self
        · exact ⟨p, List.mem_append_right _ hp, hpath⟩
      · rw [hsome] at hc
        exact ⟨c, List.mem_append_left _ hc, hpath⟩

end Containment

/-! ### The graph of a table -/

namespace MemberTable
variable {table : MemberTable}

/-- A member of the type `p` holds the type `q` directly. -/
def Holds (table : MemberTable) (p q : TypeId) : Prop :=
  ∃ members, table.find? p = some members ∧ ∃ m ∈ members, m.type.named?.bind table.denoted? = some q

theorem getElem?_containment (table : MemberTable) (id : TypeId) :
    table.containment[id]? = (table.find? id).map table.heldBy := by
  have hkeys : ((table.toList.map fun e => (e.1, table.heldBy e.2)).map (·.1)).Nodup := by
    rw [List.map_map]
    exact table.nodup_toList
  have hdistinct : (table.toList.map fun e => (e.1, table.heldBy e.2)).Pairwise fun a b =>
      ¬ TypeId.order a.1 b.1 = .eq := by
    rw [List.Nodup, List.pairwise_map] at hkeys
    exact hkeys.imp fun hne heq => hne (TypeId.order_eq_iff.mp heq)
  cases hfind : table.find? id with
  | some members =>
    have hmem : (id, table.heldBy members) ∈ table.toList.map fun e => (e.1, table.heldBy e.2) :=
      List.mem_map.mpr ⟨(id, members), Catalogue.mem_toList_iff.mpr hfind, rfl⟩
    exact Std.TreeMap.getElem?_ofList_of_mem (Std.ReflCmp.compare_self) hdistinct hmem
  | none =>
    refine Std.TreeMap.getElem?_ofList_of_contains_eq_false (Bool.eq_false_iff.mpr fun hmem => ?_)
    rw [List.contains_iff_mem, List.map_map] at hmem
    obtain ⟨e, he, rfl⟩ := List.mem_map.mp hmem
    rw [Function.comp_apply, Catalogue.mem_toList_iff.mp he] at hfind
    cases hfind

theorem step_containment_iff {p q : TypeId} : table.containment.Step ∅ p q ↔ table.Holds p q := by
  rw [Containment.Step, getElem?_containment, Holds]
  simp only [Std.TreeSet.not_mem_emptyc, not_false_iff, true_and]
  cases table.find? p with
  | none => simp
  | some members => simp [heldBy]

/-- The search over a table finds exactly the types that can be reached over members that are held directly. -/
theorem reaches_containment_iff {p q : TypeId} :
    table.containment.reaches q ∅ [p] = true ↔ ReflTransGen table.Holds p q := by
  have hstep : table.containment.Step ∅ = table.Holds := by
    funext p q
    exact propext step_containment_iff
  rw [Containment.reaches_iff, hstep]
  simp

/-- A member closes a cycle if and only if what it holds reaches the owner. -/
theorem closesCycle_iff {owner : TypeId} {m : Member} : table.closesCycle table.containment owner m = true ↔
    ∃ target, m.type.named?.bind table.denoted? = some target ∧ ReflTransGen table.Holds target owner := by
  rw [closesCycle]
  split
  · rename_i target htarget
    rw [reaches_containment_iff]
    simp [htarget]
  · rename_i hnone
    simp [hnone]

/-! ### Boxing in any order -/

/-- The places of the members that close a cycle, where the types are gone through in the order of `order`. -/
def cyclicPlaces (table : MemberTable) (order : List TypeId) : List (TypeId × Nat) :=
  order.flatMap fun owner =>
    (((table.find? owner).getD []).zipIdx.filter fun e => table.closesCycle table.containment owner e.1).map
      fun e => (owner, e.2)

/-- The table with the member at `place` boxed. -/
def boxAt (table : MemberTable) (place : TypeId × Nat) : MemberTable :=
  match table.find? place.1 with
  | some members => table.insert place.1 (members.modify place.2 fun m => { m with boxed := true })
  | none => table

/-- All places are collected in the order of `order` before the first member is boxed. -/
def boxInOrder (table : MemberTable) (order : List TypeId) : MemberTable := (table.cyclicPlaces order).foldl boxAt table

theorem mem_cyclicPlaces_iff {order : List TypeId} {id : TypeId} {i : Nat} : (id, i) ∈ table.cyclicPlaces order ↔
    id ∈ order ∧ ∃ m, ((table.find? id).getD [])[i]? = some m ∧ table.closesCycle table.containment id m = true := by
  simp only [cyclicPlaces, List.mem_flatMap, List.mem_map, List.mem_filter, List.mem_zipIdx_iff_getElem?, Prod.exists,
    Prod.mk.injEq]
  constructor
  · rintro ⟨owner, howner, m, j, ⟨hm, hcloses⟩, rfl, rfl⟩
    exact ⟨howner, m, hm, hcloses⟩
  · rintro ⟨hid, m, hm, hcloses⟩
    exact ⟨id, hid, m, i, ⟨hm, hcloses⟩, rfl, rfl⟩

theorem find?_boxAt (table : MemberTable) (place : TypeId × Nat) (id : TypeId) : (table.boxAt place).find? id =
    (table.find? id).map fun members =>
      members.mapIdx fun i m => if (id, i) = place then { m with boxed := true } else m := by
  obtain ⟨owner, index⟩ := place
  rw [boxAt]
  by_cases howner : owner = id
  · subst howner
    cases hfind : table.find? owner with
    | none => simp [hfind]
    | some members =>
      rw [Catalogue.find?_insert, if_pos rfl, Option.map_some, Option.some.injEq]
      refine List.ext_getElem? fun i => ?_
      rw [List.getElem?_modify, List.getElem?_mapIdx]
      by_cases hi : index = i
      · simp [hi]
      · have hi' : ¬ i = index := fun h => hi h.symm
        simp [hi, hi']
  · have hplace : ∀ i, ¬ (id, i) = (owner, index) := fun i h => howner (congrArg Prod.fst h).symm
    have hsame : ∀ members : List Member, (members.mapIdx fun i m =>
        if (id, i) = (owner, index) then { m with boxed := true } else m) = members := by
      intro members
      refine List.ext_getElem? fun i => ?_
      simp [List.getElem?_mapIdx, hplace]
    simp only [hsame, Option.map_id']
    split
    · rw [Catalogue.find?_insert, if_neg howner]
    · rfl

/-- Boxing one place after the other boxes the members at these places and changes nothing else. -/
theorem find?_foldl_boxAt (id : TypeId) : ∀ (places : List (TypeId × Nat)) (table : MemberTable),
    (places.foldl boxAt table).find? id = (table.find? id).map fun members =>
      members.mapIdx fun i m => if (id, i) ∈ places then { m with boxed := true } else m
  | [], table => by
    have hsame : ∀ members : List Member, (members.mapIdx fun _ m => m) = members := fun members =>
      List.ext_getElem? fun i => by simp [List.getElem?_mapIdx]
    simp [hsame]
  | place :: places, table => by
    rw [List.foldl_cons, find?_foldl_boxAt id places, find?_boxAt, Option.map_map]
    congr 1
    funext members
    refine List.ext_getElem? fun i => ?_
    simp only [Function.comp_apply, List.getElem?_mapIdx, Option.map_map, List.mem_cons]
    congr 1
    funext m
    by_cases hplace : (id, i) = place <;> by_cases hrest : (id, i) ∈ places <;> simp [hplace, hrest]

/-- Whatever the order in which the types are gone through, the same members are boxed. -/
theorem boxInOrder_eq {order : List TypeId} (hunboxed : ∀ id members, table.find? id = some members →
    ∀ m ∈ members, m.boxed = false) (horder : ∀ id, (table.find? id).isSome → id ∈ order) (id : TypeId) :
    (table.boxInOrder order).find? id = table.boxCycles.find? id := by
  rw [boxInOrder, find?_foldl_boxAt, Emission.find?_boxCycles]
  cases hfind : table.find? id with
  | none => rfl
  | some members =>
    rw [Option.map_some, Option.map_some, Option.some.injEq]
    refine List.ext_getElem? fun i => ?_
    rw [List.getElem?_mapIdx, List.getElem?_map]
    cases hm : members[i]? with
    | none => rfl
    | some m =>
      have hmem : (id, i) ∈ table.cyclicPlaces order ↔ table.closesCycle table.containment id m = true := by
        rw [mem_cyclicPlaces_iff, hfind, Option.getD_some, hm]
        constructor
        · rintro ⟨-, m', hm', hcloses⟩
          rwa [Option.some.inj hm']
        · exact fun hcloses => ⟨horder id (by rw [hfind]; rfl), m, rfl, hcloses⟩
      have hm₀ : m.boxed = false := hunboxed id members hfind m (List.mem_of_getElem? hm)
      rw [Option.map_some, Option.map_some, Option.some.injEq]
      split
      · rename_i hplace
        rw [hmem.mp hplace]
      · rename_i hplace
        rw [Bool.eq_false_iff.mpr fun hcloses => hplace (hmem.mpr hcloses), ← hm₀]

end MemberTable

/-! ### The graph of a bundle -/

namespace Bundle

/-- The type that a member holds directly, if its type is a single reference. -/
def held? (b : Bundle) (m : Member) : Option TypeId := m.type.named?.bind b.denoted?

/-- A member of the data type of `p` holds the type `q` directly. -/
def Holds (b : Bundle) (p q : TypeId) : Prop :=
  ∃ a ∈ b.artifacts, a.id = p ∧ ∃ m ∈ a.data.members, b.held? m = some q

/-- A member of the data type of `p` holds the type `q` directly and is not boxed. -/
def HoldsByValue (b : Bundle) (p q : TypeId) : Prop :=
  ∃ a ∈ b.artifacts, a.id = p ∧ ∃ m ∈ a.data.members, m.boxed = false ∧ b.held? m = some q

theorem HoldsByValue.holds {b : Bundle} {p q : TypeId} (h : b.HoldsByValue p q) : b.Holds p q := by
  obtain ⟨a, ha, hid, m, hm, -, hheld⟩ := h
  exact ⟨a, ha, hid, m, hm, hheld⟩

end Bundle

namespace Emission
variable {schema : Schema} {config : Config} {table : MemberTable} {artifacts : Catalogue Artifact} {a : Artifact}

theorem Emits.held?_eq (h : Emits schema config table artifacts) (m : Member) :
    (Bundle.ofCatalogue artifacts).held? m = m.type.named?.bind table.denoted? := by
  rw [Bundle.held?, funext h.denoted?_bundle]

theorem Emits.holds_iff (h : Emits schema config table artifacts) {p q : TypeId} :
    (Bundle.ofCatalogue artifacts).Holds p q ↔ table.Holds p q := by
  constructor
  · rintro ⟨a, ha, rfl, m, hm, hheld⟩
    obtain ⟨members, hfind, heq⟩ := h.members_boxed ha
    rw [heq] at hm
    obtain ⟨m₀, hm₀, rfl⟩ := List.mem_map.mp hm
    exact ⟨members, hfind, m₀, hm₀, h.held?_eq m₀ ▸ hheld⟩
  · rintro ⟨members, hfind, m, hm, hheld⟩
    have hsome : (table.find? p).isSome = true := by rw [hfind]; rfl
    obtain ⟨a, ha, rfl⟩ := h.exists_artifact hsome
    obtain ⟨members', hfind', heq⟩ := h.members_boxed ha
    rw [hfind] at hfind'
    cases hfind'
    refine ⟨a, ha, rfl, _, heq ▸ List.mem_map_of_mem hm, ?_⟩
    rw [h.held?_eq]
    exact hheld

/-- A member is boxed if and only if what it holds contains its owner again. -/
theorem Emits.boxed_iff (h : Emits schema config table artifacts) (ha : a ∈ (Bundle.ofCatalogue artifacts).artifacts)
    {m : Member} (hm : m ∈ a.data.members) : m.boxed = true ↔ ∃ target,
      (Bundle.ofCatalogue artifacts).held? m = some target ∧
        ReflTransGen (Bundle.ofCatalogue artifacts).Holds target a.id := by
  obtain ⟨members, -, heq⟩ := h.members_boxed ha
  have hgraph : (Bundle.ofCatalogue artifacts).Holds = table.Holds := by
    funext p q
    exact propext h.holds_iff
  rw [heq] at hm
  obtain ⟨m₀, -, rfl⟩ := List.mem_map.mp hm
  rw [hgraph, h.held?_eq, MemberTable.closesCycle_iff]

/-- No data type contains itself over members that are not boxed: the first of them would be on a cycle. -/
theorem Emits.acyclic (h : Emits schema config table artifacts) (id : TypeId) :
    ¬ TransGen (Bundle.ofCatalogue artifacts).HoldsByValue id id := by
  intro hcycle
  obtain ⟨target, ⟨a, ha, rfl, m, hm, hunboxed, hheld⟩, hpath⟩ := TransGen.head'_iff.mp hcycle
  have hpath' := ReflTransGen.mono (fun _ _ => Bundle.HoldsByValue.holds) _ _ hpath
  have hboxed := (h.boxed_iff ha hm).mpr ⟨target, hheld, hpath'⟩
  rw [hunboxed] at hboxed
  cases hboxed

/-- In the containment graph of an emitted bundle the boxed members are exactly the edges on cycles, so the unboxed
    ones form no cycle; and they are the same in whatever order the types are gone through. -/
theorem boxed_iff_on_cycle {bundle : Bundle} (h : Bundle.ofSchema schema config = .ok bundle) :
    (∀ a ∈ bundle.artifacts, ∀ m ∈ a.data.members, m.boxed = true ↔
        ∃ target, bundle.held? m = some target ∧ ReflTransGen bundle.Holds target a.id) ∧
      (∀ id, ¬ TransGen bundle.HoldsByValue id id) ∧
      ∃ table, memberTable schema = .ok table ∧ ∀ order : List TypeId, (∀ id, (schema.find? id).isSome → id ∈ order) →
        ∀ a ∈ bundle.artifacts, (table.boxInOrder order).find? a.id = some a.data.members := by
  obtain ⟨table, artifacts, hE, rfl⟩ := ofSchema_ok h
  refine ⟨fun a ha m hm => hE.boxed_iff ha hm, hE.acyclic, table, hE.resolved, fun order horder a ha => ?_⟩
  rw [MemberTable.boxInOrder_eq (fun id members => hE.unboxed) fun id hid => ?_]
  · exact hE.members_eq ha
  · obtain ⟨members, hfind⟩ := Option.isSome_iff_exists.mp hid
    obtain ⟨spec, hspec, -⟩ := hE.find?_table_iff.mp hfind
    exact horder id (by rw [hspec]; rfl)

/-- Two types on a cycle, a type that holds itself, and two that only lead to the cycle: one over a list, the other a
    resource type that shares its name with a type of the cycle. -/
def entangled : Schema where
  properties := .ofList [
    ("Group", { fields := .ofList [("All", .listOf "Statement")] }),
    ("Loop", { fields := .ofList [("Next", .nested "Loop")] }),
    ("Not", { fields := .ofList [("Statement", (Field.nested "Statement").withRequired true)] }),
    ("Statement", { fields := .ofList [("Not", .nested "Not")] })]
  resources := .ofList [("Statement", { fields := .ofList [("Inner", .nested "Statement")] })]

theorem boxed_iff_on_cycle_entangled : ∃ bundle, Bundle.ofSchema entangled {} = .ok bundle ∧
    (∀ a ∈ bundle.artifacts, ∀ m ∈ a.data.members, m.boxed = true ↔
        ∃ target, bundle.held? m = some target ∧ ReflTransGen bundle.Holds target a.id) ∧
      (∀ id, ¬ TransGen bundle.HoldsByValue id id) ∧
      ∃ table, memberTable entangled = .ok table ∧
        ∀ order : List TypeId, (∀ id, (entangled.find? id).isSome → id ∈ order) →
          ∀ a ∈ bundle.artifacts, (table.boxInOrder order).find? a.id = some a.data.members := by
  obtain ⟨bundle, h⟩ := exists_eq_ok (x := Bundle.ofSchema entangled {}) (by decide +kernel)
  exact ⟨bundle, h, boxed_iff_on_cycle h⟩

end Emission

end Typewright
