/-!
# Maps sorted by name

A `SortedMap α` holds values under names, as a list of entries in strictly ascending order of their
names. Names are compared character by character, which is also the order of their UTF-8 bytes. The order
is part of the type, so a map is determined by what it answers (`SortedMap.ext_find?`), and listing a map
never depends on how it was built. `find?_insert` and `find?_unionWith` say what the two ways to grow a map
do to its answers.
-/

namespace Typewright

/-- Values under names, in strictly ascending order of the names. -/
structure SortedMap (α : Type) where
  entries : List (String × α)
  ascending : entries.Pairwise fun a b => a.1 < b.1

namespace SortedMap

variable {α β : Type}

/-! ### Lists of entries -/

/-- The value of the first entry under `k`. -/
def findEntry (k : String) : List (String × α) → Option α
  | [] => none
  | (k', v) :: rest => if k' = k then some v else findEntry k rest

/-- `xs` with `v` under `k`, in the place that keeps the order; an entry under `k` is replaced. -/
def insertEntry (k : String) (v : α) : List (String × α) → List (String × α)
  | [] => [(k, v)]
  | (k', v') :: rest =>
    if k < k' then (k, v) :: (k', v') :: rest
    else if k = k' then (k, v) :: rest
    else (k', v') :: insertEntry k v rest

/-- The entries of both lists; where both have a name, `f` combines the values. -/
def unionEntries (f : α → α → α) : List (String × α) → List (String × α) → List (String × α)
  | [], bs => bs
  | a :: as, [] => a :: as
  | a :: as, b :: bs =>
    if a.1 < b.1 then a :: unionEntries f as (b :: bs)
    else if b.1 < a.1 then b :: unionEntries f (a :: as) bs
    else (a.1, f a.2 b.2) :: unionEntries f as bs
termination_by as bs => as.length + bs.length

theorem lt_or_eq_or_gt (a b : String) : a < b ∨ a = b ∨ b < a := by
  by_cases h : a < b
  · exact .inl h
  · by_cases h' : b < a
    · exact .inr (.inr h')
    · exact .inr (.inl (String.le_antisymm (String.not_lt.mp h') (String.not_lt.mp h)))

theorem ne_of_lt {a b : String} (h : a < b) : a ≠ b := fun e => String.lt_irrefl b (e ▸ h)

theorem mem_insertEntry {k : String} {v : α} {e : String × α} :
    ∀ {xs : List (String × α)}, e ∈ insertEntry k v xs → e = (k, v) ∨ e ∈ xs
  | [], h => by simpa [insertEntry] using h
  | (k', v') :: rest, h => by
    unfold insertEntry at h
    split at h
    · simpa using h
    · split at h
      · rcases List.mem_cons.mp h with h | h
        · exact .inl h
        · exact .inr (List.mem_cons_of_mem _ h)
      · rcases List.mem_cons.mp h with h | h
        · exact .inr (h ▸ List.mem_cons_self)
        · rcases mem_insertEntry h with h | h
          · exact .inl h
          · exact .inr (List.mem_cons_of_mem _ h)

theorem insertEntry_ascending {k : String} {v : α} :
    ∀ {xs : List (String × α)}, xs.Pairwise (fun a b => a.1 < b.1) →
      (insertEntry k v xs).Pairwise fun a b => a.1 < b.1
  | [], _ => by simp [insertEntry]
  | (k', v') :: rest, h => by
    obtain ⟨hhead, htail⟩ := List.pairwise_cons.mp h
    unfold insertEntry
    split
    · rename_i hlt
      refine List.pairwise_cons.mpr ⟨fun e he => ?_, h⟩
      rcases List.mem_cons.mp he with rfl | he
      · exact hlt
      · exact String.lt_trans hlt (hhead e he)
    · rename_i hlt
      split
      · rename_i heq
        exact List.pairwise_cons.mpr ⟨fun e he => heq ▸ hhead e he, htail⟩
      · rename_i hne
        refine List.pairwise_cons.mpr ⟨fun e he => ?_, insertEntry_ascending htail⟩
        rcases mem_insertEntry he with rfl | he
        · rcases lt_or_eq_or_gt k k' with h | h | h
          · exact absurd h hlt
          · exact absurd h hne
          · exact h
        · exact hhead e he

theorem key_mem_unionEntries {f : α → α → α} {k : String} (xs ys : List (String × α))
    (h : k ∈ (unionEntries f xs ys).map (·.1)) : k ∈ xs.map (·.1) ∨ k ∈ ys.map (·.1) := by
  fun_induction unionEntries f xs ys with
  | case1 ys => exact .inr h
  | case2 a as => exact .inl h
  | case3 a as b bs hlt ih =>
    simp only [List.map_cons, List.mem_cons] at h ih ⊢
    rcases h with h | h
    · exact .inl (.inl h)
    · rcases ih h with h | h
      · exact .inl (.inr h)
      · exact .inr h
  | case4 a as b bs _ hlt ih =>
    simp only [List.map_cons, List.mem_cons] at h ih ⊢
    rcases h with h | h
    · exact .inr (.inl h)
    · rcases ih h with h | h
      · exact .inl h
      · exact .inr (.inr h)
  | case5 a as b bs _ _ ih =>
    simp only [List.map_cons, List.mem_cons] at h ih ⊢
    rcases h with h | h
    · exact .inl (.inl h)
    · rcases ih h with h | h
      · exact .inl (.inr h)
      · exact .inr (.inr h)

theorem ascending_iff {xs : List (String × α)} :
    (xs.Pairwise fun a b => a.1 < b.1) ↔ (xs.map (·.1)).Pairwise (· < ·) := by
  rw [List.pairwise_map]

theorem unionEntries_ascending {f : α → α → α} (xs ys : List (String × α))
    (hx : xs.Pairwise fun a b => a.1 < b.1) (hy : ys.Pairwise fun a b => a.1 < b.1) :
    (unionEntries f xs ys).Pairwise fun a b => a.1 < b.1 := by
  rw [ascending_iff] at hx hy ⊢
  fun_induction unionEntries f xs ys with
  | case1 ys => exact hy
  | case2 a as => exact hx
  | case3 a as b bs hlt ih =>
    simp only [List.map_cons, List.pairwise_cons] at hx hy ih ⊢
    refine ⟨fun k hk => ?_, ih hx.2 hy⟩
    rcases key_mem_unionEntries _ _ hk with hk | hk
    · exact hx.1 k hk
    · rcases List.mem_cons.mp (by simpa using hk : k ∈ b.1 :: bs.map (·.1)) with rfl | hk
      · exact hlt
      · exact String.lt_trans hlt (hy.1 k hk)
  | case4 a as b bs _ hlt ih =>
    simp only [List.map_cons, List.pairwise_cons] at hx hy ih ⊢
    refine ⟨fun k hk => ?_, ih hx hy.2⟩
    rcases key_mem_unionEntries _ _ hk with hk | hk
    · rcases List.mem_cons.mp (by simpa using hk : k ∈ a.1 :: as.map (·.1)) with rfl | hk
      · exact hlt
      · exact String.lt_trans hlt (hx.1 k hk)
    · exact hy.1 k hk
  | case5 a as b bs h₁ h₂ ih =>
    have hab : a.1 = b.1 := String.le_antisymm (String.not_lt.mp h₂) (String.not_lt.mp h₁)
    simp only [List.map_cons, List.pairwise_cons] at hx hy ih ⊢
    refine ⟨fun k hk => ?_, ih hx.2 hy.2⟩
    rcases key_mem_unionEntries _ _ hk with hk | hk
    · exact hx.1 k hk
    · exact hab ▸ hy.1 k hk

/-! ### Operations -/

def empty : SortedMap α := ⟨[], List.Pairwise.nil⟩

instance : Inhabited (SortedMap α) := ⟨empty⟩

/-- The value under `k`. -/
def find? (m : SortedMap α) (k : String) : Option α := findEntry k m.entries

def contains (m : SortedMap α) (k : String) : Bool := (m.find? k).isSome

/-- `m` with `v` under `k`, whatever was there before. -/
def insert (m : SortedMap α) (k : String) (v : α) : SortedMap α :=
  ⟨insertEntry k v m.entries, insertEntry_ascending m.ascending⟩

/-- Both maps together; `f` combines the values of a name that both have. -/
def unionWith (f : α → α → α) (m n : SortedMap α) : SortedMap α :=
  ⟨unionEntries f m.entries n.entries, unionEntries_ascending _ _ m.ascending n.ascending⟩

/-- The map of the pairs of `xs`, a later pair winning over an earlier one of the same name. -/
def ofList (xs : List (String × α)) : SortedMap α := xs.foldl (fun m e => m.insert e.1 e.2) empty

def keys (m : SortedMap α) : List String := m.entries.map (·.1)

def values (m : SortedMap α) : List α := m.entries.map (·.2)

def size (m : SortedMap α) : Nat := m.entries.length

def isEmpty (m : SortedMap α) : Bool := m.entries.isEmpty

/-- Every value replaced by `f` of its name and itself. -/
def map (f : String → α → β) (m : SortedMap α) : SortedMap β where
  entries := m.entries.map fun e => (e.1, f e.1 e.2)
  ascending := List.pairwise_map.mpr m.ascending

/-- The entries under the results of `f`, or the first error in order of names. -/
def traverseEntries {ε : Type} (f : String → α → Except ε β) :
    (xs : List (String × α)) → Except ε { ys : List (String × β) // ys.map (·.1) = xs.map (·.1) }
  | [] => .ok ⟨[], rfl⟩
  | (k, v) :: rest =>
    match f k v with
    | .error e => .error e
    | .ok w =>
      match traverseEntries f rest with
      | .error e => .error e
      | .ok ⟨ws, h⟩ => .ok ⟨(k, w) :: ws, by simp [h]⟩

/-- `map` for a function that may fail: the first error in order of names is the answer. -/
def traverse {ε : Type} (f : String → α → Except ε β) (m : SortedMap α) : Except ε (SortedMap β) :=
  match traverseEntries f m.entries with
  | .error e => .error e
  | .ok ⟨ys, h⟩ => .ok ⟨ys, ascending_iff.mpr (h ▸ ascending_iff.mp m.ascending)⟩

/-! ### What the operations answer -/

theorem findEntry_eq_none_of_forall_lt {k : String} :
    ∀ {xs : List (String × α)}, (∀ e ∈ xs, k < e.1) → findEntry k xs = none
  | [], _ => rfl
  | (k', v) :: rest, h => by
    have hk : ¬ k' = k := fun e => ne_of_lt (h (k', v) List.mem_cons_self) e.symm
    simp [findEntry, hk, findEntry_eq_none_of_forall_lt fun e he => h e (List.mem_cons_of_mem _ he)]

theorem findEntry_insertEntry (k k' : String) (v : α) :
    ∀ {xs : List (String × α)},
      findEntry k' (insertEntry k v xs) = if k = k' then some v else findEntry k' xs
  | [] => by simp [insertEntry, findEntry]
  | (k₀, v₀) :: rest => by
    unfold insertEntry
    split
    · simp [findEntry]
    · split
      · rename_i h
        subst h
        by_cases hk : k = k' <;> simp [findEntry, hk]
      · rename_i hne
        rw [findEntry, findEntry_insertEntry k k' v, findEntry]
        by_cases hk : k₀ = k'
        · have : ¬ k = k' := fun e => hne (e.trans hk.symm)
          simp [hk, this]
        · simp [hk]

@[simp] theorem find?_insert (m : SortedMap α) (k k' : String) (v : α) :
    (m.insert k v).find? k' = if k = k' then some v else m.find? k' :=
  findEntry_insertEntry k k' v

@[simp] theorem find?_empty (k : String) : (empty : SortedMap α).find? k = none := rfl

theorem findEntry_unionEntries {f : α → α → α} (k : String) (xs ys : List (String × α))
    (hx : xs.Pairwise fun a b => a.1 < b.1) (hy : ys.Pairwise fun a b => a.1 < b.1) :
    findEntry k (unionEntries f xs ys) =
      match findEntry k xs, findEntry k ys with
      | some v, some w => some (f v w)
      | some v, none => some v
      | none, w => w := by
  fun_induction unionEntries f xs ys with
  | case1 ys => simp [findEntry]
  | case2 a as => cases findEntry k (a :: as) <;> simp [findEntry]
  | case3 a as b bs hlt ih =>
    have hx' := List.pairwise_cons.mp hx
    have hy' := List.pairwise_cons.mp hy
    rw [show findEntry k (a :: unionEntries f as (b :: bs)) =
      if a.1 = k then some a.2 else findEntry k (unionEntries f as (b :: bs)) from rfl,
      ih hx'.2 hy, show findEntry k (a :: as) = if a.1 = k then some a.2 else findEntry k as from rfl]
    by_cases hk : a.1 = k
    · have hb : findEntry k (b :: bs) = none := findEntry_eq_none_of_forall_lt fun e he => by
        rcases List.mem_cons.mp he with rfl | he
        · exact hk ▸ hlt
        · exact hk ▸ String.lt_trans hlt (hy'.1 e he)
      simp [hk, hb]
    · simp [hk]
  | case4 a as b bs hge hlt ih =>
    have hx' := List.pairwise_cons.mp hx
    have hy' := List.pairwise_cons.mp hy
    rw [show findEntry k (b :: unionEntries f (a :: as) bs) =
      if b.1 = k then some b.2 else findEntry k (unionEntries f (a :: as) bs) from rfl,
      ih hx hy'.2, show findEntry k (b :: bs) = if b.1 = k then some b.2 else findEntry k bs from rfl]
    by_cases hk : b.1 = k
    · have ha : findEntry k (a :: as) = none := findEntry_eq_none_of_forall_lt fun e he => by
        rcases List.mem_cons.mp he with rfl | he
        · exact hk ▸ hlt
        · exact hk ▸ String.lt_trans hlt (hx'.1 e he)
      simp [hk, ha]
    · simp [hk]
  | case5 a as b bs h₁ h₂ ih =>
    have hab : a.1 = b.1 := String.le_antisymm (String.not_lt.mp h₂) (String.not_lt.mp h₁)
    have hx' := List.pairwise_cons.mp hx
    have hy' := List.pairwise_cons.mp hy
    rw [show findEntry k ((a.1, f a.2 b.2) :: unionEntries f as bs) =
      if a.1 = k then some (f a.2 b.2) else findEntry k (unionEntries f as bs) from rfl,
      ih hx'.2 hy'.2, show findEntry k (a :: as) = if a.1 = k then some a.2 else findEntry k as from rfl,
      show findEntry k (b :: bs) = if b.1 = k then some b.2 else findEntry k bs from rfl, ← hab]
    by_cases hk : a.1 = k <;> simp [hk]

/-- A name of one side keeps its value, a name of both gets the combined one. -/
theorem find?_unionWith (f : α → α → α) (m n : SortedMap α) (k : String) :
    (m.unionWith f n).find? k =
      match m.find? k, n.find? k with
      | some v, some w => some (f v w)
      | some v, none => some v
      | none, w => w :=
  findEntry_unionEntries k _ _ m.ascending n.ascending

theorem entries_ext {xs ys : List (String × α)} (hx : xs.Pairwise fun a b => a.1 < b.1)
    (hy : ys.Pairwise fun a b => a.1 < b.1) (h : ∀ k, findEntry k xs = findEntry k ys) : xs = ys := by
  induction xs generalizing ys with
  | nil =>
    cases ys with
    | nil => rfl
    | cons b bs => simpa [findEntry] using h b.1
  | cons a as ih =>
    cases ys with
    | nil => simpa [findEntry] using h a.1
    | cons b bs =>
      have hx' := List.pairwise_cons.mp hx
      have hy' := List.pairwise_cons.mp hy
      have hab : a.1 = b.1 := by
        rcases lt_or_eq_or_gt a.1 b.1 with hlt | heq | hlt
        · have hnone : findEntry a.1 (b :: bs) = none := findEntry_eq_none_of_forall_lt fun e he => by
            rcases List.mem_cons.mp he with rfl | he
            · exact hlt
            · exact String.lt_trans hlt (hy'.1 e he)
          have := h a.1
          rw [hnone] at this
          simp [findEntry] at this
        · exact heq
        · have hnone : findEntry b.1 (a :: as) = none := findEntry_eq_none_of_forall_lt fun e he => by
            rcases List.mem_cons.mp he with rfl | he
            · exact hlt
            · exact String.lt_trans hlt (hx'.1 e he)
          have := h b.1
          rw [hnone] at this
          simp [findEntry] at this
      have hv : a.2 = b.2 := by
        have := h a.1
        simpa [findEntry, hab] using this
      have htail : as = bs := ih hx'.2 hy'.2 fun k => by
        by_cases hk : a.1 = k
        · rw [findEntry_eq_none_of_forall_lt fun e he => hk ▸ hx'.1 e he,
            findEntry_eq_none_of_forall_lt fun e he => hk ▸ hab ▸ hy'.1 e he]
        · have hk' : ¬ b.1 = k := hab ▸ hk
          have := h k
          simpa [findEntry, hk, hk'] using this
      rw [htail, show a = b from Prod.ext hab hv]

/-- Maps that answer alike are equal. -/
theorem ext_find? {m n : SortedMap α} (h : ∀ k, m.find? k = n.find? k) : m = n := by
  obtain ⟨xs, hx⟩ := m
  obtain ⟨ys, hy⟩ := n
  have := entries_ext hx hy h
  subst this
  rfl

end SortedMap

end Typewright
