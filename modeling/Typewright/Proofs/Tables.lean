import Mathlib.Data.List.Forall2
import Mathlib.Data.List.Nodup
import Typewright.Catalogue

/-! # What maps and catalogues answer

An entry of a sorted map is what the map answers under its name. From this follow the answers of `map` and
`traverse`, for one map and for the two sections of a catalogue: a traversal that succeeds has the names it started
from, and under each of them what the function gave. A computation of steps fails only with what one of them fails
with. -/

namespace Typewright

theorem exists_of_mem_right {α β : Type} {R : α → β → Prop} {xs : List α} {ys : List β} (h : List.Forall₂ R xs ys)
    {y : β} (hy : y ∈ ys) : ∃ x ∈ xs, R x y := by
  induction h with
  | nil => cases hy
  | cons hxy _ ih =>
    rcases List.mem_cons.mp hy with rfl | hy
    · exact ⟨_, List.mem_cons_self, hxy⟩
    · obtain ⟨x, hx, hr⟩ := ih hy
      exact ⟨x, List.mem_cons_of_mem _ hx, hr⟩

theorem exists_of_mem_left {α β : Type} {R : α → β → Prop} {xs : List α} {ys : List β} (h : List.Forall₂ R xs ys)
    {x : α} (hx : x ∈ xs) : ∃ y ∈ ys, R x y := exists_of_mem_right h.flip hx

theorem map_eq_of_forall₂ {α β γ : Type} {R : α → β → Prop} {f : α → γ} {g : β → γ} {xs : List α} {ys : List β}
    (h : List.Forall₂ R xs ys) (hR : ∀ x y, R x y → g y = f x) : ys.map g = xs.map f := by
  induction h with
  | nil => rfl
  | cons hxy _ ih => rw [List.map_cons, List.map_cons, hR _ _ hxy, ih]

theorem exists_concat_of_forall₂ {α β : Type} {R : α → β → Prop} {xs : List α} {x : α} : ∀ {zs : List β},
    List.Forall₂ R (xs ++ [x]) zs → ∃ ys y, zs = ys ++ [y] ∧ List.Forall₂ R xs ys ∧ R x y := by
  induction xs with
  | nil =>
    rintro zs (_ | ⟨hxy, _⟩)
    rename_i hnil
    cases hnil
    exact ⟨[], _, rfl, List.Forall₂.nil, hxy⟩
  | cons w xs ih =>
    rintro zs (_ | ⟨hwz, htail⟩)
    obtain ⟨ys, y, rfl, hys, hxy⟩ := ih htail
    exact ⟨_ :: ys, y, rfl, List.Forall₂.cons hwz hys, hxy⟩

theorem mapM_eq_pure {m : Type → Type} [Monad m] [LawfulMonad m] {α β : Type} {f : α → m β} {g : α → β} {xs : List α}
    (h : ∀ x ∈ xs, f x = pure (g x)) : xs.mapM f = pure (xs.map g) := by
  induction xs with
  | nil => rfl
  | cons x xs ih =>
    rw [List.mapM_cons, h x List.mem_cons_self, ih fun y hy => h y (List.mem_cons_of_mem _ hy), pure_bind, pure_bind]
    rfl

theorem exists_mapM_eq_pure {m : Type → Type} [Monad m] [LawfulMonad m] {α β : Type} {f : α → m β} {xs : List α}
    (h : ∀ x ∈ xs, ∃ y, f x = pure y) : ∃ ys, xs.mapM f = pure ys := by
  induction xs with
  | nil => exact ⟨[], rfl⟩
  | cons x xs ih =>
    obtain ⟨y, hy⟩ := h x List.mem_cons_self
    obtain ⟨ys, hys⟩ := ih fun z hz => h z (List.mem_cons_of_mem _ hz)
    exact ⟨y :: ys, by rw [List.mapM_cons, hy, pure_bind, hys, pure_bind]⟩

theorem bind_eq_ok_iff {ε α β : Type} {x : Except ε α} {f : α → Except ε β} {b : β} :
    (x >>= f) = .ok b ↔ ∃ a, x = .ok a ∧ f a = .ok b := by
  cases x with
  | error e =>
    constructor
    · intro h
      cases h
    · rintro ⟨a, h, -⟩
      cases h
  | ok a =>
    constructor
    · intro h
      exact ⟨a, rfl, h⟩
    · rintro ⟨a', h, hf⟩
      cases h
      exact hf

theorem bind_eq_error_iff {ε α β : Type} {x : Except ε α} {f : α → Except ε β} {e : ε} :
    (x >>= f) = .error e ↔ x = .error e ∨ ∃ a, x = .ok a ∧ f a = .error e := by
  cases x with
  | error e' =>
    constructor
    · intro h
      cases h
      exact Or.inl rfl
    · rintro (h | ⟨a, h, -⟩)
      · cases h
        rfl
      · cases h
  | ok a =>
    constructor
    · exact fun h => Or.inr ⟨a, rfl, h⟩
    · rintro (h | ⟨a', h, hf⟩)
      · cases h
      · cases h
        exact hf

/-- A run over a list that fails comes to an element that it fails at. -/
theorem exists_of_foldlM_error {ε α β : Type} {f : β → α → Except ε β} {e : ε} {xs : List α} : ∀ {b : β},
    xs.foldlM f b = .error e →
      ∃ before x after b', xs = before ++ x :: after ∧ before.foldlM f b = .ok b' ∧ f b' x = .error e := by
  induction xs with
  | nil =>
    intro b h
    cases h
  | cons x xs ih =>
    intro b h
    rw [List.foldlM_cons] at h
    rcases bind_eq_error_iff.mp h with hx | ⟨b₁, hx, h⟩
    · exact ⟨[], x, xs, b, rfl, rfl, hx⟩
    · obtain ⟨before, y, after, b', rfl, hbefore, hy⟩ := ih h
      refine ⟨x :: before, y, after, b', rfl, ?_, hy⟩
      rw [List.foldlM_cons, hx]
      exact hbefore

theorem mapError_eq_ok_iff {ε ε' α : Type} {f : ε → ε'} {x : Except ε α} {a : α} :
    x.mapError f = .ok a ↔ x = .ok a := by
  cases x <;> simp [Except.mapError]

theorem forall₂_mapM_ok {ε α β : Type} {f : α → Except ε β} {xs : List α} : ∀ {ys : List β}, xs.mapM f = .ok ys →
    List.Forall₂ (fun x y => f x = .ok y) xs ys := by
  induction xs with
  | nil =>
    intro ys h
    cases h
    exact .nil
  | cons x xs ih =>
    intro ys h
    rw [List.mapM_cons] at h
    obtain ⟨y, hy, h⟩ := bind_eq_ok_iff.mp h
    obtain ⟨ys, hys, h⟩ := bind_eq_ok_iff.mp h
    cases h
    exact .cons hy (ih hys)

theorem mapM_eq_ok {ε α β : Type} {f : α → Except ε β} {xs : List α} {ys : List β}
    (h : List.Forall₂ (fun x y => f x = .ok y) xs ys) : xs.mapM f = .ok ys := by
  induction h with
  | nil => rfl
  | cons hxy _ ih =>
    rw [List.mapM_cons, hxy, ih]
    rfl

theorem exists_eq_ok {ε α : Type} {x : Except ε α} (h : x.toOption.isSome = true) : ∃ a, x = .ok a := by
  cases x with
  | error e => cases h
  | ok a => exact ⟨a, rfl⟩

theorem eq_ok_of_toOption {ε α : Type} {x : Except ε α} {a : α} (h : x.toOption = some a) : x = .ok a := by
  cases x with
  | error e => cases h
  | ok b => exact congrArg _ (Option.some.inj h)

/-- Of elements with distinct keys, the first with the key of one of them is that one. -/
theorem find?_of_mem {α β : Type} [BEq β] [LawfulBEq β] {key : α → β} {xs : List α} (h : (xs.map key).Nodup) {x : α}
    (hx : x ∈ xs) : xs.find? (fun y => key y == key x) = some x := by
  induction xs with
  | nil => cases hx
  | cons y ys ih =>
    obtain ⟨hnot, hnodup⟩ := List.nodup_cons.mp h
    rcases List.mem_cons.mp hx with rfl | hx
    · rw [List.find?_cons_of_pos (by simp)]
    · have hne : key y ≠ key x := fun heq => hnot (heq ▸ List.mem_map_of_mem hx)
      rw [List.find?_cons_of_neg (by simpa using hne)]
      exact ih hnodup hx

theorem find?_eq_some_iff_of_nodup {α β : Type} [BEq β] [LawfulBEq β] {key : α → β} {xs : List α}
    (h : (xs.map key).Nodup) {k : β} {x : α} : xs.find? (fun y => key y == k) = some x ↔ x ∈ xs ∧ key x = k := by
  constructor
  · intro hfind
    exact ⟨List.mem_of_find?_eq_some hfind, by simpa using List.find?_some hfind⟩
  · rintro ⟨hx, rfl⟩
    exact find?_of_mem h hx

theorem find?_reverse {α β : Type} [BEq β] [LawfulBEq β] {key : α → β} {xs : List α} (h : (xs.map key).Nodup) (k : β) :
    xs.reverse.find? (fun y => key y == k) = xs.find? (fun y => key y == k) := by
  have hrev : (xs.reverse.map key).Nodup := by
    rw [List.map_reverse]
    exact List.nodup_reverse.mpr h
  ext x
  rw [find?_eq_some_iff_of_nodup hrev, find?_eq_some_iff_of_nodup h, List.mem_reverse]

namespace SortedMap

variable {α β ε : Type}

theorem mem_of_findEntry {k : String} {v : α} : ∀ {xs : List (String × α)}, findEntry k xs = some v → (k, v) ∈ xs
  | [], h => nomatch h
  | (k', v') :: rest, h => by
    rw [findEntry] at h
    split at h
    · rename_i hk
      cases h
      exact hk ▸ List.mem_cons_self
    · exact List.mem_cons_of_mem _ (mem_of_findEntry h)

theorem isSome_findEntry_iff {k : String} : ∀ {xs : List (String × α)},
    (findEntry k xs).isSome = true ↔ k ∈ xs.map (·.1)
  | [] => by simp [findEntry]
  | (k', v') :: rest => by
    rw [findEntry, List.map_cons, List.mem_cons, ← isSome_findEntry_iff]
    by_cases hk : k' = k
    · simp [hk]
    · simp [hk, Ne.symm hk]

theorem findEntry_eq_some_iff {k : String} {v : α} : ∀ {xs : List (String × α)},
    xs.Pairwise (fun a b => a.1 < b.1) → (findEntry k xs = some v ↔ (k, v) ∈ xs)
  | [], _ => by simp [findEntry]
  | (k', v') :: rest, h => by
    obtain ⟨hhead, htail⟩ := List.pairwise_cons.mp h
    rw [findEntry]
    split
    · rename_i hk
      subst hk
      have hnot : ∀ w, (k', w) ∉ rest := fun w hw => String.lt_irrefl _ (hhead (k', w) hw)
      simp only [Option.some.injEq, List.mem_cons, Prod.mk.injEq, true_and]
      exact ⟨fun hv => Or.inl hv.symm, fun hv => hv.elim Eq.symm fun hv => absurd hv (hnot v)⟩
    · rename_i hk
      rw [findEntry_eq_some_iff htail]
      simp only [List.mem_cons, Prod.mk.injEq]
      exact ⟨Or.inr, fun hv => hv.elim (fun hv => absurd hv.1.symm hk) id⟩

theorem find?_eq_some_iff {m : SortedMap α} {k : String} {v : α} : m.find? k = some v ↔ (k, v) ∈ m.entries :=
  findEntry_eq_some_iff m.ascending

theorem mem_keys_iff {m : SortedMap α} {k : String} : k ∈ m.keys ↔ ∃ v, m.find? k = some v := by
  simp only [keys, List.mem_map, find?_eq_some_iff, Prod.exists, exists_and_right, exists_eq_right]

/-- Inserting names one after the other adds these names and no others. -/
theorem contains_foldl_insert {xs : List (String × α)} {k : String} : ∀ {m : SortedMap α},
    (xs.foldl (fun m e => m.insert e.1 e.2) m).contains k = true ↔ m.contains k = true ∨ k ∈ xs.map (·.1) := by
  induction xs with
  | nil => simp
  | cons x xs ih =>
    intro m
    rw [List.foldl_cons, ih, contains, find?_insert, List.map_cons, List.mem_cons]
    by_cases hx : x.1 = k
    · simp [hx]
    · simp [hx, contains, Ne.symm hx]

theorem contains_ofList {xs : List (String × α)} {k : String} : (ofList xs).contains k = true ↔ k ∈ xs.map (·.1) := by
  rw [ofList, contains_foldl_insert]
  simp [contains]

theorem mem_values_iff {m : SortedMap α} {v : α} : v ∈ m.values ↔ ∃ k, m.find? k = some v := by
  simp only [values, List.mem_map, find?_eq_some_iff, Prod.exists, exists_eq_right]

theorem find?_map_snd {key : α → String} (name : String) : ∀ {xs : List (String × α)}, (∀ e ∈ xs, key e.2 = e.1) →
    (xs.map (·.2)).find? (fun v => key v == name) = findEntry name xs
  | [], _ => rfl
  | (k, v) :: rest, h => by
    have hkey : key v = k := h (k, v) List.mem_cons_self
    rw [List.map_cons, List.find?_cons, findEntry, find?_map_snd name fun e he => h e (List.mem_cons_of_mem _ he), hkey]
    by_cases hk : k = name
    · simp [hk]
    · rw [beq_false_of_ne hk]
      simp [hk]

/-- Searching the values for a name that they carry themselves is looking the name up. -/
theorem find?_values {key : α → String} {m : SortedMap α} (h : ∀ k v, m.find? k = some v → key v = k) (name : String) :
    m.values.find? (fun v => key v == name) = m.find? name :=
  find?_map_snd name fun e he => h e.1 e.2 (find?_eq_some_iff.mpr he)

theorem nodup_keys (m : SortedMap α) : m.keys.Nodup := by
  rw [keys, List.Nodup, List.pairwise_map]
  exact m.ascending.imp fun h => ne_of_lt h

/-- The names that values carry themselves are those of the map. -/
theorem map_values {key : α → String} {m : SortedMap α} (h : ∀ k v, m.find? k = some v → key v = k) :
    m.values.map key = m.keys := by
  rw [values, keys, List.map_map]
  exact List.map_congr_left fun e he => h e.1 e.2 (find?_eq_some_iff.mpr he)

/-- Values that know their names have distinct ones. -/
theorem nodup_values {key : α → String} {m : SortedMap α} (h : ∀ k v, m.find? k = some v → key v = k) :
    (m.values.map key).Nodup := by
  rw [map_values h]
  exact m.nodup_keys

theorem findEntry_map (f : String → α → β) (k : String) : ∀ xs : List (String × α),
    findEntry k (xs.map fun e => (e.1, f e.1 e.2)) = (findEntry k xs).map (f k)
  | [] => rfl
  | (k', v) :: rest => by
    rw [List.map_cons, findEntry, findEntry, findEntry_map f k rest]
    split
    · rename_i hk
      subst hk
      rfl
    · rfl

@[simp] theorem find?_map (f : String → α → β) (m : SortedMap α) (k : String) :
    (m.map f).find? k = (m.find? k).map (f k) :=
  findEntry_map f k m.entries

theorem traverseEntries_ok {f : String → α → Except ε β} : ∀ {xs : List (String × α)} {ys},
    traverseEntries f xs = .ok ys → List.Forall₂ (fun x y => y.1 = x.1 ∧ f x.1 x.2 = .ok y.2) xs ys.1
  | [], ys, h => by
    rw [traverseEntries] at h
    cases h
    exact List.Forall₂.nil
  | (k, v) :: rest, ys, h => by
    rw [traverseEntries] at h
    split at h
    · cases h
    · rename_i w hw
      split at h
      · cases h
      · rename_i zs hkeys hzs
        cases h
        exact List.Forall₂.cons ⟨rfl, hw⟩ (traverseEntries_ok hzs)

/-- A traversal that succeeds replaces every value by what the function gave, and leaves names and order. -/
theorem traverse_ok {f : String → α → Except ε β} {m : SortedMap α} {n : SortedMap β} (h : m.traverse f = .ok n) :
    List.Forall₂ (fun x y => y.1 = x.1 ∧ f x.1 x.2 = .ok y.2) m.entries n.entries := by
  rw [traverse] at h
  split at h
  · cases h
  · rename_i ys hkeys hys
    cases h
    exact traverseEntries_ok hys

theorem traverseEntries_map {γ : Type} (f : String → α → Except ε β) (g : β → γ) : ∀ xs : List (String × α),
    (traverseEntries (fun k v => (f k v).map g) xs).map (·.1) =
      (traverseEntries f xs).map fun ys => ys.1.map fun e => (e.1, g e.2)
  | [] => rfl
  | (k, v) :: rest => by
    have ih := traverseEntries_map f g rest
    rw [traverseEntries, traverseEntries]
    cases f k v with
    | error e => rfl
    | ok w =>
      dsimp only [Except.map] at ih ⊢
      cases hleft : traverseEntries (fun k v => (f k v).map g) rest <;> cases hright : traverseEntries f rest <;>
        simp_all [Except.map]

/-- Results that are mapped as they come are those of the traversal, mapped. -/
theorem traverse_map {γ : Type} (f : String → α → Except ε β) (g : β → γ) (m : SortedMap α) :
    (m.traverse fun k v => (f k v).map g) = (m.traverse f).map fun n => n.map fun _ => g := by
  have hentries := traverseEntries_map f g m.entries
  rw [traverse, traverse]
  cases hleft : traverseEntries (fun k v => (f k v).map g) m.entries <;> cases hright : traverseEntries f m.entries <;>
    simp_all [Except.map, map]

theorem traverseEntries_error {f : String → α → Except ε β} {e : ε} : ∀ {xs : List (String × α)},
    traverseEntries f xs = .error e → ∃ x ∈ xs, f x.1 x.2 = .error e
  | [], h => nomatch h
  | (k, v) :: rest, h => by
    rw [traverseEntries] at h
    split at h
    · rename_i hv
      cases h
      exact ⟨(k, v), List.mem_cons_self, hv⟩
    · split at h
      · rename_i hrest
        cases h
        obtain ⟨x, hx, hf⟩ := traverseEntries_error hrest
        exact ⟨x, List.mem_cons_of_mem _ hx, hf⟩
      · cases h

/-- A traversal that fails does so with an error that the function gave. -/
theorem traverse_error {f : String → α → Except ε β} {m : SortedMap α} {e : ε} (h : m.traverse f = .error e) :
    ∃ x ∈ m.entries, f x.1 x.2 = .error e := by
  rw [traverse] at h
  split at h
  · rename_i hentries
    cases h
    exact traverseEntries_error hentries
  · cases h

theorem forall₂_findEntry {R : String → α → β → Prop} (k : String) {xs : List (String × α)} {ys : List (String × β)}
    (h : List.Forall₂ (fun x y => y.1 = x.1 ∧ R x.1 x.2 y.2) xs ys) :
    Option.Rel (R k) (findEntry k xs) (findEntry k ys) := by
  induction h with
  | nil => exact Option.Rel.none
  | @cons x y _ _ hxy _ ih =>
    obtain ⟨hkey, hval⟩ := hxy
    rw [findEntry, findEntry, hkey]
    split
    · rename_i hk
      exact Option.Rel.some (hk ▸ hval)
    · exact ih

/-- Under every name a traversal has what the function gave, and nothing where there was nothing. -/
theorem find?_traverse {f : String → α → Except ε β} {m : SortedMap α} {n : SortedMap β} (h : m.traverse f = .ok n)
    (k : String) : Option.Rel (fun a b => f k a = .ok b) (m.find? k) (n.find? k) :=
  forall₂_findEntry (R := fun k a b => f k a = .ok b) k (traverse_ok h)

end SortedMap

namespace Catalogue

variable {α β ε : Type} {c : Catalogue α} {d : Catalogue β}

theorem ext_sectionOf {c d : Catalogue α} (h : ∀ kind, c.sectionOf kind = d.sectionOf kind) : c = d := by
  obtain ⟨resources, properties⟩ := c
  obtain ⟨resources', properties'⟩ := d
  have hresources : resources = resources' := h .resource
  have hproperties : properties = properties' := h .property
  rw [hresources, hproperties]

/-- Catalogues that answer alike are equal. -/
theorem ext_find? {c d : Catalogue α} (h : ∀ id, c.find? id = d.find? id) : c = d :=
  ext_sectionOf fun kind => SortedMap.ext_find? fun name => h ⟨kind, name⟩

theorem mem_toList_iff {e : TypeId × α} : e ∈ c.toList ↔ c.find? e.1 = some e.2 := by
  obtain ⟨⟨kind, name⟩, a⟩ := e
  cases kind <;> simp [toList, find?, sectionOf, SortedMap.find?_eq_some_iff]

theorem forall_mem_toList_iff {p : α → Prop} :
    (∀ t ∈ c.toList, p t.2) ↔ ∀ kind, ∀ e ∈ (c.sectionOf kind).entries, p e.2 := by
  constructor
  · intro h kind e he
    exact h (⟨kind, e.1⟩, e.2) (mem_toList_iff.mpr (SortedMap.find?_eq_some_iff.mpr he))
  · intro h t ht
    exact h t.1.kind (t.1.name, t.2) (SortedMap.find?_eq_some_iff.mp (mem_toList_iff.mp ht))

theorem nodup_toList (c : Catalogue α) : (c.toList.map (·.1)).Nodup := by
  have hsection : ∀ (kind : TypeKind) (m : SortedMap α), (m.entries.map fun e => (⟨kind, e.1⟩ : TypeId)).Nodup := by
    intro kind m
    rw [List.Nodup, List.pairwise_map]
    exact m.ascending.imp fun hlt heq => SortedMap.ne_of_lt hlt (congrArg TypeId.name heq)
  simp only [toList, List.map_append, List.map_map]
  rw [List.nodup_append]
  refine ⟨hsection .property c.properties, hsection .resource c.resources, fun a ha b hb hab => ?_⟩
  simp only [List.mem_map, Function.comp_apply] at ha hb
  obtain ⟨_, -, rfl⟩ := ha
  obtain ⟨_, -, rfl⟩ := hb
  cases hab

theorem mem_names_of_isSome {id : TypeId} (h : (c.find? id).isSome = true) : id.name ∈ c.names := by
  obtain ⟨a, ha⟩ := Option.isSome_iff_exists.mp h
  obtain ⟨kind, name⟩ := id
  cases kind with
  | property => exact List.mem_append_left _ (SortedMap.mem_keys_iff.mpr ⟨a, ha⟩)
  | resource => exact List.mem_append_right _ (SortedMap.mem_keys_iff.mpr ⟨a, ha⟩)

theorem exists_find?_of_mem_names {name : String} (h : name ∈ c.names) : ∃ kind a, c.find? ⟨kind, name⟩ = some a := by
  rcases List.mem_append.mp h with h | h
  · exact ⟨.property, SortedMap.mem_keys_iff.mp h⟩
  · exact ⟨.resource, SortedMap.mem_keys_iff.mp h⟩

@[simp] theorem find?_map (f : TypeId → α → β) (c : Catalogue α) (id : TypeId) :
    (c.map f).find? id = (c.find? id).map (f id) := by
  obtain ⟨kind, name⟩ := id
  cases kind with
  | property => exact SortedMap.find?_map (fun name => f ⟨.property, name⟩) c.properties name
  | resource => exact SortedMap.find?_map (fun name => f ⟨.resource, name⟩) c.resources name

@[simp] theorem find?_insert (c : Catalogue α) (id id' : TypeId) (a : α) :
    (c.insert id a).find? id' = if id = id' then some a else c.find? id' := by
  obtain ⟨kind, name⟩ := id
  obtain ⟨kind', name'⟩ := id'
  cases kind <;> cases kind' <;> simp [insert, find?, sectionOf]

/-- The property type of a name is what the name means, and else the resource type. -/
theorem kindOf?_eq_some_iff {name : String} {kind : TypeKind} : c.kindOf? name = some kind ↔
    (∃ a, c.find? ⟨kind, name⟩ = some a) ∧ (kind = .resource → c.find? ⟨.property, name⟩ = none) := by
  have hp : c.properties.contains name = (c.find? ⟨.property, name⟩).isSome := rfl
  have hr : c.resources.contains name = (c.find? ⟨.resource, name⟩).isSome := rfl
  rw [kindOf?, hp, hr]
  cases kind <;> cases hfp : c.find? ⟨.property, name⟩ <;> cases hfr : c.find? ⟨.resource, name⟩ <;> simp

theorem traverse_ok {f : TypeId → α → Except ε β} (h : c.traverse f = .ok d) :
    (c.properties.traverse fun name => f ⟨.property, name⟩) = .ok d.properties ∧
      (c.resources.traverse fun name => f ⟨.resource, name⟩) = .ok d.resources := by
  rw [traverse] at h
  split at h
  · cases h
  · rename_i properties hp
    split at h
    · cases h
    · rename_i resources hr
      cases h
      exact ⟨hp, hr⟩

theorem traverse_map {γ : Type} (f : TypeId → α → Except ε β) (g : β → γ) (c : Catalogue α) :
    (c.traverse fun id a => (f id a).map g) = (c.traverse f).map fun d => d.map fun _ => g := by
  rw [traverse, traverse, SortedMap.traverse_map, SortedMap.traverse_map]
  cases c.properties.traverse fun name a => f ⟨.property, name⟩ a with
  | error e => rfl
  | ok properties => cases c.resources.traverse fun name a => f ⟨.resource, name⟩ a <;> rfl

theorem traverse_error {f : TypeId → α → Except ε β} {e : ε} (h : c.traverse f = .error e) :
    ∃ t ∈ c.toList, f t.1 t.2 = .error e := by
  rw [traverse] at h
  split at h
  · rename_i hp
    cases h
    obtain ⟨x, hx, hf⟩ := SortedMap.traverse_error hp
    exact ⟨_, List.mem_append_left _ (List.mem_map_of_mem hx), hf⟩
  · split at h
    · rename_i hr
      cases h
      obtain ⟨x, hx, hf⟩ := SortedMap.traverse_error hr
      exact ⟨_, List.mem_append_right _ (List.mem_map_of_mem hx), hf⟩
    · cases h

/-- What a traversal has for a type is what the function gave for it. -/
theorem find?_traverse {f : TypeId → α → Except ε β} (h : c.traverse f = .ok d) (id : TypeId) :
    Option.Rel (fun a b => f id a = .ok b) (c.find? id) (d.find? id) := by
  obtain ⟨hp, hr⟩ := traverse_ok h
  obtain ⟨kind, name⟩ := id
  cases kind with
  | property => exact SortedMap.find?_traverse hp name
  | resource => exact SortedMap.find?_traverse hr name

theorem find?_traverse_eq_some_iff {f : TypeId → α → Except ε β} (h : c.traverse f = .ok d) {id : TypeId} {b : β} :
    d.find? id = some b ↔ ∃ a, c.find? id = some a ∧ f id a = .ok b := by
  have hrel := find?_traverse h id
  cases hc : c.find? id <;> cases hd : d.find? id <;> rw [hc, hd] at hrel
  · simp
  · simp at hrel
  · simp at hrel
  · rename_i a b'
    have hf : f id a = .ok b' := by simpa using hrel
    simp only [Option.some.injEq, exists_eq_left', hf, Except.ok.injEq]

end Catalogue

/-! ### What a step fails with -/

section Steps
variable {ε α β : Type} {q : ε → Prop}

/-- A step fails only with errors that have a property. -/
def FailsWith (q : ε → Prop) (x : Except ε α) : Prop := ∀ e, x = .error e → q e

theorem failsWith_ok (a : α) : FailsWith q (.ok a) := nofun

theorem FailsWith.bind {x : Except ε α} {f : α → Except ε β} (hx : FailsWith q x)
    (hf : ∀ a, x = .ok a → FailsWith q (f a)) : FailsWith q (x >>= f) := by
  cases x with
  | ok a => exact hf a rfl
  | error e =>
    intro e' he'
    cases he'
    exact hx e rfl

theorem FailsWith.foldlM {f : β → α → Except ε β} {xs : List α} (h : ∀ b, ∀ a ∈ xs, FailsWith q (f b a)) : ∀ b : β,
    FailsWith q (xs.foldlM f b) := by
  induction xs with
  | nil => exact fun b => failsWith_ok b
  | cons x xs ih =>
    intro b
    rw [List.foldlM_cons]
    exact (h b x List.mem_cons_self).bind fun b' _ => ih (fun b a ha => h b a (List.mem_cons_of_mem _ ha)) b'

theorem FailsWith.mapM {f : α → Except ε β} {xs : List α} (h : ∀ a ∈ xs, FailsWith q (f a)) :
    FailsWith q (xs.mapM f) := by
  induction xs with
  | nil => exact failsWith_ok []
  | cons x xs ih =>
    rw [List.mapM_cons]
    refine (h x List.mem_cons_self).bind fun y _ => ?_
    exact (ih fun a ha => h a (List.mem_cons_of_mem _ ha)).bind fun ys _ => failsWith_ok _

theorem FailsWith.traverse {c : Catalogue α} {f : TypeId → α → Except ε β}
    (h : ∀ t ∈ c.toList, FailsWith q (f t.1 t.2)) : FailsWith q (c.traverse f) := by
  intro e he
  obtain ⟨t, ht, hf⟩ := Catalogue.traverse_error he
  exact h t ht e hf

end Steps

end Typewright
