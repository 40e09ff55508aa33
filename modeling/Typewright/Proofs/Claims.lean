import Typewright.Emission.Collisions
import Typewright.Proofs.Tables

/-! # What types claim

Types that pass the check for items claim distinct texts, and no module of any of them. In every module their names
are then distinct, those of the data types and builders among themselves and from the modules in it, and those of the
helpers among themselves. -/

namespace Typewright.Emission

/-- The claim of an item of that name in the module at `path`. -/
def itemText (path : List String) (name : String) : String := pathText path ++ "::" ++ name

/-- The names of the data type and the builder. -/
def structNames (p : Placement) : List String := [p.className, p.builderName]

/-- The claims of the data type and the builder. -/
def itemTexts (p : Placement) : List String := (structNames p).map (itemText p.modulePath)

/-- The claim of the helper. -/
def helperText (p : Placement) : String := itemText p.modulePath p.helperName

/-! ### Claiming -/

section Claiming
variable {claimed claimed' : Claimed} {types : List (String × Placement)} {t : String × Placement} {path : String}

theorem claim_eq_ok_iff {claims claims' : Claims} {typeName : String} :
    claims.claim path typeName = .ok claims' ↔ claims[path]? = none ∧ claims' = claims.insert path typeName := by
  rw [Claims.claim]
  split
  · rename_i first hfirst
    simp [hfirst]
  · rename_i hfree
    simp [hfree, eq_comm]

theorem claim_eq_error_iff {claims : Claims} {typeName : String} {e : EmitError} :
    claims.claim path typeName = .error e ↔
      ∃ first, claims[path]? = some first ∧ e = .artifactCollision first typeName path := by
  rw [Claims.claim]
  split
  · rename_i first hfirst
    simp [hfirst, eq_comm]
  · rename_i hfree
    simp [hfree]

theorem claim_ok {claims claims' : Claims} {typeName : String} (h : claims.claim path typeName = .ok claims') :
    path ∉ claims ∧ ∀ other, other ∈ claims' ↔ path = other ∨ other ∈ claims := by
  obtain ⟨hfree, rfl⟩ := claim_eq_ok_iff.mp h
  refine ⟨fun hmem => ?_, fun other => by simp⟩
  rw [Std.TreeMap.mem_iff_isSome_getElem?, hfree] at hmem
  cases hmem

/-- What a type claims is free and differs, and what was claimed before stays claimed. -/
structure Adds (claimed : Claimed) (p : Placement) (claimed' : Claimed) : Prop where
  nodup : (itemTexts p).Nodup
  free : ∀ path ∈ itemTexts p, path ∉ claimed.items
  helperFree : helperText p ∉ claimed.helpers
  mem_items : ∀ path, path ∈ claimed'.items ↔ path ∈ itemTexts p ∨ path ∈ claimed.items
  mem_helpers : ∀ path, path ∈ claimed'.helpers ↔ helperText p = path ∨ path ∈ claimed.helpers

theorem add_ok (h : claimed.add t = .ok claimed') : Adds claimed t.2 claimed' := by
  rw [Claimed.add] at h
  obtain ⟨items, hitems, h⟩ := bind_eq_ok_iff.mp h
  obtain ⟨items', hitems', h⟩ := bind_eq_ok_iff.mp h
  obtain ⟨helpers, hhelpers, h⟩ := bind_eq_ok_iff.mp h
  cases h
  obtain ⟨hfree, hmem⟩ := claim_ok hitems
  obtain ⟨hfree', hmem'⟩ := claim_ok hitems'
  obtain ⟨hhelper, hmemHelper⟩ := claim_ok hhelpers
  rw [hmem, not_or] at hfree'
  have htexts : itemTexts t.2 =
      [itemText t.2.modulePath t.2.className, itemText t.2.modulePath t.2.builderName] := rfl
  constructor
  case nodup =>
    rw [htexts, List.nodup_cons, List.mem_singleton]
    exact ⟨hfree'.1, List.nodup_singleton _⟩
  case free =>
    rw [htexts]
    rintro path (_ | ⟨_, _ | ⟨_, hnil⟩⟩)
    · exact hfree
    · exact hfree'.2
    · cases hnil
  case helperFree => exact hhelper
  case mem_items =>
    intro path
    rw [hmem', hmem, htexts, List.mem_cons, List.mem_singleton, eq_comm (a := path), eq_comm (a := path),
      or_assoc, or_left_comm]
    rfl
  case mem_helpers => exact hmemHelper

/-- Types that are all added claim distinct items and distinct helpers, none of which was claimed before. -/
theorem foldlM_add_ok : ∀ {claimed claimed' : Claimed}, types.foldlM Claimed.add claimed = .ok claimed' →
    ((types.flatMap fun t => itemTexts t.2).Nodup ∧ ∀ t ∈ types, ∀ path ∈ itemTexts t.2, path ∉ claimed.items) ∧
      (types.map fun t => helperText t.2).Nodup ∧ ∀ t ∈ types, helperText t.2 ∉ claimed.helpers := by
  induction types with
  | nil => exact fun _ => ⟨⟨List.nodup_nil, fun t ht => nomatch ht⟩, List.nodup_nil, fun t ht => nomatch ht⟩
  | cons t ts ih =>
    intro claimed claimed' h
    rw [List.foldlM_cons] at h
    obtain ⟨claimed₁, ht, h⟩ := bind_eq_ok_iff.mp h
    have hadds := add_ok ht
    obtain ⟨⟨hitems, hlater⟩, hhelpers, hlaterHelper⟩ := ih h
    -- What a later type claims is free even after `t` has been added, so it is no claim of `t`.
    have hdisjoint : (itemTexts t.2).Disjoint (ts.flatMap fun t => itemTexts t.2) := by
      intro path hpath hmem
      obtain ⟨u, hu, hpath'⟩ := List.mem_flatMap.mp hmem
      exact hlater u hu path hpath' ((hadds.mem_items path).mpr (Or.inl hpath))
    have hnew : helperText t.2 ∉ ts.map fun t => helperText t.2 := by
      intro hmem
      obtain ⟨u, hu, heq⟩ := List.mem_map.mp hmem
      exact hlaterHelper u hu ((hadds.mem_helpers _).mpr (Or.inl heq.symm))
    refine ⟨⟨hadds.nodup.append hitems hdisjoint, ?_⟩, List.nodup_cons.mpr ⟨hnew, hhelpers⟩, ?_⟩
    · rintro u (_ | ⟨_, hu⟩) path hpath
      · exact hadds.free path hpath
      · exact fun hmem => hlater u hu path hpath ((hadds.mem_items path).mpr (Or.inr hmem))
    · rintro u (_ | ⟨_, hu⟩)
      · exact hadds.helperFree
      · exact fun hmem => hlaterHelper u hu ((hadds.mem_helpers _).mpr (Or.inr hmem))

theorem mem_foldl_note {paths : List String} {typeName : String} : ∀ {claims : Claims},
    path ∈ paths.foldl (fun claims path => claims.note path typeName) claims ↔ path ∈ paths ∨ path ∈ claims := by
  induction paths with
  | nil => simp
  | cons other paths ih =>
    intro claims
    rw [List.foldl_cons, ih, Claims.note, Std.TreeMap.mem_insertIfNew, List.mem_cons, or_left_comm, or_assoc,
      Std.LawfulEqCmp.compare_eq_iff_eq, eq_comm]

theorem mem_moduleClaims : path ∈ moduleClaims types ↔ ∃ t ∈ types, path ∈ modulesBelow t.2.root t.2.namespaces := by
  have hfoldl : ∀ {claims : Claims},
      path ∈ types.foldl (fun claims t =>
        (modulesBelow t.2.root t.2.namespaces).foldl (fun claims path => claims.note path t.1) claims) claims ↔
      (∃ t ∈ types, path ∈ modulesBelow t.2.root t.2.namespaces) ∨ path ∈ claims := by
    induction types with
    | nil => simp
    | cons t types ih =>
      intro claims
      rw [List.foldl_cons, ih, mem_foldl_note, List.exists_mem_cons_iff, or_left_comm, or_assoc]
  rw [moduleClaims, hfoldl, or_iff_left Std.TreeMap.not_mem_emptyc]

end Claiming

/-! ### Names in a module -/

/-- No two types at these places generate one item or one helper. -/
structure DistinctItems (places : List Placement) : Prop where
  items : (places.flatMap itemTexts).Nodup
  modules : ∀ p ∈ places, ∀ q ∈ places, ∀ path ∈ modulesBelow q.root q.namespaces, path ∉ itemTexts p
  helpers : (places.map helperText).Nodup

theorem distinctItems_of_checkItems {schema : Schema} {config : Config} (h : checkItems schema config = .ok ()) :
    DistinctItems ((placements schema config).map (·.2)) := by
  rw [checkItems] at h
  obtain ⟨claimed, hclaimed, -⟩ := bind_eq_ok_iff.mp h
  obtain ⟨⟨hitems, hfree⟩, hhelpers, -⟩ := foldlM_add_ok hclaimed
  constructor
  case items => rwa [List.flatMap_map]
  case modules =>
    intro p hp q hq path hbelow hpath
    obtain ⟨t, ht, rfl⟩ := List.mem_map.mp hp
    obtain ⟨u, hu, rfl⟩ := List.mem_map.mp hq
    exact hfree t ht path hpath (mem_moduleClaims.mpr ⟨u, hu, hbelow⟩)
  case helpers => rwa [List.map_map]

theorem mem_modulesBelow {name : String} {path : List String} : ∀ {place : String} {namespaces : List String},
    path ++ [name] <+: namespaces → itemText (place :: path) name ∈ modulesBelow place namespaces := by
  induction path with
  | nil =>
    rintro place _ ⟨rest, rfl⟩
    exact List.mem_cons_self
  | cons next path ih =>
    rintro place _ ⟨rest, rfl⟩
    have htext : itemText (place :: next :: path) name = itemText ((place ++ "::" ++ next) :: path) name := rfl
    rw [htext]
    exact List.mem_cons_of_mem _ (ih ⟨rest, rfl⟩)

/-- Names that are claimed by distinct texts are distinct in every module. -/
theorem nodup_names_of_texts {places : List Placement} {names : Placement → List String}
    (h : (places.flatMap fun p => (names p).map (itemText p.modulePath)).Nodup) (path : List String) :
    ((places.filter (·.modulePath = path)).flatMap names).Nodup := by
  obtain ⟨heach, hpairs⟩ := List.nodup_flatMap.mp h
  have hfilter : ((places.filter (·.modulePath = path)).flatMap fun p => (names p).map (itemText p.modulePath)).Nodup :=
    List.nodup_flatMap.mpr ⟨fun p hp => heach p (List.mem_filter.mp hp).1, hpairs.filter _⟩
  -- In one module the claims are the names behind the same path.
  have hmap : ((places.filter (·.modulePath = path)).flatMap fun p => (names p).map (itemText p.modulePath)) =
      ((places.filter (·.modulePath = path)).flatMap names).map (itemText path) := by
    rw [List.map_flatMap]
    refine List.flatMap_congr fun p hp => ?_
    rw [of_decide_eq_true (List.mem_filter.mp hp).2]
  rw [hmap] at hfilter
  exact hfilter.of_map

namespace DistinctItems
variable {places : List Placement} {path : List String}

theorem nodup_structNames (h : DistinctItems places) (path : List String) :
    ((places.filter (·.modulePath = path)).flatMap structNames).Nodup :=
  nodup_names_of_texts h.items path

theorem nodup_helperNames (h : DistinctItems places) (path : List String) :
    ((places.filter (·.modulePath = path)).map (·.helperName)).Nodup := by
  have htexts : (places.flatMap fun p => [p.helperName].map (itemText p.modulePath)).Nodup := by
    have hhelpers := h.helpers
    rw [List.map_eq_flatMap] at hhelpers
    exact hhelpers
  rw [List.map_eq_flatMap]
  exact nodup_names_of_texts htexts path

theorem not_mem_structNames (h : DistinctItems places) {p q : Placement} {name : String} (hp : p ∈ places)
    (hq : q ∈ places) (hbelow : p.modulePath ++ [name] <+: q.modulePath) : name ∉ structNames p := by
  intro hname
  obtain ⟨hroot, hrest⟩ : p.root = q.root ∧ p.namespaces ++ [name] <+: q.namespaces := by
    simpa [Placement.modulePath] using hbelow
  have htext : itemText p.modulePath name ∈ modulesBelow p.root q.namespaces := mem_modulesBelow hrest
  exact h.modules p hp q hq _ (hroot ▸ htext) (List.mem_map_of_mem hname)

end DistinctItems

end Typewright.Emission
