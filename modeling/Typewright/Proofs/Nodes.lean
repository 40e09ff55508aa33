import Typewright.Proofs.Uniqueness

/-! # One module for every artifact

Sorting things into modules loses and repeats none: the modules of the tree, listed in the order in which they are
written, have different paths, and what they hold is what was sorted in, each thing at its own path. The file repeats
this shape (`LaidOut`), which can be told from the bundle alone, without the tree. -/

namespace Typewright.Source

/-- Things sorted by keys that differ and are all there. -/
theorem flatMap_filter_perm {α κ : Type} [DecidableEq κ] {key : α → κ} {keys : List κ} : ∀ {xs : List α},
    keys.Nodup → (∀ x ∈ xs, key x ∈ keys) → (keys.flatMap fun k => xs.filter (key · = k)).Perm xs := by
  induction keys with
  | nil =>
    intro xs _ hcovered
    rw [List.eq_nil_iff_forall_not_mem.mpr fun x hx => List.not_mem_nil (hcovered x hx)]
    exact List.Perm.refl []
  | cons k keys ih =>
    intro xs hnodup hcovered
    obtain ⟨hk, hnodup⟩ := List.nodup_cons.mp hnodup
    -- What has another key than `k` is sorted by the other keys.
    have hothers : ∀ k' ∈ keys, xs.filter (key · = k') = (xs.filter (key · ≠ k)).filter (key · = k') := by
      intro k' hk'
      rw [List.filter_filter]
      refine List.filter_congr fun x _ => ?_
      by_cases hx : key x = k'
      · simp [hx, show k' ≠ k from fun h => hk (h ▸ hk')]
      · simp [hx]
    have hrest := @ih (xs.filter (key · ≠ k)) hnodup fun x hx => by
      obtain ⟨hx, hne⟩ := List.mem_filter.mp hx
      exact (List.mem_cons.mp (hcovered x hx)).resolve_left (by simpa using hne)
    rw [List.flatMap_cons, List.flatMap_congr hothers]
    refine (hrest.append_left _).trans ?_
    simpa using List.filter_append_perm (fun x => decide (key x = k)) xs

namespace ModuleTree
variable {α : Type}

/-! ### The list of modules -/

mutual

/-- The modules of a tree that is found at `path`, each with its own path and with what stands in it, in the order in
    which they are written. -/
def modules (path : List String) : ModuleTree α → List (List String × List α)
  | node own children => (path, own) :: modulesOfChildren path children

def modulesOfChildren (path : List String) : List (String × ModuleTree α) → List (List String × List α)
  | [] => []
  | (name, child) :: rest => modules (path ++ [name]) child ++ modulesOfChildren path rest

end

theorem Ordered.children {own : List α} {children : List (String × ModuleTree α)} (h : (node own children).Ordered) :
    children.Pairwise (fun a b => a.1 < b.1) ∧ ∀ c ∈ children, c.2.Ordered := by
  have hascending := h [] _ rfl
  exact ⟨hascending, fun c hc => h.child ((SortedMap.findEntry_eq_some_iff hascending).mpr hc)⟩

mutual

/-- The modules of a tree are the places that are found in it. -/
theorem mem_modules_iff : ∀ {t : ModuleTree α} {path : List String} {m : List String × List α}, t.Ordered →
    (m ∈ t.modules path ↔ ∃ below s, m = (path ++ below, s.own) ∧ t.subtree below = some s)
  | node own children, path, m, h => by
    obtain ⟨hascending, hchildren⟩ := h.children
    rw [modules, List.mem_cons, mem_modulesOfChildren_iff hchildren]
    constructor
    · rintro (rfl | ⟨c, hc, below, s, rfl, hs⟩)
      · exact ⟨[], node own children, by rw [List.append_nil]; rfl, rfl⟩
      · refine ⟨c.1 :: below, s, rfl, ?_⟩
        rw [subtree]
        exact Option.bind_eq_some_iff.mpr ⟨c.2, (SortedMap.findEntry_eq_some_iff hascending).mpr hc, hs⟩
    · rintro ⟨below, s, rfl, hs⟩
      cases below with
      | nil =>
        cases hs
        exact Or.inl (by rw [List.append_nil]; rfl)
      | cons name below =>
        obtain ⟨child, hchild, hs⟩ := Option.bind_eq_some_iff.mp hs
        exact Or.inr ⟨(name, child), SortedMap.mem_of_findEntry hchild, below, s, rfl, hs⟩

theorem mem_modulesOfChildren_iff : ∀ {children : List (String × ModuleTree α)} {path : List String}
    {m : List String × List α}, (∀ c ∈ children, c.2.Ordered) →
      (m ∈ modulesOfChildren path children ↔
        ∃ c ∈ children, ∃ below s, m = (path ++ c.1 :: below, s.own) ∧ c.2.subtree below = some s)
  | [], _, _, _ => by simp [modulesOfChildren]
  | (name, child) :: rest, path, m, h => by
    obtain ⟨hchild, hrest⟩ := List.forall_mem_cons.mp h
    rw [modulesOfChildren, List.mem_append, mem_modules_iff hchild, mem_modulesOfChildren_iff hrest,
      List.exists_mem_cons_iff]
    simp only [List.append_assoc, List.singleton_append]

end

mutual

/-- No two modules of a tree have the same path. -/
theorem nodup_modules : ∀ {t : ModuleTree α} {path : List String}, t.Ordered → ((t.modules path).map (·.1)).Nodup
  | node own children, path, h => by
    obtain ⟨hascending, hchildren⟩ := h.children
    rw [modules, List.map_cons, List.nodup_cons]
    refine ⟨fun hmem => ?_, nodup_modulesOfChildren hascending hchildren⟩
    obtain ⟨m, hm, hpath⟩ := List.mem_map.mp hmem
    obtain ⟨c, -, below, s, rfl, -⟩ := (mem_modulesOfChildren_iff hchildren).mp hm
    simp at hpath

theorem nodup_modulesOfChildren : ∀ {children : List (String × ModuleTree α)} {path : List String},
    children.Pairwise (fun a b => a.1 < b.1) → (∀ c ∈ children, c.2.Ordered) →
      ((modulesOfChildren path children).map (·.1)).Nodup
  | [], _, _, _ => List.nodup_nil
  | (name, child) :: rest, path, hascending, h => by
    obtain ⟨hfirst, hascending⟩ := List.pairwise_cons.mp hascending
    obtain ⟨hchild, hrest⟩ := List.forall_mem_cons.mp h
    rw [modulesOfChildren, List.map_append]
    refine (nodup_modules hchild).append (nodup_modulesOfChildren hascending hrest) fun q hq hq' => ?_
    -- The names right below `path` tell the modules apart.
    obtain ⟨m, hm, rfl⟩ := List.mem_map.mp hq
    obtain ⟨m', hm', hpath⟩ := List.mem_map.mp hq'
    obtain ⟨below, s, rfl, -⟩ := (mem_modules_iff hchild).mp hm
    obtain ⟨c, hc, below', s', rfl, -⟩ := (mem_modulesOfChildren_iff hrest).mp hm'
    rw [List.append_assoc, List.append_cancel_left_eq] at hpath
    exact SortedMap.ne_of_lt (hfirst c hc) (List.cons.inj hpath).1.symm

end

section Entries
variable {entries : List (List String × α)} {m : List String × List α}

theorem own_of_mem_modules (h : m ∈ (ofList entries).modules []) : m.2 = (ofList entries).find m.1 := by
  obtain ⟨path, s, rfl, hs⟩ := (mem_modules_iff (ordered_ofList entries)).mp h
  exact own_of_subtree hs

theorem mem_paths_iff {path : List String} :
    path ∈ ((ofList entries).modules []).map (·.1) ↔ path = [] ∨ ∃ e ∈ entries, path <+: e.1 := by
  rw [← isSome_subtree_ofList, Option.isSome_iff_exists, List.mem_map]
  constructor
  · rintro ⟨m, hm, rfl⟩
    obtain ⟨path, s, rfl, hs⟩ := (mem_modules_iff (ordered_ofList entries)).mp hm
    exact ⟨s, hs⟩
  · rintro ⟨s, hs⟩
    exact ⟨(path, s.own), (mem_modules_iff (ordered_ofList entries)).mpr ⟨path, s, rfl, hs⟩, rfl⟩

/-- The modules hold all things that were sorted into them, each of them once and at its own path. -/
theorem modules_perm (entries : List (List String × α)) :
    (((ofList entries).modules []).flatMap fun m => m.2.map fun a => (m.1, a)).Perm entries := by
  have hheld : ∀ m ∈ (ofList entries).modules [], (m.2.map fun a => (m.1, a)) = entries.filter (·.1 = m.1) := by
    intro m hm
    rw [own_of_mem_modules hm, find_ofList, List.map_map]
    refine (List.map_congr_left fun e he => ?_).trans (List.map_id _)
    rw [← of_decide_eq_true (List.mem_filter.mp he).2]
    rfl
  have hsorted := flatMap_filter_perm (nodup_modules (ordered_ofList entries)) fun e he =>
    mem_paths_iff.mpr (Or.inr ⟨e, he, List.prefix_refl _⟩)
  rw [List.flatMap_map] at hsorted
  rwa [List.flatMap_congr hheld]

end Entries

end ModuleTree

/-! ### The layout of the file -/

mutual

/-- The items of the module at `path`: what the artifacts of this module declare, written for this module and in the
    order of the bundle, and behind them the child modules in order of their names. There is a child module for a name
    exactly if an artifact stands in that module or below it. -/
inductive LaidOut (bundle : Bundle) (runtime : RuntimePath) : List String → List Item → Prop where
  | module {path names : List String} {declared : List (List Item)} {children : List Item}
    (own : List.Forall₂ (fun a decls => declarations ⟨path, bundle, runtime⟩ a = .ok decls)
      (bundle.artifacts.filter (·.placement.modulePath = path)) declared)
    (ascending : names.Pairwise (· < ·))
    (inhabited : ∀ name, name ∈ names ↔ ∃ a ∈ bundle.artifacts, path ++ [name] <+: a.placement.modulePath)
    (below : LaidOutBelow bundle runtime path names children) :
    LaidOut bundle runtime path (declared.flatten ++ children)

/-- The child modules of the module at `path`, for these names. -/
inductive LaidOutBelow (bundle : Bundle) (runtime : RuntimePath) :
    List String → List String → List Item → Prop where
  | nil {path : List String} : LaidOutBelow bundle runtime path [] []
  | cons {path names : List String} {name word : String} {items children : List Item}
    (accepted : identifier name = .ok word)
    (content : LaidOut bundle runtime (path ++ [name]) items)
    (rest : LaidOutBelow bundle runtime path names children) :
    LaidOutBelow bundle runtime path (name :: names)
      (.module [moduleDoc (path ++ [name])] word items :: children)

end

section Bundle
variable {bundle : Bundle} {runtime : RuntimePath} {path : List String} {items : List Item}

/-- The children of a place in the tree are the places right below it. -/
theorem subtree_of_mem_children {t : ModuleTree Artifact} (ht : (modulesOf bundle).subtree path = some t) :
    ∀ c ∈ t.children, (modulesOf bundle).subtree (path ++ [c.1]) = some c.2 := by
  intro c hc
  rw [ModuleTree.subtree_concat ht]
  exact (SortedMap.findEntry_eq_some_iff (ModuleTree.ordered_ofList _ path t ht)).mpr hc

theorem ascending_children {t : ModuleTree Artifact} (ht : (modulesOf bundle).subtree path = some t) :
    (t.children.map (·.1)).Pairwise (· < ·) :=
  SortedMap.ascending_iff.mp (ModuleTree.ordered_ofList _ path t ht)

mutual

theorem laidOut_of_moduleItems : ∀ {t : ModuleTree Artifact} {path : List String} {items : List Item},
    (modulesOf bundle).subtree path = some t → moduleItems bundle runtime path t = .ok items →
      LaidOut bundle runtime path items
  | .node own children, path, items, ht, h => by
    rw [moduleItems] at h
    obtain ⟨declared, hdeclared, h⟩ := bind_eq_ok_iff.mp h
    obtain ⟨modules, hmodules, h⟩ := bind_eq_ok_iff.mp h
    cases h
    have hplaced : own = bundle.artifacts.filter (·.placement.modulePath = path) := own_of_modulesOf ht
    exact .module (hplaced ▸ forall₂_mapM_ok hdeclared) (ascending_children ht) (fun _ => mem_children_modulesOf ht)
      (laidOutBelow_of_childModules (subtree_of_mem_children ht) hmodules)

theorem laidOutBelow_of_childModules : ∀ {children : List (String × ModuleTree Artifact)} {path : List String}
    {items : List Item}, (∀ c ∈ children, (modulesOf bundle).subtree (path ++ [c.1]) = some c.2) →
      childModules bundle runtime path children = .ok items →
        LaidOutBelow bundle runtime path (children.map (·.1)) items
  | [], path, items, _, h => by
    cases h
    exact .nil
  | (name, child) :: rest, path, items, hsubtree, h => by
    obtain ⟨hchild, hrest⟩ := List.forall_mem_cons.mp hsubtree
    rw [childModules] at h
    obtain ⟨inner, hinner, h⟩ := bind_eq_ok_iff.mp h
    obtain ⟨word, hword, h⟩ := bind_eq_ok_iff.mp h
    obtain ⟨behind, hbehind, h⟩ := bind_eq_ok_iff.mp h
    cases h
    exact .cons hword (laidOut_of_moduleItems hchild hinner) (laidOutBelow_of_childModules hrest hbehind)

end

mutual

theorem moduleItems_of_laidOut : ∀ {t : ModuleTree Artifact} {path : List String} {items : List Item},
    (modulesOf bundle).subtree path = some t → LaidOut bundle runtime path items →
      moduleItems bundle runtime path t = .ok items
  | .node own children, path, items, ht, h => by
    obtain ⟨hown, hascending, hinhabited, hbelow⟩ := h
    rename_i names declared modules
    -- The names of the child modules are settled by the bundle, and their order is ascending.
    obtain rfl : names = children.map (·.1) := Resolver.eq_of_mem_iff hascending (ascending_children ht) fun name =>
      (hinhabited name).trans (mem_children_modulesOf ht).symm
    have hplaced : own = bundle.artifacts.filter (·.placement.modulePath = path) := own_of_modulesOf ht
    have hsubtree : ∀ c ∈ children, (modulesOf bundle).subtree (path ++ [c.1]) = some c.2 := subtree_of_mem_children ht
    rw [← hplaced] at hown
    rw [moduleItems, mapM_eq_ok hown, childModules_of_laidOutBelow hsubtree hbelow]
    rfl

theorem childModules_of_laidOutBelow : ∀ {children : List (String × ModuleTree Artifact)} {path : List String}
    {items : List Item}, (∀ c ∈ children, (modulesOf bundle).subtree (path ++ [c.1]) = some c.2) →
      LaidOutBelow bundle runtime path (children.map (·.1)) items →
        childModules bundle runtime path children = .ok items
  | [], path, items, _, h => by
    cases h
    rfl
  | (name, child) :: rest, path, items, hsubtree, h => by
    obtain ⟨hchild, hrest⟩ := List.forall_mem_cons.mp hsubtree
    cases h with
    | cons hword hinner hbehind =>
      rw [childModules, moduleItems_of_laidOut hchild hinner, hword, childModules_of_laidOutBelow hrest hbehind]
      rfl

end

/-- The items of a file are laid out from the root on, and a layout is the file. -/
theorem fileItems_iff_laidOut {config : Config} : fileItems bundle config = .ok items ↔
    ∃ runtime, RuntimePath.ofText config.runtimePath = .ok runtime ∧ LaidOut bundle runtime [] items := by
  rw [fileItems, bind_eq_ok_iff]
  refine exists_congr fun runtime => and_congr_right fun _ => ?_
  exact ⟨laidOut_of_moduleItems rfl, moduleItems_of_laidOut rfl⟩

end Bundle

/-- The tree of modules holds every artifact of a bundle once, in the module at exactly the path of its placement, and
    in one module artifacts are in the order of the bundle. Every module but the root has an artifact in it or below
    it. The file is written down in this layout: a module for every place, written for its own path, with its artifacts
    before its child modules and these in order of their names. -/
theorem filed_once (bundle : Bundle) :
    (((modulesOf bundle).modules []).map (·.1)).Nodup ∧
      (((modulesOf bundle).modules []).flatMap fun m => m.2.map fun a => (m.1, a)).Perm
        (bundle.artifacts.map fun a => (a.placement.modulePath, a)) ∧
      (∀ path, (modulesOf bundle).find path = bundle.artifacts.filter (·.placement.modulePath = path)) ∧
      (∀ m ∈ (modulesOf bundle).modules [], m.2 = (modulesOf bundle).find m.1 ∧
        (m.1 = [] ∨ ∃ a ∈ bundle.artifacts, m.1 <+: a.placement.modulePath)) ∧
      ∀ config items, fileItems bundle config = .ok items ↔
        ∃ runtime, RuntimePath.ofText config.runtimePath = .ok runtime ∧ LaidOut bundle runtime [] items := by
  refine ⟨ModuleTree.nodup_modules (ModuleTree.ordered_ofList _), ModuleTree.modules_perm _, find_modulesOf bundle,
    fun m hm => ⟨ModuleTree.own_of_mem_modules hm, ?_⟩, fun config items => fileItems_iff_laidOut⟩
  have hpath := ModuleTree.mem_paths_iff.mp (List.mem_map_of_mem hm)
  simpa using hpath

end Typewright.Source
