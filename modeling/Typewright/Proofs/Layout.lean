import Mathlib.Data.List.Induction
import Typewright.Proofs.Modules

/-! # The modules of the file

The file has a module for every place in the tree of modules. Its structs and functions are those of the artifacts
that were sorted into that place, and its modules are those of the places right below it, so what a module declares
can be told from the placements of the artifacts. -/

namespace Typewright.Source

/-! ### Places in the tree -/

namespace ModuleTree
variable {α : Type} {a : α} {t s : ModuleTree α} {path other : List String} {name : String}

/-- What the tree holds from the module at `path` on. -/
def subtree : List String → ModuleTree α → Option (ModuleTree α)
  | [], t => some t
  | name :: path, t => (SortedMap.findEntry name t.children).bind (subtree path)

theorem own_of_subtree : ∀ {t : ModuleTree α}, t.subtree path = some s → s.own = t.find path := by
  induction path with
  | nil =>
    intro t h
    cases h
    rfl
  | cons name path ih =>
    intro t h
    obtain ⟨child, hchild, h⟩ := Option.bind_eq_some_iff.mp h
    rw [find, hchild, Option.getD_some, ih h]

theorem subtree_append : ∀ {t : ModuleTree α}, t.subtree (path ++ other) = (t.subtree path).bind (subtree other) := by
  induction path with
  | nil =>
    intro t
    rw [List.nil_append, subtree, Option.bind_some]
  | cons name path ih =>
    intro t
    rw [List.cons_append, subtree, subtree, Option.bind_assoc]
    exact congrArg _ (funext fun child => ih)

theorem subtree_concat (h : t.subtree path = some s) :
    t.subtree (path ++ [name]) = SortedMap.findEntry name s.children := by
  rw [subtree_append, h, Option.bind_some, subtree]
  cases SortedMap.findEntry name s.children <;> rfl

theorem isSome_subtree_empty : ((empty : ModuleTree α).subtree path).isSome = true ↔ path = [] := by
  cases path with
  | nil => simp [subtree]
  | cons name path => simp [subtree, empty, children, SortedMap.findEntry]

theorem isSome_subtree_insert : ∀ {t : ModuleTree α} {other : List String},
    ((t.insert a path).subtree other).isSome = true ↔ (t.subtree other).isSome = true ∨ other <+: path := by
  induction path with
  | nil =>
    rintro ⟨own, children⟩ other
    cases other with
    | nil => simp [subtree]
    | cons name other => simp [insert, subtree, ModuleTree.children]
  | cons next path ih =>
    rintro ⟨own, children⟩ other
    cases other with
    | nil => simp [subtree]
    | cons name other =>
      rw [insert, subtree, subtree, ModuleTree.children, ModuleTree.children, SortedMap.findEntry_insertEntry,
        List.cons_prefix_cons]
      by_cases hname : next = name
      · subst hname
        rw [if_pos rfl, Option.bind_some, ih]
        cases hchild : SortedMap.findEntry next children with
        | none => simp +contextual [isSome_subtree_empty]
        | some child => simp
      · simp [hname, Ne.symm hname]

theorem isSome_subtree_foldl_insert (entries : List (List String × α)) : ∀ t : ModuleTree α,
    ((entries.foldl (fun t e => t.insert e.2 e.1) t).subtree path).isSome = true ↔
      (t.subtree path).isSome = true ∨ ∃ e ∈ entries, path <+: e.1 := by
  induction entries with
  | nil => simp
  | cons e entries ih =>
    intro t
    rw [List.foldl_cons, ih, isSome_subtree_insert, List.exists_mem_cons_iff, or_assoc]

/-- The children of every module are in order of their names. -/
def Ordered (t : ModuleTree α) : Prop :=
  ∀ path s, t.subtree path = some s → s.children.Pairwise fun a b => a.1 < b.1

theorem ordered_empty : (empty : ModuleTree α).Ordered := by
  intro path s h
  have hpath := isSome_subtree_empty.mp (Option.isSome_iff_exists.mpr ⟨s, h⟩)
  subst hpath
  cases h
  exact List.Pairwise.nil

theorem Ordered.child (h : t.Ordered) {child : ModuleTree α} (hchild : SortedMap.findEntry name t.children = some child) :
    child.Ordered := by
  intro path s hs
  refine h (name :: path) s ?_
  rw [subtree, hchild, Option.bind_some, hs]

theorem Ordered.insert : ∀ {t : ModuleTree α}, t.Ordered → (t.insert a path).Ordered := by
  induction path with
  | nil =>
    rintro ⟨own, children⟩ h other s hs
    cases other with
    | nil =>
      cases hs
      exact h [] (node own children) rfl
    | cons name other => exact h (name :: other) s hs
  | cons next path ih =>
    rintro ⟨own, children⟩ h other s hs
    have hchildren := h [] _ rfl
    cases other with
    | nil =>
      cases hs
      exact SortedMap.insertEntry_ascending hchildren
    | cons name other =>
      obtain ⟨child, hchild, hs⟩ := Option.bind_eq_some_iff.mp hs
      rw [ModuleTree.insert, ModuleTree.children, SortedMap.findEntry_insertEntry] at hchild
      split at hchild
      · cases hchild
        refine ih ?_ other s hs
        rw [ModuleTree.children]
        cases hold : SortedMap.findEntry next children with
        | none => exact ordered_empty
        | some old => exact h.child hold
      · exact h (name :: other) s (Option.bind_eq_some_iff.mpr ⟨child, hchild, hs⟩)

theorem ordered_foldl_insert (entries : List (List String × α)) : ∀ {t : ModuleTree α}, t.Ordered →
    (entries.foldl (fun t e => t.insert e.2 e.1) t).Ordered := by
  induction entries with
  | nil => exact fun h => h
  | cons e entries ih => exact fun h => ih h.insert

theorem isSome_subtree_ofList {entries : List (List String × α)} :
    ((ofList entries).subtree path).isSome = true ↔ path = [] ∨ ∃ e ∈ entries, path <+: e.1 := by
  rw [ofList, isSome_subtree_foldl_insert, isSome_subtree_empty]

theorem ordered_ofList (entries : List (List String × α)) : (ofList entries).Ordered :=
  ordered_foldl_insert entries ordered_empty

theorem mem_children_iff (h : t.subtree path = some s) :
    name ∈ s.children.map (·.1) ↔ (t.subtree (path ++ [name])).isSome = true := by
  rw [subtree_concat h, SortedMap.isSome_findEntry_iff]

end ModuleTree

/-! ### Modules of items -/

/-- `inner` is the content of a module of the file: of the file itself, or of a module that another one declares. -/
inductive ModuleOf (items : List Item) : List Item → Prop where
  | file : ModuleOf items items
  | child {outer inner : List Item} {attributes : List Attribute} {name : String} : ModuleOf items outer →
      .module attributes name inner ∈ outer → ModuleOf items inner

section Write
variable {bundle : Bundle} {runtime : RuntimePath} {path : List String} {t s : ModuleTree Artifact}
  {items inner : List Item}

/-- How the names that stand in a module are written there. -/
structure WritesNames (s : ModuleTree Artifact) (items : List Item) : Prop where
  structs : List.Forall₂ (identifier · = .ok ·) (s.own.flatMap fun a => [a.data.name, a.builder.name])
    (items.filterMap Item.structName?)
  functions : List.Forall₂ (identifier · = .ok ·) (s.own.map (·.helper.name)) (items.filterMap Item.functionName?)
  modules : List.Forall₂ (identifier · = .ok ·) (s.children.map (·.1)) (items.filterMap Item.moduleName?)

theorem writesNames_own {own : List Artifact} {declared : List (List Item)} {scope : Scope}
    (h : List.Forall₂ (fun a decls => declarations scope a = .ok decls) own declared) :
    WritesNames (.node own []) declared.flatten := by
  induction h with
  | nil => exact ⟨List.Forall₂.nil, List.Forall₂.nil, List.Forall₂.nil⟩
  | cons ha _ ih =>
    obtain ⟨data, builder, helper, hdata, hbuilder, hhelper, honly⟩ := declareOnly_declarations ha
    constructor
    case structs =>
      rw [List.flatten_cons, List.filterMap_append, honly.structs]
      exact List.Forall₂.cons hdata (List.Forall₂.cons hbuilder ih.structs)
    case functions =>
      rw [List.flatten_cons, List.filterMap_append, honly.functions]
      exact List.Forall₂.cons hhelper ih.functions
    case modules =>
      rw [List.flatten_cons, List.filterMap_append, honly.modules]
      exact ih.modules

theorem writesNames_children {children : List (String × ModuleTree Artifact)} {modules : List Item}
    (h : List.Forall₂ (WrittenChild bundle runtime path) children modules) :
    WritesNames (.node [] children) modules := by
  induction h with
  | nil => exact ⟨List.Forall₂.nil, List.Forall₂.nil, List.Forall₂.nil⟩
  | cons hc _ ih =>
    obtain ⟨attributes, word, inner, rfl, hword, -⟩ := hc
    exact ⟨ih.structs, ih.functions, List.Forall₂.cons hword ih.modules⟩

theorem writesNames_of_moduleItems (h : moduleItems bundle runtime path s = .ok items) : WritesNames s items := by
  obtain ⟨declared, modules, hdeclared, hmodules, rfl⟩ := moduleItems_ok h
  have hown := writesNames_own hdeclared
  have hchildren := writesNames_children hmodules
  constructor
  case structs =>
    rw [List.filterMap_append, List.forall₂_nil_left_iff.mp hchildren.structs, List.append_nil]
    exact hown.structs
  case functions =>
    rw [List.filterMap_append, List.forall₂_nil_left_iff.mp hchildren.functions, List.append_nil]
    exact hown.functions
  case modules =>
    rw [List.filterMap_append, List.forall₂_nil_left_iff.mp hown.modules, List.nil_append]
    exact hchildren.modules

/-- Every place in the tree is written down as a module. -/
theorem moduleOf_subtree (h : moduleItems bundle runtime [] t = .ok items) : ∀ {s : ModuleTree Artifact},
    t.subtree path = some s → ∃ inner, ModuleOf items inner ∧ moduleItems bundle runtime path s = .ok inner := by
  -- A module is reached from the one around it, so the path is taken apart at its end.
  induction path using List.reverseRecOn with
  | nil =>
    intro s hs
    cases hs
    exact ⟨items, .file, h⟩
  | append_singleton path name ih =>
    intro s hs
    rw [ModuleTree.subtree_append] at hs
    obtain ⟨outer, houter, hs⟩ := Option.bind_eq_some_iff.mp hs
    obtain ⟨child, hchild, hs⟩ := Option.bind_eq_some_iff.mp hs
    cases hs
    obtain ⟨content, hcontent, houterItems⟩ := ih houter
    obtain ⟨declared, modules, -, hmodules, rfl⟩ := moduleItems_ok houterItems
    obtain ⟨_, hmem, attributes, word, inner, rfl, -, hinner⟩ :=
      exists_of_mem_left hmodules (SortedMap.mem_of_findEntry hchild)
    exact ⟨inner, .child hcontent (List.mem_append_right _ hmem), hinner⟩

/-- Every module is written down for a place in the tree. -/
theorem subtree_of_moduleOf (hordered : t.Ordered) (h : moduleItems bundle runtime [] t = .ok items)
    (hinner : ModuleOf items inner) :
    ∃ path s, t.subtree path = some s ∧ moduleItems bundle runtime path s = .ok inner := by
  induction hinner with
  | file => exact ⟨[], t, rfl, h⟩
  | @child outer inner attributes name _ hmem ih =>
    obtain ⟨path, s, hs, houter⟩ := ih
    obtain ⟨declared, modules, hdeclared, hmodules, rfl⟩ := moduleItems_ok houter
    rcases List.mem_append.mp hmem with hmem | hmem
    -- Artifacts declare no modules, so `inner` belongs to a child.
    · have hnone := List.forall₂_nil_left_iff.mp (writesNames_own hdeclared).modules
      have hname := List.filterMap_eq_nil_iff.mp hnone _ hmem
      cases hname
    · obtain ⟨c, hc, _, word, inner, heq, -, hinner⟩ := exists_of_mem_right hmodules hmem
      cases heq
      refine ⟨path ++ [c.1], c.2, ?_, hinner⟩
      rw [ModuleTree.subtree_concat hs]
      exact (SortedMap.findEntry_eq_some_iff (hordered path s hs)).mpr hc

end Write

end Typewright.Source
