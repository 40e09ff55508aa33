import Typewright.Source.Declarations

/-!
# The tree of modules

Every artifact stands in the module that its placement names. `ModuleTree.ofList` sorts things into modules; a module
keeps its own things in the order in which they came, and its child modules in order of names. Items are written for a
module with the artifacts of the module first and the child modules behind them.
-/

namespace Typewright.Source

inductive ModuleTree (α : Type) where
  | node (own : List α) (children : List (String × ModuleTree α))

namespace ModuleTree

variable {α : Type}

def empty : ModuleTree α := node [] []

instance : Inhabited (ModuleTree α) := ⟨empty⟩

def own : ModuleTree α → List α
  | node own _ => own

def children : ModuleTree α → List (String × ModuleTree α)
  | node _ children => children

/-- The tree with one more thing in the module at `path`. -/
def insert (a : α) : List String → ModuleTree α → ModuleTree α
  | [], t => node (t.own ++ [a]) t.children
  | name :: path, t =>
    node t.own (SortedMap.insertEntry name (insert a path ((SortedMap.findEntry name t.children).getD empty)) t.children)

/-- The tree of things with their modules. -/
def ofList (entries : List (List String × α)) : ModuleTree α :=
  entries.foldl (fun t e => t.insert e.2 e.1) empty

/-- What stands in the module at `path`. -/
def find : List String → ModuleTree α → List α
  | [], t => t.own
  | name :: path, t => find path ((SortedMap.findEntry name t.children).getD empty)

end ModuleTree

/-- The artifacts of a bundle in their modules. -/
def modulesOf (bundle : Bundle) : ModuleTree Artifact :=
  .ofList (bundle.artifacts.map fun a => (a.placement.modulePath, a))

/-- The documentation of a module. -/
def moduleDoc (path : List String) : Attribute := .doc (" Types of the `" ++ ".".intercalate path ++ "` namespace.")

mutual

/-- The items of the module at `path`. -/
def moduleItems (bundle : Bundle) (runtime : RuntimePath) (path : List String) :
    ModuleTree Artifact → Except RenderError (List Item)
  | .node own children => do
    let own ← own.mapM (declarations ⟨path, bundle, runtime⟩)
    return own.flatten ++ (← childModules bundle runtime path children)

/-- The child modules of the module at `path`. -/
def childModules (bundle : Bundle) (runtime : RuntimePath) (path : List String) :
    List (String × ModuleTree Artifact) → Except RenderError (List Item)
  | [] => return []
  | (name, child) :: rest => do
    let items ← moduleItems bundle runtime (path ++ [name]) child
    let word ← identifier name
    return .module [moduleDoc (path ++ [name])] word items :: (← childModules bundle runtime path rest)

end

end Typewright.Source
