import Typewright.Proofs.Emitted
import Typewright.Source.File

/-! # Where artifacts stand in the file

An artifact stands in the module that its placement names: it is written down there, with that module as the one that
its paths start from, and its two structs are items of that module in the file. -/

namespace Typewright.Source

/-! ### The tree of modules -/

namespace ModuleTree
variable {α : Type}

theorem find_empty (path : List String) : (empty : ModuleTree α).find path = [] := by
  induction path with
  | nil => rfl
  | cons name path ih => exact ih

theorem find_insert (a : α) (path : List String) : ∀ (t : ModuleTree α) (other : List String),
    (t.insert a path).find other = if path = other then t.find other ++ [a] else t.find other := by
  induction path with
  | nil =>
    rintro ⟨own, children⟩ other
    cases other with
    | nil => simp [insert, find, ModuleTree.own]
    | cons name other => simp [insert, find, ModuleTree.children]
  | cons name path ih =>
    rintro ⟨own, children⟩ other
    cases other with
    | nil => simp [insert, find, ModuleTree.own]
    | cons name' other =>
      rw [insert, find, find, ModuleTree.children, SortedMap.findEntry_insertEntry]
      by_cases hname : name = name'
      · subst hname
        rw [if_pos rfl, Option.getD_some, ih]
        simp [ModuleTree.children]
      · simp [hname, ModuleTree.children]

theorem find_foldl_insert (entries : List (List String × α)) (path : List String) : ∀ t : ModuleTree α,
    (entries.foldl (fun t e => t.insert e.2 e.1) t).find path =
      t.find path ++ (entries.filter fun e => e.1 = path).map (·.2) := by
  induction entries with
  | nil => simp
  | cons e entries ih =>
    intro t
    rw [List.foldl_cons, ih, find_insert]
    by_cases he : e.1 = path
    · simp [he]
    · simp [he]

/-- A module holds what was sorted into it, in the order of the list. -/
theorem find_ofList (entries : List (List String × α)) (path : List String) :
    (ofList entries).find path = (entries.filter fun e => e.1 = path).map (·.2) := by
  rw [ofList, find_foldl_insert, find_empty, List.nil_append]

end ModuleTree

theorem find_modulesOf (bundle : Bundle) (path : List String) :
    (modulesOf bundle).find path = bundle.artifacts.filter (·.placement.modulePath = path) := by
  rw [modulesOf, ModuleTree.find_ofList, List.filter_map, List.map_map]
  exact List.map_id _

theorem mem_modulesOf {bundle : Bundle} {a : Artifact} (ha : a ∈ bundle.artifacts) :
    a ∈ (modulesOf bundle).find a.placement.modulePath := by
  rw [find_modulesOf]
  exact List.mem_filter.mpr ⟨ha, by simp⟩

/-! ### Items of modules -/

/-- `item` is an item of the module that is reached from `items` over modules of the names `path`. -/
def InModule : List String → List Item → Item → Prop
  | [], items, item => item ∈ items
  | name :: path, items, item => ∃ attributes inner, .module attributes name inner ∈ items ∧ InModule path inner item

section Write
variable {bundle : Bundle} {runtime : RuntimePath} {path : List String}

/-- What is written down for a child of the module at `path`. -/
def WrittenChild (bundle : Bundle) (runtime : RuntimePath) (path : List String) (c : String × ModuleTree Artifact)
    (item : Item) : Prop :=
  ∃ attributes word inner, item = .module attributes word inner ∧ identifier c.1 = .ok word ∧
    moduleItems bundle runtime (path ++ [c.1]) c.2 = .ok inner

theorem childModules_ok {children : List (String × ModuleTree Artifact)} : ∀ {items : List Item},
    childModules bundle runtime path children = .ok items →
      List.Forall₂ (WrittenChild bundle runtime path) children items := by
  induction children with
  | nil =>
    intro items h
    cases h
    exact List.Forall₂.nil
  | cons c children ih =>
    intro items h
    rw [childModules] at h
    obtain ⟨inner, hinner, h⟩ := bind_eq_ok_iff.mp h
    obtain ⟨word, hword, h⟩ := bind_eq_ok_iff.mp h
    obtain ⟨rest, hrest, h⟩ := bind_eq_ok_iff.mp h
    cases h
    exact List.Forall₂.cons ⟨_, word, inner, rfl, hword, hinner⟩ (ih hrest)

theorem moduleItems_ok {t : ModuleTree Artifact} {items : List Item} (h : moduleItems bundle runtime path t = .ok items) :
    ∃ declared modules, List.Forall₂ (fun a decls => declarations ⟨path, bundle, runtime⟩ a = .ok decls) t.own declared ∧
      List.Forall₂ (WrittenChild bundle runtime path) t.children modules ∧ items = declared.flatten ++ modules := by
  obtain ⟨own, children⟩ := t
  rw [moduleItems] at h
  obtain ⟨declared, hdeclared, h⟩ := bind_eq_ok_iff.mp h
  obtain ⟨modules, hmodules, h⟩ := bind_eq_ok_iff.mp h
  cases h
  exact ⟨declared, modules, forall₂_mapM_ok hdeclared, childModules_ok hmodules, rfl⟩

/-- What stands in a module of the tree is written down for that module and becomes items of it. -/
theorem inModule_of_mem_find {a : Artifact} : ∀ {below path : List String} {t : ModuleTree Artifact}
    {items : List Item}, a ∈ t.find below → moduleItems bundle runtime path t = .ok items →
      ∃ words decls, below.mapM identifier = .ok words ∧
        declarations ⟨path ++ below, bundle, runtime⟩ a = .ok decls ∧ ∀ item ∈ decls, InModule words items item := by
  -- What is left of the way gets shorter by the name that the way so far gains, so their sum is the module of `a`.
  intro below
  induction below with
  | nil =>
    intro path t items ha h
    obtain ⟨declared, modules, hdeclared, -, rfl⟩ := moduleItems_ok h
    obtain ⟨decls, hdecls, hok⟩ := exists_of_mem_left hdeclared ha
    refine ⟨[], decls, rfl, by rwa [List.append_nil], fun item hitem => ?_⟩
    exact List.mem_append_left _ (List.mem_flatten.mpr ⟨decls, hdecls, hitem⟩)
  | cons name below ih =>
    intro path t items ha h
    obtain ⟨declared, modules, -, hmodules, rfl⟩ := moduleItems_ok h
    rw [ModuleTree.find] at ha
    cases hchild : SortedMap.findEntry name t.children with
    | none =>
      rw [hchild, Option.getD_none, ModuleTree.find_empty] at ha
      cases ha
    | some child =>
      rw [hchild, Option.getD_some] at ha
      obtain ⟨_, hmem, attributes, word, inner, rfl, hword, hinner⟩ :=
        exists_of_mem_left hmodules (SortedMap.mem_of_findEntry hchild)
      obtain ⟨words, decls, hwords, hdecls, hin⟩ := ih ha hinner
      refine ⟨word :: words, decls, ?_, by rwa [List.append_assoc] at hdecls, fun item hitem => ?_⟩
      · rw [List.mapM_cons, hword, hwords]
        rfl
      · exact ⟨attributes, inner, List.mem_append_right _ hmem, hin item hitem⟩

end Write

/-! ### Names of items -/

def Item.structName? : Item → Option String
  | .struct s => some s.name
  | _ => none

def Item.functionName? : Item → Option String
  | .function f => some f.name
  | _ => none

def Item.moduleName? : Item → Option String
  | .module _ name _ => some name
  | _ => none

/-- `items` declare these structs and functions, in this order, and no modules. -/
structure DeclareOnly (items : List Item) (structs functions : List String) : Prop where
  structs : items.filterMap Item.structName? = structs
  functions : items.filterMap Item.functionName? = functions
  modules : items.filterMap Item.moduleName? = []

section Names
variable {scope : Scope} {a : Artifact} {items decls : List Item}

theorem DeclareOnly.append {structs structs' functions functions' : List String}
    (h : DeclareOnly items structs functions) (h' : DeclareOnly decls structs' functions') :
    DeclareOnly (items ++ decls) (structs ++ structs') (functions ++ functions') where
  structs := by rw [List.filterMap_append, h.structs, h'.structs]
  functions := by rw [List.filterMap_append, h.functions, h'.functions]
  modules := by rw [List.filterMap_append, h.modules, h'.modules, List.append_nil]

theorem declareOnly_dataItems (h : dataItems scope a = .ok items) :
    ∃ name, identifier a.data.name = .ok name ∧ DeclareOnly items [name] [] := by
  rw [dataItems] at h
  obtain ⟨name, hname, h⟩ := bind_eq_ok_iff.mp h
  obtain ⟨_, -, h⟩ := bind_eq_ok_iff.mp h
  obtain ⟨_, -, h⟩ := bind_eq_ok_iff.mp h
  obtain ⟨_, -, h⟩ := bind_eq_ok_iff.mp h
  obtain ⟨_, -, h⟩ := bind_eq_ok_iff.mp h
  obtain ⟨_, -, h⟩ := bind_eq_ok_iff.mp h
  cases h
  refine ⟨name, hname, ?_⟩
  cases a.data.resourceType <;> exact ⟨rfl, rfl, rfl⟩

theorem declareOnly_builderItems (h : builderItems scope a = .ok items) :
    ∃ name, identifier a.builder.name = .ok name ∧ DeclareOnly items [name] [] := by
  rw [builderItems] at h
  obtain ⟨name, hname, h⟩ := bind_eq_ok_iff.mp h
  obtain ⟨_, -, h⟩ := bind_eq_ok_iff.mp h
  obtain ⟨_, -, h⟩ := bind_eq_ok_iff.mp h
  obtain ⟨_, -, h⟩ := bind_eq_ok_iff.mp h
  obtain ⟨_, -, h⟩ := bind_eq_ok_iff.mp h
  obtain ⟨_, -, h⟩ := bind_eq_ok_iff.mp h
  cases h
  exact ⟨name, hname, rfl, rfl, rfl⟩

theorem name_of_functionOf {attributes : List Attribute} {summary : String} {receiver : List Code} {result : Code}
    {c : Callable} {f : Function} (h : functionOf scope attributes summary receiver result c = .ok f) :
    identifier c.name = .ok f.name := by
  rw [functionOf] at h
  obtain ⟨name, hname, h⟩ := bind_eq_ok_iff.mp h
  obtain ⟨_, -, h⟩ := bind_eq_ok_iff.mp h
  obtain ⟨_, -, h⟩ := bind_eq_ok_iff.mp h
  cases h
  exact hname

theorem declareOnly_helperItem {item : Item} (h : helperItem scope a = .ok item) :
    ∃ name, identifier a.helper.name = .ok name ∧ DeclareOnly [item] [] [name] := by
  rw [helperItem] at h
  obtain ⟨_, -, h⟩ := bind_eq_ok_iff.mp h
  split at h
  all_goals
    obtain ⟨f, hf, h⟩ := bind_eq_ok_iff.mp h
    cases h
    exact ⟨f.name, name_of_functionOf hf, rfl, rfl, rfl⟩

/-- An artifact declares a struct for its data type and for its builder, and its helper. -/
theorem declareOnly_declarations (h : declarations scope a = .ok decls) :
    ∃ data builder helper, identifier a.data.name = .ok data ∧ identifier a.builder.name = .ok builder ∧
      identifier a.helper.name = .ok helper ∧ DeclareOnly decls [data, builder] [helper] := by
  rw [declarations] at h
  obtain ⟨dataDecls, hdata, h⟩ := bind_eq_ok_iff.mp h
  obtain ⟨builderDecls, hbuilder, h⟩ := bind_eq_ok_iff.mp h
  obtain ⟨helperDecl, hhelper, h⟩ := bind_eq_ok_iff.mp h
  cases h
  obtain ⟨data, hdataName, hdata⟩ := declareOnly_dataItems hdata
  obtain ⟨builder, hbuilderName, hbuilder⟩ := declareOnly_builderItems hbuilder
  obtain ⟨helper, hhelperName, hhelper⟩ := declareOnly_helperItem hhelper
  exact ⟨data, builder, helper, hdataName, hbuilderName, hhelperName, (hdata.append hbuilder).append hhelper⟩

end Names

/-! ### The two structs of an artifact -/

/-- The two things that a type name may be written for. -/
inductive Role where
  | data
  | builder
  deriving DecidableEq

/-- The name of the struct for a role. -/
def Role.nameOf (role : Role) (p : Placement) : String :=
  match role with
  | .data => p.className
  | .builder => p.builderName

/-- The name of the struct that an artifact declares for a role. -/
def structName (a : Artifact) : Role → String
  | .data => a.data.name
  | .builder => a.builder.name

theorem structName_eq {schema : Schema} {config : Config} {table : MemberTable} {artifacts : Catalogue Artifact}
    {a : Artifact} (h : Emission.Emits schema config table artifacts)
    (ha : a ∈ (Bundle.ofCatalogue artifacts).artifacts) (role : Role) :
    structName a role = role.nameOf a.placement := by
  cases role with
  | data => exact (h.generated ha).dataName
  | builder => exact (h.generated ha).builderName

/-- The names of the modules that a struct stands in, from the root on, and its own name, as they are written. -/
abbrev Place := List String × String

/-- Where an artifact declares its struct for a role. -/
def declaredAt (a : Artifact) (role : Role) : Except RenderError Place := do
  let modules ← a.placement.modulePath.mapM identifier
  let name ← identifier (role.nameOf a.placement)
  return (modules, name)

theorem declaredAt_eq_ok_iff {a : Artifact} {role : Role} {modules : List String} {name : String} :
    declaredAt a role = .ok (modules, name) ↔
      a.placement.modulePath.mapM identifier = .ok modules ∧ identifier (role.nameOf a.placement) = .ok name := by
  rw [declaredAt]
  constructor
  · intro h
    obtain ⟨_, hmodules, h⟩ := bind_eq_ok_iff.mp h
    obtain ⟨_, hname, h⟩ := bind_eq_ok_iff.mp h
    cases h
    exact ⟨hmodules, hname⟩
  · rintro ⟨hmodules, hname⟩
    rw [hmodules, hname]
    rfl

theorem exists_struct_of_declarations {scope : Scope} {a : Artifact} {decls : List Item}
    (hdata : a.data.name = a.placement.className) (hbuilder : a.builder.name = a.placement.builderName)
    (h : declarations scope a = .ok decls) (role : Role) :
    ∃ s, .struct s ∈ decls ∧ identifier (role.nameOf a.placement) = .ok s.name := by
  obtain ⟨data, builder, _, hdataName, hbuilderName, -, honly⟩ := declareOnly_declarations h
  rw [hdata] at hdataName
  rw [hbuilder] at hbuilderName
  have hstruct : ∀ word ∈ [data, builder], ∃ s, .struct s ∈ decls ∧ s.name = word := by
    intro word hword
    rw [← honly.structs] at hword
    obtain ⟨item, hitem, hname⟩ := List.mem_filterMap.mp hword
    cases item with
    | struct s => exact ⟨s, hitem, Option.some.inj hname⟩
    | implementation | function | module => cases hname
  cases role with
  | data =>
    obtain ⟨s, hs, rfl⟩ := hstruct data List.mem_cons_self
    exact ⟨s, hs, hdataName⟩
  | builder =>
    obtain ⟨s, hs, rfl⟩ := hstruct builder (List.mem_cons_of_mem _ List.mem_cons_self)
    exact ⟨s, hs, hbuilderName⟩

/-- In the file an artifact is written down for its own module, and its structs stand where it declares them. -/
theorem declared_of_fileItems {bundle : Bundle} {config : Config} {items : List Item} {a : Artifact}
    (h : fileItems bundle config = .ok items) (ha : a ∈ bundle.artifacts)
    (hdata : a.data.name = a.placement.className) (hbuilder : a.builder.name = a.placement.builderName) :
    ∃ runtime decls modules, RuntimePath.ofText config.runtimePath = .ok runtime ∧
      declarations ⟨a.placement.modulePath, bundle, runtime⟩ a = .ok decls ∧
        (∀ item ∈ decls, InModule modules items item) ∧
          ∀ role, ∃ s, .struct s ∈ decls ∧ declaredAt a role = .ok (modules, s.name) := by
  rw [fileItems] at h
  obtain ⟨runtime, hruntime, h⟩ := bind_eq_ok_iff.mp h
  obtain ⟨modules, decls, hmodules, hdecls, hin⟩ := inModule_of_mem_find (mem_modulesOf ha) h
  refine ⟨runtime, decls, modules, hruntime, hdecls, hin, fun role => ?_⟩
  obtain ⟨s, hs, hname⟩ := exists_struct_of_declarations hdata hbuilder hdecls role
  exact ⟨s, hs, declaredAt_eq_ok_iff.mpr ⟨hmodules, hname⟩⟩

end Typewright.Source
