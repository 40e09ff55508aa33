import Typewright.Generation
import Typewright.Proofs.Layout
import Typewright.Proofs.Merging
import Typewright.Proofs.References
import Typewright.Proofs.Spelling
import Typewright.Proofs.Stages

/-! # Identifiers that a module declares twice

Items are kept apart by their names, but a module is written with identifiers, and different names may have the same
identifier: a name and its raw form, or names that differ in blanks and comments only. In the file no helper is
declared twice in its module. A struct or a module is declared twice only where two names that stand in one module are
spelled alike, and that never happens where all names are plain. -/

namespace Typewright

open Emission

namespace Source

/-- The identifier of a name as the language sees it, for which the mark of a raw form makes no difference. -/
def spelling (name : String) : Except RenderError String := (identifier name).map bare

/-- The identifiers of the structs and modules that `items` declare. -/
def typeIdentifiers (items : List Item) : List String :=
  (items.filterMap Item.structName? ++ items.filterMap Item.moduleName?).map bare

/-- The identifiers of the functions that `items` declare. -/
def functionIdentifiers (items : List Item) : List String := (items.filterMap Item.functionName?).map bare

/-- A struct or a module of that name stands in the module at `path`. -/
def StandsIn (bundle : Bundle) (path : List String) (name : String) : Prop :=
  ∃ a ∈ bundle.artifacts, (a.placement.modulePath = path ∧ name ∈ structNames a.placement) ∨
    path ++ [name] <+: a.placement.modulePath

/-! ### Spelling -/

theorem map_spelling {names words : List String} (h : List.Forall₂ (identifier · = .ok ·) names words) :
    names.map spelling = (words.map bare).map .ok := by
  induction h with
  | nil => rfl
  | cons hname _ ih => rw [List.map_cons, List.map_cons, List.map_cons, ih, spelling, hname, Except.map]

theorem map_bare_of_plain {names words : List String} (h : List.Forall₂ (identifier · = .ok ·) names words)
    (hplain : ∀ name ∈ names, Plain name) : words.map bare = names := by
  induction h with
  | nil => rfl
  | cons hname _ ih =>
    rw [List.map_cons, bare_identifier (hplain _ List.mem_cons_self) hname,
      ih fun name hmem => hplain name (List.mem_cons_of_mem _ hmem)]

theorem spelling_of_plain {name : String} (h : Plain name) :
    spelling name = .ok name ∨ spelling name = .error (.invalidIdentifier name) := by
  rw [spelling]
  cases hword : identifier name with
  | ok word => exact Or.inl (congrArg Except.ok (bare_identifier h hword))
  | error e => exact Or.inr (congrArg Except.error (eq_invalidIdentifier hword))

theorem eq_of_spelling_eq {m n : String} (hm : Plain m) (hn : Plain n) (h : spelling m = spelling n) : m = n := by
  rcases spelling_of_plain hm with hm | hm <;> rcases spelling_of_plain hn with hn | hn <;> rw [hm, hn] at h <;>
    cases h <;> rfl

/-! ### Names that stand in a module -/

section Module
variable {schema : Schema} {config : Config} {table : MemberTable} {artifacts : Catalogue Artifact}
  {s : ModuleTree Artifact} {path : List String} {items inner : List Item}

/-- The names of the structs and modules of a module, in the order in which they are written. -/
def namesOf (s : ModuleTree Artifact) : List String :=
  s.own.flatMap (structNames ·.placement) ++ s.children.map (·.1)

theorem own_of_modulesOf {bundle : Bundle} (hs : (modulesOf bundle).subtree path = some s) :
    s.own = bundle.artifacts.filter (·.placement.modulePath = path) :=
  (ModuleTree.own_of_subtree hs).trans (find_modulesOf bundle path)

theorem mem_children_modulesOf {bundle : Bundle} (hs : (modulesOf bundle).subtree path = some s) {name : String} :
    name ∈ s.children.map (·.1) ↔ ∃ a ∈ bundle.artifacts, path ++ [name] <+: a.placement.modulePath := by
  rw [ModuleTree.mem_children_iff hs, modulesOf, ModuleTree.isSome_subtree_ofList]
  simp

theorem mem_namesOf_iff {bundle : Bundle} (hs : (modulesOf bundle).subtree path = some s) {name : String} :
    name ∈ namesOf s ↔ StandsIn bundle path name := by
  rw [namesOf, List.mem_append, mem_children_modulesOf hs, List.mem_flatMap, own_of_modulesOf hs]
  simp only [List.mem_filter, decide_eq_true_eq, StandsIn]
  constructor
  · rintro (⟨a, ⟨ha, hpath⟩, hname⟩ | ⟨a, ha, hlead⟩)
    · exact ⟨a, ha, Or.inl ⟨hpath, hname⟩⟩
    · exact ⟨a, ha, Or.inr hlead⟩
  · rintro ⟨a, ha, ⟨hpath, hname⟩ | hlead⟩
    · exact Or.inl ⟨a, ⟨ha, hpath⟩, hname⟩
    · exact Or.inr ⟨a, ha, hlead⟩

theorem nodup_namesOf {bundle : Bundle} (h : DistinctItems (bundle.artifacts.map (·.placement)))
    (hs : (modulesOf bundle).subtree path = some s) : (namesOf s).Nodup := by
  have hchildren : (s.children.map (·.1)).Nodup := by
    rw [List.Nodup, List.pairwise_map]
    exact (ModuleTree.ordered_ofList _ path s hs).imp fun hlt => SortedMap.ne_of_lt hlt
  have hstructs : (s.own.flatMap (structNames ·.placement)).Nodup := by
    have hall := h.nodup_structNames path
    simpa only [List.filter_map, List.flatMap_map, Function.comp_def, ← own_of_modulesOf hs] using hall
  refine hstructs.append hchildren fun name hname hchild => ?_
  obtain ⟨a, ha, hname⟩ := List.mem_flatMap.mp hname
  rw [own_of_modulesOf hs, List.mem_filter, decide_eq_true_eq] at ha
  obtain ⟨ha, rfl⟩ := ha
  obtain ⟨b, hb, hlead⟩ := (mem_children_modulesOf hs).mp hchild
  exact h.not_mem_structNames (List.mem_map_of_mem ha) (List.mem_map_of_mem hb) hlead hname

theorem fileItems_ok {bundle : Bundle} (h : fileItems bundle config = .ok items) :
    ∃ runtime, moduleItems bundle runtime [] (modulesOf bundle) = .ok items := by
  obtain ⟨runtime, -, h⟩ := bind_eq_ok_iff.mp h
  exact ⟨runtime, h⟩

theorem nodup_typeIdentifiers_place (hE : Emits schema config table artifacts)
    (hs : (modulesOf (.ofCatalogue artifacts)).subtree path = some s) (hwrites : WritesNames s inner) :
    (typeIdentifiers inner).Nodup ↔ ∀ m ∈ namesOf s, ∀ n ∈ namesOf s, spelling m = spelling n → m = n := by
  have hnames : s.own.flatMap (fun a => [a.data.name, a.builder.name]) = s.own.flatMap (structNames ·.placement) := by
    refine List.flatMap_congr fun a ha => ?_
    rw [own_of_modulesOf hs] at ha
    have hgen := hE.generated (List.mem_filter.mp ha).1
    rw [hgen.dataName, hgen.builderName, structNames]
  have hstructs := hwrites.structs
  rw [hnames] at hstructs
  have hspelling := map_spelling (List.rel_append hstructs hwrites.modules)
  rw [← List.nodup_map_iff_inj_on (nodup_namesOf hE.distinctItems hs), namesOf, hspelling,
    List.nodup_map_iff fun _ _ => Except.ok.inj]
  rfl

theorem nodup_functionIdentifiers_place (hE : Emits schema config table artifacts)
    (hs : (modulesOf (.ofCatalogue artifacts)).subtree path = some s) (hwrites : WritesNames s inner) :
    (functionIdentifiers inner).Nodup := by
  have hhelpers : s.own.map (·.helper.name) = s.own.map (·.placement.helperName) := by
    refine List.map_congr_left fun a ha => ?_
    rw [own_of_modulesOf hs] at ha
    exact (hE.generated (List.mem_filter.mp ha).1).name_helper
  have hwritten := hwrites.functions
  rw [hhelpers] at hwritten
  have hplain : ∀ name ∈ s.own.map (·.placement.helperName), Plain name := by
    intro name hname
    obtain ⟨a, -, rfl⟩ := List.mem_map.mp hname
    rw [Placement.helperName]
    exact plain_memberName a.placement.className
  have hall := hE.distinctItems.nodup_helperNames path
  simp only [List.filter_map, List.map_map, Function.comp_def, ← own_of_modulesOf hs] at hall
  rwa [functionIdentifiers, map_bare_of_plain hwritten hplain]

/-- The file declares no struct and no module twice if names that stand in one module are spelled differently. -/
theorem nodup_typeIdentifiers_iff (hE : Emits schema config table artifacts)
    (h : fileItems (.ofCatalogue artifacts) config = .ok items) :
    (∀ inner, ModuleOf items inner → (typeIdentifiers inner).Nodup) ↔
      ∀ path m n, StandsIn (.ofCatalogue artifacts) path m → StandsIn (.ofCatalogue artifacts) path n →
        spelling m = spelling n → m = n := by
  obtain ⟨runtime, hitems⟩ := fileItems_ok h
  constructor
  · intro hall path m n hm hn hspelling
    -- Where a name stands there is a place in the tree, so there is a module that declares it.
    have hsome : ((modulesOf (.ofCatalogue artifacts)).subtree path).isSome = true := by
      rw [modulesOf, ModuleTree.isSome_subtree_ofList]
      obtain ⟨a, ha, ⟨rfl, -⟩ | hlead⟩ := hm
      · exact Or.inr ⟨_, List.mem_map_of_mem ha, List.prefix_refl _⟩
      · exact Or.inr ⟨_, List.mem_map_of_mem ha, (List.prefix_append path [m]).trans hlead⟩
    obtain ⟨s, hs⟩ := Option.isSome_iff_exists.mp hsome
    obtain ⟨inner, hinner, hwritten⟩ := moduleOf_subtree hitems hs
    have hdistinct := (nodup_typeIdentifiers_place hE hs (writesNames_of_moduleItems hwritten)).mp (hall inner hinner)
    exact hdistinct m ((mem_namesOf_iff hs).mpr hm) n ((mem_namesOf_iff hs).mpr hn) hspelling
  · intro hdistinct inner hinner
    obtain ⟨path, s, hs, hwritten⟩ := subtree_of_moduleOf (ModuleTree.ordered_ofList _) hitems hinner
    refine (nodup_typeIdentifiers_place hE hs (writesNames_of_moduleItems hwritten)).mpr fun m hm n hn hspelling => ?_
    exact hdistinct path m n ((mem_namesOf_iff hs).mp hm) ((mem_namesOf_iff hs).mp hn) hspelling

theorem nodup_functionIdentifiers (hE : Emits schema config table artifacts)
    (h : fileItems (.ofCatalogue artifacts) config = .ok items) (hinner : ModuleOf items inner) :
    (functionIdentifiers inner).Nodup := by
  obtain ⟨runtime, hitems⟩ := fileItems_ok h
  obtain ⟨path, s, hs, hwritten⟩ := subtree_of_moduleOf (ModuleTree.ordered_ofList _) hitems hinner
  exact nodup_functionIdentifiers_place hE hs (writesNames_of_moduleItems hwritten)

theorem plain_of_standsIn (hE : Emits schema config table artifacts) (hroots : config.PlainRoots)
    (hnames : ∀ a ∈ (Bundle.ofCatalogue artifacts).artifacts, Plain a.typeName) {name : String}
    (h : StandsIn (.ofCatalogue artifacts) path name) : Plain name := by
  obtain ⟨a, ha, hin⟩ := h
  have hplace : a.placement.IsPlain := by
    rw [(hE.generated ha).placement]
    exact isPlain_ofType (hnames a ha) hroots
  rcases hin with ⟨-, hname⟩ | hlead
  · rcases List.mem_cons.mp hname with rfl | hname
    · exact hplace.className
    · rw [List.mem_singleton.mp hname]
      exact hplace.builderName
  · exact hplace.modules name (hlead.subset (List.mem_append_right _ List.mem_cons_self))

end Module

/-! ### The generated file -/

theorem source_ok {bundle : Bundle} {config : Config} {text : String}
    (h : Generation.source bundle config = .ok text) : ∃ items, fileItems bundle config = .ok items ∧
      text = header ++ "\n" ++ Code.text (Item.codeOfList items) ++ "\n" := by
  obtain ⟨items, hitems, h⟩ := bind_eq_ok_iff.mp (mapError_eq_ok_iff.mp h)
  cases h
  exact ⟨items, hitems, rfl⟩

theorem exists_document_of_mergeAll {schemas : List Schema} {schema : Schema} (h : Schema.mergeAll schemas = .ok schema)
    {id : TypeId} (hid : (schema.find? id).isSome = true) : ∃ d ∈ schemas, id.name ∈ d.names := by
  cases schemas with
  | nil => cases h
  | cons first rest =>
    cases h
    obtain ⟨d, hd, hfind⟩ := (Schema.isSome_find?_foldl_merge id rest first).mp hid
    exact ⟨d, hd, Catalogue.mem_names_of_isSome hfind⟩

/-- No module of a generated file declares a helper twice. No module declares a struct or a module twice exactly if
    different names that stand in one module are never spelled alike; they are not if the names of all types and of the
    two roots are plain. -/
theorem distinct_unless_respelled {schemas : List Schema} {config : Config} {bundle : Bundle} {text : String}
    (h : Generation.ofSchemas schemas config = .ok bundle) (htext : Generation.source bundle config = .ok text) :
    ∃ items, fileItems bundle config = .ok items ∧
      text = header ++ "\n" ++ Code.text (Item.codeOfList items) ++ "\n" ∧
      (∀ inner, ModuleOf items inner → (functionIdentifiers inner).Nodup) ∧
      ((∀ inner, ModuleOf items inner → (typeIdentifiers inner).Nodup) ↔
        ∀ path m n, StandsIn bundle path m → StandsIn bundle path n → spelling m = spelling n → m = n) ∧
      (config.PlainRoots → (∀ d ∈ schemas, ∀ name ∈ d.names, Plain name) →
        ∀ inner, ModuleOf items inner → (typeIdentifiers inner).Nodup) := by
  obtain ⟨schema, hmerge, -, hbundle⟩ := Generation.ofSchemas_ok h
  obtain ⟨table, artifacts, hE, rfl⟩ := ofSchema_ok hbundle
  obtain ⟨items, hitems, hprinted⟩ := source_ok htext
  have hiff := nodup_typeIdentifiers_iff hE hitems
  refine ⟨items, hitems, hprinted, fun inner hinner => nodup_functionIdentifiers hE hitems hinner, hiff, ?_⟩
  intro hroots hplain
  have hnames : ∀ a ∈ (Bundle.ofCatalogue artifacts).artifacts, Plain a.typeName := by
    intro a ha
    have hsome := hE.isSome_find?_schema a.id
    rw [hE.mem_artifacts_iff.mp ha] at hsome
    obtain ⟨d, hd, hname⟩ := exists_document_of_mergeAll hmerge hsome.symm
    exact hplain d hd a.typeName hname
  exact hiff.mpr fun path m n hm hn hspelling =>
    eq_of_spelling_eq (plain_of_standsIn hE hroots hnames hm) (plain_of_standsIn hE hroots hnames hn) hspelling

/-- A resource type with two property types, one of which is named by a keyword. -/
def machines : List Schema := [{
  properties := .ofList [("Vm.Disk", {}), ("Vm.type", {})]
  resources := .ofList [("Vm", {})] }]

theorem distinct_unless_respelled_machines : ∃ bundle text items,
    Generation.ofSchemas machines {} = .ok bundle ∧ Generation.source bundle {} = .ok text ∧
      fileItems bundle {} = .ok items ∧
        ∀ inner, ModuleOf items inner → (functionIdentifiers inner).Nodup ∧ (typeIdentifiers inner).Nodup := by
  have hsome : ((Generation.ofSchemas machines {}).toOption.bind fun bundle =>
      (Generation.source bundle {}).toOption.map fun text => (bundle, text)).isSome = true := by decide +kernel
  obtain ⟨_, hrun⟩ := Option.isSome_iff_exists.mp hsome
  obtain ⟨bundle, hbundle, hrun⟩ := Option.bind_eq_some_iff.mp hrun
  obtain ⟨text, htext, -⟩ := Option.map_eq_some_iff.mp hrun
  have hbundle := eq_ok_of_toOption hbundle
  have htext := eq_ok_of_toOption htext
  obtain ⟨items, hitems, -, hfunctions, -, htypes⟩ := distinct_unless_respelled hbundle htext
  have htypes := htypes (by decide) (by decide)
  exact ⟨bundle, text, items, hbundle, htext, hitems, fun inner hinner => ⟨hfunctions inner hinner, htypes inner hinner⟩⟩

/-- Two property types that differ in the mark of a raw form only. -/
def respelled : List Schema := [{
  properties := .ofList [("Node", {}), ("r#Node", {})]
  resources := .empty }]

/-- Their module declares the structs of both, which are the same to the language. -/
theorem respelled_declared_twice : ∃ bundle text items,
    Generation.ofSchemas respelled {} = .ok bundle ∧ Generation.source bundle {} = .ok text ∧
      fileItems bundle {} = .ok items ∧ ¬ ∀ inner, ModuleOf items inner → (typeIdentifiers inner).Nodup := by
  have hrun : ((Generation.ofSchemas respelled {}).toOption.bind fun bundle =>
      (Generation.source bundle {}).toOption.map fun _ => bundle.artifacts.map (·.placement)) =
      some [⟨"property", [], "Node"⟩, ⟨"property", [], "r#Node"⟩] := by decide +kernel
  have hspelling : spelling "Node" = spelling "r#Node" := by decide +kernel
  obtain ⟨bundle, hbundle, hrun⟩ := Option.bind_eq_some_iff.mp hrun
  obtain ⟨text, htext, hplaces⟩ := Option.map_eq_some_iff.mp hrun
  have hbundle := eq_ok_of_toOption hbundle
  have htext := eq_ok_of_toOption htext
  obtain ⟨items, hitems, -⟩ := source_ok htext
  have hstands : ∀ p : Placement, p ∈ bundle.artifacts.map (·.placement) → StandsIn bundle p.modulePath p.className := by
    intro p hp
    obtain ⟨a, ha, rfl⟩ := List.mem_map.mp hp
    exact ⟨a, ha, Or.inl ⟨rfl, List.mem_cons_self⟩⟩
  have hplain := hstands ⟨"property", [], "Node"⟩ (by simp [hplaces])
  have hraw := hstands ⟨"property", [], "r#Node"⟩ (by simp [hplaces])
  obtain ⟨schema, hmerge, -, hschema⟩ := Generation.ofSchemas_ok hbundle
  obtain ⟨table, artifacts, hE, rfl⟩ := ofSchema_ok hschema
  refine ⟨_, text, items, hbundle, htext, hitems, fun hall => ?_⟩
  have heq := (nodup_typeIdentifiers_iff hE hitems).mp hall ["property"] "Node" "r#Node" hplain hraw hspelling
  exact absurd heq (by decide)

end Source

end Typewright
