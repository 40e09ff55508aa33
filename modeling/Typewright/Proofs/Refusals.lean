import Typewright.Proofs.Mentions
import Typewright.Proofs.Uniqueness

/-! # What cannot be written down

Names are the only thing that the text of a bundle can fail on. What is written for an artifact takes its names as
identifiers and finds a path for each of its references, and a path fails on a name of its target alone. So the text
is refused exactly if a name is, and the error is about such a name; every type that is mentioned is found. -/

namespace Typewright.Source

open Emission

/-! ### Names that are taken -/

/-- An error that refuses one of some names as an identifier. -/
def Refuses (T : String → Prop) (e : RenderError) : Prop := ∃ name, T name ∧ identifier name = .error e

/-- The names are among those of `T`, and no path of a reference fails but on one of these. -/
structure Covered (T : String → Prop) (scope : Scope) (names : List String) (refs : List Reference) : Prop where
  names : ∀ name ∈ names, T name
  paths : ∀ r ∈ refs, FailsWith (Refuses T) (r.path scope)

/-- The names that are written for a parameter. -/
def paramNames (p : Param) : List String := p.name :: p.type.otherNames

def callableNames (c : Callable) : List String := c.name :: c.params.flatMap paramNames ++ identifiersOf c.body

def memberNames (m : Typewright.Member) : List String := m.name :: m.type.otherNames

def accessorNames (acc : Accessor) : List String := acc.name :: identifiersOf acc.body

/-- All names that are written for an artifact but for those of its modules. -/
def allNames (a : Artifact) : List String :=
  a.data.name :: a.builder.name :: (a.data.members.flatMap memberNames ++ a.callables.flatMap callableNames ++
    a.data.accessors.flatMap accessorNames)

theorem failsWith_identifier {T : String → Prop} {name : String} (h : T name) :
    FailsWith (Refuses T) (identifier name) := fun _ he => ⟨name, h, he⟩

theorem failsWith_scalarCode {T : String → Prop} {scope : Scope} {s : Scalar} (h : ∀ name, s = .other name → T name) :
    FailsWith (Refuses T) (scalarCode scope s) := by
  rw [scalarCode]
  split
  · exact failsWith_ok _
  · refine FailsWith.bind ?_ fun _ _ => failsWith_ok _
    -- The names of the known scalars are no reserved words.
    have hknown : ∀ s ∈ [Scalar.string, .integer, .long, .double, .boolean, .json, .timestamp],
        (identifier s.typeName).toOption.isSome = true := by decide +kernel
    have hnever : ∀ s ∈ [Scalar.string, .integer, .long, .double, .boolean, .json, .timestamp],
        FailsWith (Refuses T) (identifier s.typeName) := by
      intro s hs
      obtain ⟨word, hword⟩ := exists_eq_ok (hknown s hs)
      rw [hword]
      exact failsWith_ok word
    cases s with
    | other name => exact failsWith_identifier (h name rfl)
    | string | integer | long | double | boolean | json | timestamp => exact hnever _ (by decide)

section Covered
variable {T : String → Prop} {scope : Scope} {names names' : List String} {refs refs' : List Reference}

namespace Covered

theorem left (h : Covered T scope (names ++ names') (refs ++ refs')) : Covered T scope names refs where
  names n hn := h.names n (List.mem_append_left _ hn)
  paths r hr := h.paths r (List.mem_append_left _ hr)

theorem right (h : Covered T scope (names ++ names') (refs ++ refs')) : Covered T scope names' refs' where
  names n hn := h.names n (List.mem_append_right _ hn)
  paths r hr := h.paths r (List.mem_append_right _ hr)

theorem head {name : String} (h : Covered T scope (name :: names) refs) : T name := h.names name List.mem_cons_self

theorem tail {name : String} (h : Covered T scope (name :: names) refs) : Covered T scope names refs where
  names n hn := h.names n (List.mem_cons_of_mem _ hn)
  paths := h.paths

theorem target {r : Reference} (h : Covered T scope names (r :: refs)) : FailsWith (Refuses T) (r.path scope) :=
  h.paths r List.mem_cons_self

theorem args {r : Reference} (h : Covered T scope names (r :: refs)) : Covered T scope names refs where
  names := h.names
  paths r hr := h.paths r (List.mem_cons_of_mem _ hr)

/-- What covers lists of things covers each of them. -/
theorem ofMem {α : Type} {xs : List α} {f : α → List String} {g : α → List Reference} {a : α}
    (h : Covered T scope (xs.flatMap f) (xs.flatMap g)) (ha : a ∈ xs) : Covered T scope (f a) (g a) where
  names n hn := h.names n (List.mem_flatMap.mpr ⟨a, ha, hn⟩)
  paths r hr := h.paths r (List.mem_flatMap.mpr ⟨a, ha, hr⟩)

end Covered

/-! ### Bodies -/

mutual

/-- What is written for a body fails only on its names and on the paths of its references. -/
theorem failsWith_expression : ∀ {b : Body}, Covered T scope (identifiersOf b) (references b) →
    FailsWith (Refuses T) (expression scope b)
  | .param name, h | .held name, h => by
    rw [identifiersOf] at h
    rw [expression]
    exact (failsWith_identifier h.head).bind fun _ _ => failsWith_ok _
  | .absent, _ | .attributeRef _, _ => by
    rw [expression]
    exact failsWith_ok _
  | .wrap b, h | .wrapEach b, h | .wrapValues b, h | .boxed b, h | .boxedOptional b, h | .present b, h
  | .invokeBuild b, h => by
    rw [identifiersOf, references] at h
    rw [expression]
    exact (failsWith_expression h).bind fun _ _ => failsWith_ok _
  | .construct _ fields, h | .constructBuilder _ fields, h => by
    rw [identifiersOf, references] at h
    rw [expression]
    refine FailsWith.bind h.target fun path _ => ?_
    exact (failsWith_fieldInits h.args).bind fun _ _ => failsWith_ok _
  | .newBuilder _ args, h | .invokeFactory _ args, h => by
    rw [identifiersOf, references] at h
    rw [expression]
    refine FailsWith.bind h.target fun path _ => ?_
    exact (failsWith_expressions h.args).bind fun _ _ => failsWith_ok _
  | .applyConfigure _ b, h | .callSetter _ b, h | .assign _ b, h | .register _ b, h => by
    rw [identifiersOf, references] at h
    rw [expression]
    refine (failsWith_identifier h.head).bind fun _ _ => ?_
    exact (failsWith_expression h.tail).bind fun _ _ => failsWith_ok _
  | .logicalNameOr b _ _, h | .dependenciesOr b _, h => by
    rw [identifiersOf, references] at h
    rw [expression]
    refine (failsWith_expression h.tail).bind fun _ _ => ?_
    exact (failsWith_identifier h.head).bind fun _ _ => failsWith_ok _

theorem failsWith_fieldInits : ∀ {fields : List (String × Body)},
    Covered T scope (identifiersInFields fields) (referencesInFields fields) →
      FailsWith (Refuses T) (fieldInits scope fields)
  | [], _ => by
    rw [fieldInits]
    exact failsWith_ok []
  | (name, b) :: fields, h => by
    rw [identifiersInFields, referencesInFields] at h
    have hrest := failsWith_fieldInits h.tail.right
    rw [fieldInits]
    refine (failsWith_identifier h.head).bind fun _ _ => ?_
    split
    · exact hrest.bind fun _ _ => failsWith_ok _
    · refine (failsWith_expression h.tail.left).bind fun _ _ => ?_
      exact hrest.bind fun _ _ => failsWith_ok _

theorem failsWith_expressions : ∀ {args : List Body},
    Covered T scope (identifiersInArgs args) (referencesInArgs args) → FailsWith (Refuses T) (expressions scope args)
  | [], _ => by
    rw [expressions]
    exact failsWith_ok []
  | b :: args, h => by
    rw [identifiersInArgs, referencesInArgs] at h
    rw [expressions]
    refine (failsWith_expression h.left).bind fun _ _ => ?_
    exact (failsWith_expressions h.right).bind fun _ _ => failsWith_ok _

end

theorem failsWith_functionBody {b : Body} (h : Covered T scope (identifiersOf b) (references b)) :
    FailsWith (Refuses T) (functionBody scope b) := by
  rw [functionBody.eq_def]
  split
  · rw [identifiersOf, references] at h
    refine (failsWith_identifier h.head).bind fun _ _ => ?_
    exact (failsWith_expression h.tail).bind fun _ _ => failsWith_ok _
  · rw [identifiersOf, references] at h
    refine (failsWith_identifier h.head).bind fun _ _ => ?_
    exact (failsWith_expression h.tail).bind fun _ _ => failsWith_ok _
  · exact failsWith_expression h

/-! ### Items of an artifact -/

theorem failsWith_typeCode {t : FieldType} (h : Covered T scope t.otherNames (typeReferences t)) :
    FailsWith (Refuses T) (typeCode scope t) := by
  induction t with
  | scalar s =>
    refine failsWith_scalarCode fun name hs => ?_
    subst hs
    exact h.head
  | value s =>
    refine FailsWith.bind (failsWith_scalarCode fun name hs => ?_) fun _ _ => failsWith_ok _
    subst hs
    exact h.head
  | list t ih | map t ih => exact FailsWith.bind (ih h) fun _ _ => failsWith_ok _
  | named target => exact FailsWith.bind h.target fun _ _ => failsWith_ok _

theorem failsWith_paramCode {p : Param} (h : Covered T scope (paramNames p) (paramReferences p)) :
    FailsWith (Refuses T) (paramCode scope p) := by
  obtain ⟨name, type⟩ := p
  refine FailsWith.bind (failsWith_identifier h.head) fun _ _ => FailsWith.bind ?_ fun _ _ => failsWith_ok _
  have htype := h.tail
  cases type with
  | value t => exact failsWith_typeCode htype
  | optional t => exact FailsWith.bind (failsWith_typeCode htype) fun _ _ => failsWith_ok _
  | configure target => exact FailsWith.bind htype.target fun _ _ => failsWith_ok _
  | logicalName | optionalLogicalName | dependencies | context => exact failsWith_ok _

theorem failsWith_functionOf {attributes : List Attribute} {summary : String} {receiver : List Code} {result : Code}
    {c : Callable} (h : Covered T scope (callableNames c) (callableReferences c)) :
    FailsWith (Refuses T) (functionOf scope attributes summary receiver result c) := by
  have hparams := h.tail.left
  refine FailsWith.bind (failsWith_identifier h.head) fun _ _ => ?_
  refine FailsWith.bind (FailsWith.mapM fun p hp => failsWith_paramCode (hparams.ofMem hp)) fun _ _ => ?_
  exact FailsWith.bind (failsWith_functionBody h.tail.right) fun _ _ => failsWith_ok _

theorem failsWith_memberField {isPublic : Bool} {m : Typewright.Member}
    (h : Covered T scope (memberNames m) (typeReferences m.type)) :
    FailsWith (Refuses T) (memberField scope isPublic m) := by
  refine FailsWith.bind (failsWith_identifier h.head) fun _ _ => ?_
  exact FailsWith.bind (failsWith_typeCode h.tail) fun _ _ => failsWith_ok _

theorem failsWith_accessorMethod {acc : Accessor} (h : Covered T scope (accessorNames acc) (references acc.body)) :
    FailsWith (Refuses T) (accessorMethod scope acc) := by
  refine FailsWith.bind (failsWith_identifier h.head) fun _ _ => ?_
  exact FailsWith.bind (failsWith_functionBody h.tail) fun _ _ => failsWith_ok _

section Artifact
variable {a : Artifact} (h : Covered T scope (allNames a) (allReferences a))
include h

theorem failsWith_structFields {isPublic : Bool} : FailsWith (Refuses T) (structFields scope a.data isPublic) := by
  have hmembers := h.tail.tail.left.left
  refine FailsWith.bind (FailsWith.mapM fun m hm => ?_) fun _ _ => failsWith_ok _
  exact failsWith_memberField (hmembers.ofMem hm)

theorem failsWith_callable {attributes : List Attribute} {summary : String} {receiver : List Code} {result : Code}
    {c : Callable} (hc : c ∈ a.callables) :
    FailsWith (Refuses T) (functionOf scope attributes summary receiver result c) := by
  have hcallables := h.tail.tail.left.right
  exact failsWith_functionOf (hcallables.ofMem hc)

theorem failsWith_dataItems : FailsWith (Refuses T) (dataItems scope a) := by
  have haccessors := h.tail.tail.right
  refine FailsWith.bind (failsWith_identifier h.head) fun _ _ => ?_
  refine FailsWith.bind (failsWith_identifier h.tail.head) fun _ _ => ?_
  refine FailsWith.bind (failsWith_structFields h) fun _ _ => ?_
  refine FailsWith.bind (failsWith_callable h (by simp [Artifact.callables])) fun _ _ => ?_
  refine FailsWith.bind (failsWith_callable h (by simp [Artifact.callables])) fun _ _ => ?_
  refine FailsWith.bind (FailsWith.mapM fun acc hacc => ?_) fun _ _ => failsWith_ok _
  exact failsWith_accessorMethod (haccessors.ofMem hacc)

theorem failsWith_builderItems : FailsWith (Refuses T) (builderItems scope a) := by
  refine FailsWith.bind (failsWith_identifier h.tail.head) fun _ _ => ?_
  refine FailsWith.bind (failsWith_identifier h.head) fun _ _ => ?_
  refine FailsWith.bind (failsWith_structFields h) fun _ _ => ?_
  refine FailsWith.bind (failsWith_callable h (by simp [Artifact.callables])) fun _ _ => ?_
  refine FailsWith.bind (FailsWith.mapM fun s hs => ?_) fun _ _ => ?_
  · exact failsWith_callable h (List.mem_append_right _ (List.mem_map_of_mem hs))
  · refine FailsWith.bind (failsWith_callable h (by simp [Artifact.callables])) fun _ _ => failsWith_ok _

theorem failsWith_helperItem : FailsWith (Refuses T) (helperItem scope a) := by
  rw [helperItem]
  refine FailsWith.bind (failsWith_identifier h.head) fun _ _ => ?_
  split
  all_goals
    refine FailsWith.bind (failsWith_callable h (by simp [Artifact.callables])) fun _ _ => failsWith_ok _

theorem failsWith_declarations : FailsWith (Refuses T) (declarations scope a) := by
  refine FailsWith.bind (failsWith_dataItems h) fun _ _ => ?_
  refine FailsWith.bind (failsWith_builderItems h) fun _ _ => ?_
  exact FailsWith.bind (failsWith_helperItem h) fun _ _ => failsWith_ok _

end Artifact

end Covered

/-! ### Modules -/

section Modules
variable {T : String → Prop} {bundle : Bundle} {runtime : RuntimePath} {root : ModuleTree Artifact}

/-- In every module of the tree, what stands there fails on names of `T` alone, and the modules below have such names
    and are found under them. -/
structure CoveredTree (T : String → Prop) (bundle : Bundle) (runtime : RuntimePath) (root : ModuleTree Artifact) :
    Prop where
  own : ∀ path t, root.subtree path = some t → ∀ a ∈ t.own,
    FailsWith (Refuses T) (declarations ⟨path, bundle, runtime⟩ a)
  children : ∀ path t, root.subtree path = some t → ∀ c ∈ t.children,
    T c.1 ∧ root.subtree (path ++ [c.1]) = some c.2

mutual

theorem CoveredTree.moduleItems (h : CoveredTree T bundle runtime root) : ∀ {t : ModuleTree Artifact}
    {path : List String}, root.subtree path = some t → FailsWith (Refuses T) (moduleItems bundle runtime path t)
  | .node own children, path, ht => by
    rw [Source.moduleItems]
    refine FailsWith.bind (FailsWith.mapM (h.own path _ ht)) fun _ _ => ?_
    exact FailsWith.bind (h.childModules (h.children path _ ht)) fun _ _ => failsWith_ok _

theorem CoveredTree.childModules (h : CoveredTree T bundle runtime root) :
    ∀ {children : List (String × ModuleTree Artifact)} {path : List String},
      (∀ c ∈ children, T c.1 ∧ root.subtree (path ++ [c.1]) = some c.2) →
        FailsWith (Refuses T) (childModules bundle runtime path children)
  | [], _, _ => failsWith_ok []
  | (name, child) :: rest, path, hchildren => by
    obtain ⟨hname, hsubtree⟩ := hchildren (name, child) List.mem_cons_self
    rw [Source.childModules]
    refine FailsWith.bind (h.moduleItems hsubtree) fun _ _ => ?_
    refine FailsWith.bind (failsWith_identifier hname) fun _ _ => ?_
    refine FailsWith.bind (h.childModules fun c hc => ?_) fun _ _ => failsWith_ok _
    exact hchildren c (List.mem_cons_of_mem _ hc)

end

end Modules

/-! ### Bundles -/

section Emitted
variable {schema : Schema} {config : Config} {table : MemberTable} {artifacts : Catalogue Artifact} {a b : Artifact}
  {runtime : RuntimePath} {name : String}

/-- The names of a placement are the only ones that a path to its structs fails on. -/
theorem failsWith_pathTo {scope : Scope} {role : Role} (h : Emits schema config table artifacts)
    (hb : b ∈ (Bundle.ofCatalogue artifacts).artifacts) :
    FailsWith (Refuses (Bundle.ofCatalogue artifacts).WrittenName) (scope.pathTo b (role.nameOf b.placement)) := by
  have hitem : (Bundle.ofCatalogue artifacts).WrittenName (role.nameOf b.placement) := by
    rw [← structName_eq h hb]
    cases role with
    | data => exact .data hb
    | builder => exact .builder hb
  rw [Scope.pathTo]
  refine FailsWith.bind (failsWith_identifier hitem) fun _ _ => ?_
  split
  · exact failsWith_ok _
  · refine FailsWith.bind (FailsWith.mapM fun segment hsegment => ?_) fun _ _ => failsWith_ok _
    exact failsWith_identifier (.segment hb hsegment)

/-- Every name that is written for an artifact is one of the bundle, and all that it mentions is found. -/
theorem covered_of_mem (h : Emits schema config table artifacts) (ha : a ∈ (Bundle.ofCatalogue artifacts).artifacts)
    (path : List String) : Covered (Bundle.ofCatalogue artifacts).WrittenName ⟨path, .ofCatalogue artifacts, runtime⟩
      (allNames a) (allReferences a) := by
  constructor
  case names =>
    intro name hname
    simp only [allNames, List.mem_cons, List.mem_append, List.mem_flatMap] at hname
    rcases hname with rfl | rfl | (⟨m, hm, hname⟩ | ⟨c, hc, hname⟩) | ⟨acc, hacc, hname⟩
    · exact .data ha
    · exact .builder ha
    · rcases List.mem_cons.mp hname with rfl | hname
      · exact .member ha hm
      · exact .memberScalar ha hm hname
    · rcases List.mem_append.mp hname with hname | hname
      · rcases List.mem_cons.mp hname with rfl | hname
        · exact .callable ha hc
        · obtain ⟨p, hp, hname⟩ := List.mem_flatMap.mp hname
          rcases List.mem_cons.mp hname with rfl | hname
          · exact .param ha hc hp
          · exact .paramScalar ha hc hp hname
      · exact writtenName_of_body h ha hc hname
    · rcases List.mem_cons.mp hname with rfl | hname
      · exact .accessor ha hacc
      · rw [((h.generated ha).accessors acc hacc).2, identifiersOf] at hname
        cases hname
  case paths =>
    intro r hr
    have hmentioned : r.target ∈ a.mentions := by
      rw [← targets_allReferences]
      exact List.mem_map_of_mem hr
    have hfound := isSome_denoted?_of_mem h (mem_names_of_mem_mentions h ha hmentioned)
    obtain ⟨b, hdenoted⟩ := Option.isSome_iff_exists.mp hfound
    rw [Reference.path_eq hdenoted]
    rw [h.denoted?_source] at hdenoted
    exact failsWith_pathTo h (List.mem_of_find?_eq_some hdenoted)

theorem coveredTree_modulesOf (h : Emits schema config table artifacts) :
    CoveredTree (Bundle.ofCatalogue artifacts).WrittenName (.ofCatalogue artifacts) runtime
      (modulesOf (.ofCatalogue artifacts)) := by
  constructor
  case own =>
    intro path t ht a ha
    rw [own_of_modulesOf ht] at ha
    exact failsWith_declarations (covered_of_mem h (List.mem_filter.mp ha).1 path)
  case children =>
    intro path t ht c hc
    constructor
    · obtain ⟨a, ha, hlead⟩ := (mem_children_modulesOf ht).mp (List.mem_map_of_mem hc)
      exact .segment ha (hlead.subset (List.mem_append_right _ List.mem_cons_self))
    · rw [ModuleTree.subtree_concat ht]
      exact (SortedMap.findEntry_eq_some_iff (ModuleTree.ordered_ofList _ path t ht)).mpr hc

theorem failsWith_render (h : Emits schema config table artifacts)
    (hruntime : RuntimePath.ofText config.runtimePath = .ok runtime) :
    FailsWith (Refuses (Bundle.ofCatalogue artifacts).WrittenName) (render (.ofCatalogue artifacts) config) := by
  refine FailsWith.bind ?_ fun _ _ => failsWith_ok _
  rw [fileItems, hruntime]
  exact (coveredTree_modulesOf h).moduleItems rfl

end Emitted

/-! ### Names that are accepted -/

/-- The name can be written as an identifier. -/
def Accepted (name : String) : Prop := ∃ word, identifier name = .ok word

section Accepted
variable {scope : Scope} {name : String}

theorem accepted_of_scalarCode {code : Code} (h : scalarCode scope (.other name) = .ok code) : Accepted name := by
  rw [scalarCode, if_neg (by simp)] at h
  obtain ⟨word, hword, -⟩ := bind_eq_ok_iff.mp h
  exact ⟨word, hword⟩

theorem accepted_of_typeCode {t : FieldType} (hname : name ∈ t.otherNames) : ∀ {code : Code},
    typeCode scope t = .ok code → Accepted name := by
  induction t with
  | scalar s =>
    intro code h
    cases s with
    | other n => exact List.mem_singleton.mp hname ▸ accepted_of_scalarCode h
    | _ => cases hname
  | value s =>
    intro code h
    obtain ⟨inner, hinner, -⟩ := bind_eq_ok_iff.mp h
    cases s with
    | other n => exact List.mem_singleton.mp hname ▸ accepted_of_scalarCode hinner
    | _ => cases hname
  | list t ih | map t ih =>
    intro code h
    obtain ⟨inner, hinner, -⟩ := bind_eq_ok_iff.mp h
    exact ih hname hinner
  | named target => cases hname

theorem accepted_of_paramCode {p : Param} {code : Code} (h : paramCode scope p = .ok code)
    (hname : name ∈ paramNames p) : Accepted name := by
  obtain ⟨_, type⟩ := p
  obtain ⟨word, hword, h⟩ := bind_eq_ok_iff.mp h
  obtain ⟨code, htype, -⟩ := bind_eq_ok_iff.mp h
  rcases List.mem_cons.mp hname with rfl | hname
  · exact ⟨word, hword⟩
  cases type with
  | value t => exact accepted_of_typeCode hname htype
  | optional t =>
    obtain ⟨inner, hinner, -⟩ := bind_eq_ok_iff.mp htype
    exact accepted_of_typeCode hname hinner
  | configure | logicalName | optionalLogicalName | dependencies | context => cases hname

theorem accepted_of_memberField {isPublic : Bool} {m : Typewright.Member} {f : StructField}
    (h : memberField scope isPublic m = .ok f) (hname : name ∈ memberNames m) : Accepted name := by
  obtain ⟨word, hword, h⟩ := bind_eq_ok_iff.mp h
  obtain ⟨code, htype, -⟩ := bind_eq_ok_iff.mp h
  rcases List.mem_cons.mp hname with rfl | hname
  · exact ⟨word, hword⟩
  · exact accepted_of_typeCode hname htype

theorem accepted_of_functionOf {attributes : List Attribute} {summary : String} {receiver : List Code} {result : Code}
    {c : Callable} {f : Function} (h : functionOf scope attributes summary receiver result c = .ok f) {p : Param}
    (hp : p ∈ c.params) (hname : name ∈ paramNames p) : Accepted name := by
  obtain ⟨_, -, h⟩ := bind_eq_ok_iff.mp h
  obtain ⟨params, hparams, -⟩ := bind_eq_ok_iff.mp h
  obtain ⟨code, -, hok⟩ := exists_of_mem_left (forall₂_mapM_ok hparams) hp
  exact accepted_of_paramCode hok hname

end Accepted

/-- Every name in a bundle that is written down is accepted. -/
theorem accepted_of_fileItems {schema : Schema} {config : Config} {table : MemberTable}
    {artifacts : Catalogue Artifact} {items : List Item} {name : String} (h : Emits schema config table artifacts)
    (hitems : fileItems (.ofCatalogue artifacts) config = .ok items)
    (hname : (Bundle.ofCatalogue artifacts).WrittenName name) : Accepted name := by
  have hplaced : ∀ a ∈ (Bundle.ofCatalogue artifacts).artifacts,
      (∀ segment ∈ a.placement.modulePath, Accepted segment) ∧ ∀ role, Accepted (structName a role) := by
    intro a ha
    obtain ⟨_, _, modules, -, -, -, hplaces⟩ :=
      declared_of_fileItems hitems ha (h.generated ha).dataName (h.generated ha).builderName
    constructor
    · intro segment hsegment
      obtain ⟨_, -, hplace⟩ := hplaces .data
      obtain ⟨hmodules, -⟩ := declaredAt_eq_ok_iff.mp hplace
      obtain ⟨word, -, hword⟩ := exists_of_mem_left (forall₂_mapM_ok hmodules) hsegment
      exact ⟨word, hword⟩
    · intro role
      obtain ⟨s, -, hplace⟩ := hplaces role
      exact ⟨s.name, structName_eq h ha role ▸ (declaredAt_eq_ok_iff.mp hplace).2⟩
  have hwrites : ∀ a ∈ (Bundle.ofCatalogue artifacts).artifacts, ∃ scope decls,
      WritesAll scope decls a.callables a.data.members a.data.accessors := by
    intro a ha
    obtain ⟨_, decls, _, -, hdecls, -⟩ :=
      declared_of_fileItems hitems ha (h.generated ha).dataName (h.generated ha).builderName
    exact ⟨_, decls, writesAll_declarations hdecls⟩
  cases hname with
  | segment ha hname => exact (hplaced _ ha).1 _ hname
  | data ha => exact (hplaced _ ha).2 .data
  | builder ha => exact (hplaced _ ha).2 .builder
  | member ha hm =>
    obtain ⟨_, _, hall⟩ := hwrites _ ha
    obtain ⟨f, hf, -⟩ := hall.members _ hm
    exact accepted_of_memberField hf List.mem_cons_self
  | memberScalar ha hm hname =>
    obtain ⟨_, _, hall⟩ := hwrites _ ha
    obtain ⟨f, hf, -⟩ := hall.members _ hm
    exact accepted_of_memberField hf (List.mem_cons_of_mem _ hname)
  | accessor ha hacc =>
    obtain ⟨_, _, hall⟩ := hwrites _ ha
    obtain ⟨f, hf, -⟩ := hall.accessors _ hacc
    obtain ⟨word, hword, -⟩ := bind_eq_ok_iff.mp hf
    exact ⟨word, hword⟩
  | callable ha hc =>
    obtain ⟨_, _, hall⟩ := hwrites _ ha
    obtain ⟨_, _, _, _, f, hf, -⟩ := hall.callables _ hc
    exact ⟨f.name, name_of_functionOf hf⟩
  | param ha hc hp =>
    obtain ⟨_, _, hall⟩ := hwrites _ ha
    obtain ⟨_, _, _, _, f, hf, -⟩ := hall.callables _ hc
    exact accepted_of_functionOf hf hp List.mem_cons_self
  | paramScalar ha hc hp hname =>
    obtain ⟨_, _, hall⟩ := hwrites _ ha
    obtain ⟨_, _, _, _, f, hf, -⟩ := hall.callables _ hc
    exact accepted_of_functionOf hf hp (List.mem_cons_of_mem _ hname)

/-- A bundle is written down exactly if every name in it is accepted. If it is not, the error is about a name in it
    that is refused, and never about a type that is not found. -/
theorem rendered_iff_accepted {schema : Schema} {config : Config} {bundle : Bundle} {runtime : RuntimePath}
    (h : Bundle.ofSchema schema config = .ok bundle)
    (hruntime : RuntimePath.ofText config.runtimePath = .ok runtime) :
    ((∃ text, render bundle config = .ok text) ↔ ∀ name, bundle.WrittenName name → Accepted name) ∧
      (∀ e, render bundle config = .error e →
        ∃ name, bundle.WrittenName name ∧ ¬ Accepted name ∧ e = .invalidIdentifier name) ∧
      ∀ name, render bundle config ≠ .error (.unknownType name) := by
  obtain ⟨table, artifacts, hE, rfl⟩ := ofSchema_ok h
  have hrefused : ∀ e, render (.ofCatalogue artifacts) config = .error e → ∃ name,
      (Bundle.ofCatalogue artifacts).WrittenName name ∧ ¬ Accepted name ∧ e = .invalidIdentifier name := by
    intro e he
    obtain ⟨name, hname, hidentifier⟩ := failsWith_render hE hruntime e he
    refine ⟨name, hname, ?_, eq_invalidIdentifier hidentifier⟩
    rintro ⟨word, hword⟩
    rw [hword] at hidentifier
    cases hidentifier
  refine ⟨⟨?_, fun hall => ?_⟩, hrefused, fun name he => ?_⟩
  · rintro ⟨text, htext⟩ name hname
    obtain ⟨items, hitems, -⟩ := bind_eq_ok_iff.mp htext
    exact accepted_of_fileItems hE hitems hname
  · cases hrender : render (.ofCatalogue artifacts) config with
    | ok text => exact ⟨text, rfl⟩
    | error e =>
      obtain ⟨name, hname, hnot, -⟩ := hrefused e hrender
      exact absurd (hall name hname) hnot
  · obtain ⟨_, -, -, heq⟩ := hrefused _ he
    cases heq

/-- A type whose name is a keyword that has no raw form. -/
def selfish : Schema where
  properties := .ofList [("Core.Self", {}), ("Core.Part", { fields := .ofList [("Whole", .nested "Self")] })]
  resources := .empty

theorem rendered_iff_accepted_selfish : ∃ bundle, Bundle.ofSchema selfish {} = .ok bundle ∧
    (¬ ∀ name, bundle.WrittenName name → Accepted name) ∧
      (∃ name, bundle.WrittenName name ∧ render bundle {} = .error (.invalidIdentifier name)) ∧
        ∀ name, render bundle {} ≠ .error (.unknownType name) := by
  have hrun : ((Bundle.ofSchema selfish {}).toOption.map fun bundle => (render bundle {}).toOption.isSome) =
      some false := by decide +kernel
  have hruntime : (RuntimePath.ofText ({} : Config).runtimePath).toOption.isSome = true := by decide +kernel
  obtain ⟨bundle, hbundle, hfails⟩ := Option.map_eq_some_iff.mp hrun
  obtain ⟨runtime, hruntime⟩ := exists_eq_ok hruntime
  have hbundle := eq_ok_of_toOption hbundle
  obtain ⟨haccepted, herror, hfound⟩ := rendered_iff_accepted hbundle hruntime
  refine ⟨bundle, hbundle, fun hall => ?_, ?_, hfound⟩
  · obtain ⟨text, htext⟩ := haccepted.mpr hall
    rw [htext] at hfails
    cases hfails
  · cases hrender : render bundle {} with
    | ok text =>
      rw [hrender] at hfails
      cases hfails
    | error e =>
      obtain ⟨name, hname, -, rfl⟩ := herror e hrender
      exact ⟨name, hname, rfl⟩

end Typewright.Source
