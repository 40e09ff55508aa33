import Mathlib.Data.List.Dedup
import Mathlib.Data.List.Infix
import Typewright.Proofs.Emitted

/-! # Paths that coincide

`Coincide` says by paths alone when two declared types get in each other's way: they claim one item, one claims an item
where the other needs a module, or they claim one helper. Claims are entered type by type, and what has been entered
under a path is always the name of a type that claims the path. So a schema whose fields are sound is refused for a
collision if and only if two of its types coincide, and it is such a coincidence that is reported. -/

namespace Typewright.Emission

/-! ### Coincidences -/

/-- The paths of the modules that lead to a type, from the one below its root on. -/
def moduleTexts (p : Placement) : List String := (p.modulePath.inits.filter (2 ≤ ·.length)).map pathText

/-- The types `t` and `u` coincide in a path that `u` claims for an item or for its helper. -/
inductive Coincide (config : Config) (t u : TypeId) (path : String) : Prop where
  | items : t ≠ u → path ∈ itemTexts (.ofType t config) → path ∈ itemTexts (.ofType u config) →
      Coincide config t u path
  | module : path ∈ moduleTexts (.ofType t config) → path ∈ itemTexts (.ofType u config) → Coincide config t u path
  | helpers : t ≠ u → helperText (.ofType t config) = path → helperText (.ofType u config) = path →
      Coincide config t u path

/-- The types that a schema declares, in the order in which they claim. -/
def declared (schema : Schema) : List TypeId := schema.toList.map (·.1)

/-- A type as it enters its claims. -/
def placed (config : Config) (t : TypeId) : String × Placement := (t.name, .ofType t config)

theorem placements_eq_map (schema : Schema) (config : Config) :
    placements schema config = (declared schema).map (placed config) := by
  rw [declared, List.map_map]
  rfl

theorem mem_modulesBelow_iff {path : String} : ∀ {root : String} {names : List String},
    path ∈ modulesBelow root names ↔ ∃ m, m ≠ [] ∧ m <+: names ∧ pathText (root :: m) = path := by
  intro root names
  induction names generalizing root with
  | nil =>
    simp only [modulesBelow, List.not_mem_nil, List.prefix_nil, false_iff]
    rintro ⟨m, hne, rfl, -⟩
    exact hne rfl
  | cons next names ih =>
    -- The text of a path from `root` on is that of a path from the module after it on.
    rw [modulesBelow, List.mem_cons, ih]
    constructor
    · rintro (rfl | ⟨m, -, hm, rfl⟩)
      · exact ⟨[next], List.cons_ne_nil _ _, ⟨names, rfl⟩, rfl⟩
      · exact ⟨next :: m, List.cons_ne_nil _ _, List.cons_prefix_cons.mpr ⟨rfl, hm⟩, rfl⟩
    · rintro ⟨m, hne, hm, rfl⟩
      obtain ⟨first, m, rfl⟩ := List.exists_cons_of_ne_nil hne
      obtain ⟨rfl, htail⟩ := List.cons_prefix_cons.mp hm
      cases m with
      | nil => exact Or.inl rfl
      | cons second m => exact Or.inr ⟨second :: m, List.cons_ne_nil _ _, htail, rfl⟩

theorem mem_moduleTexts_iff {p : Placement} {path : String} :
    path ∈ moduleTexts p ↔ path ∈ modulesBelow p.root p.namespaces := by
  simp only [mem_modulesBelow_iff, moduleTexts, List.mem_map, List.mem_filter, List.mem_inits, decide_eq_true_eq,
    Placement.modulePath, and_assoc]
  constructor
  · rintro ⟨m, hm, hlength, rfl⟩
    obtain ⟨first, m, rfl⟩ := List.exists_cons_of_length_pos (Nat.lt_of_lt_of_le Nat.zero_lt_two hlength)
    obtain ⟨rfl, htail⟩ := List.cons_prefix_cons.mp hm
    exact ⟨m, List.ne_nil_of_length_pos (Nat.le_of_succ_le_succ hlength), htail, rfl⟩
  · rintro ⟨m, hne, hm, rfl⟩
    refine ⟨p.root :: m, List.cons_prefix_cons.mpr ⟨rfl, hm⟩, ?_, rfl⟩
    exact Nat.succ_le_succ (List.length_pos_of_ne_nil hne)

/-! ### Who claims a path -/

section Claiming
variable {config : Config} {ids done : List TypeId} {claimed claimed' : Claimed} {t u : TypeId} {e : EmitError}
  {path first typeName : String}

theorem of_foldl_note {paths : List String} : ∀ {claims : Claims},
    (paths.foldl (fun claims path => claims.note path typeName) claims)[path]? = some first →
      (path ∈ paths ∧ typeName = first) ∨ claims[path]? = some first := by
  induction paths with
  | nil => exact fun h => Or.inr h
  | cons other paths ih =>
    intro claims h
    rw [List.foldl_cons] at h
    rcases ih h with ⟨hmem, hname⟩ | hnoted
    · exact Or.inl ⟨List.mem_cons_of_mem _ hmem, hname⟩
    · rw [Claims.note, Std.TreeMap.getElem?_insertIfNew] at hnoted
      split at hnoted
      · rename_i hnew
        rw [Std.LawfulEqCmp.compare_eq_iff_eq] at hnew
        exact Or.inl ⟨hnew.1 ▸ List.mem_cons_self, Option.some.inj hnoted⟩
      · exact Or.inr hnoted

/-- A module is claimed in the name of a type below it. -/
theorem of_moduleClaims (h : (moduleClaims (ids.map (placed config)))[path]? = some first) :
    ∃ t ∈ ids, t.name = first ∧ path ∈ moduleTexts (.ofType t config) := by
  have hfoldl : ∀ {types : List TypeId} {claims : Claims}, ((types.map (placed config)).foldl (fun claims t =>
      (modulesBelow t.2.root t.2.namespaces).foldl (fun claims path => claims.note path t.1) claims) claims)[path]? =
        some first →
      (∃ t ∈ types, t.name = first ∧ path ∈ moduleTexts (.ofType t config)) ∨ claims[path]? = some first := by
    intro types
    induction types with
    | nil => exact fun h => Or.inr h
    | cons t types ih =>
      intro claims h
      rw [List.map_cons, List.foldl_cons] at h
      rcases ih h with ⟨u, hu, hclaims⟩ | h
      · exact Or.inl ⟨u, List.mem_cons_of_mem _ hu, hclaims⟩
      · refine (of_foldl_note h).imp_left fun hmem => ⟨t, List.mem_cons_self, hmem.2, ?_⟩
        exact mem_moduleTexts_iff.mpr hmem.1
  refine (hfoldl h).resolve_right fun hnone => ?_
  rw [Std.TreeMap.getElem?_emptyc] at hnone
  cases hnone

/-- Where the types of `done` have been added, each entry is the name of a type that claims the path: of one of
    `done` for an item or a helper, or of any type for a module. -/
structure ClaimedBy (config : Config) (ids done : List TypeId) (claimed : Claimed) : Prop where
  items : ∀ {path first}, claimed.items[path]? = some first →
    (∃ t ∈ done, t.name = first ∧ path ∈ itemTexts (.ofType t config)) ∨
      ∃ t ∈ ids, t.name = first ∧ path ∈ moduleTexts (.ofType t config)
  helpers : ∀ {path first}, claimed.helpers[path]? = some first →
    ∃ t ∈ done, t.name = first ∧ helperText (.ofType t config) = path

theorem claimedBy_moduleClaims (config : Config) (ids : List TypeId) :
    ClaimedBy config ids [] ⟨moduleClaims (ids.map (placed config)), ∅⟩ := by
  constructor
  case items => exact fun h => Or.inr (of_moduleClaims h)
  case helpers =>
    intro path first h
    rw [Std.TreeMap.getElem?_emptyc] at h
    cases h

theorem itemTexts_eq (p : Placement) :
    itemTexts p = [itemText p.modulePath p.className, itemText p.modulePath p.builderName] := rfl

/-- The name of a builder is longer than that of its data type. -/
theorem builderText_ne_classText (p : Placement) :
    itemText p.modulePath p.builderName ≠ itemText p.modulePath p.className := by
  intro h
  have hlength := congrArg String.length h
  simp [itemText, Placement.builderName] at hlength

theorem add_placed (claimed : Claimed) (t : TypeId) : claimed.add (placed config t) = (do
    let p := Placement.ofType t config
    let items ← claimed.items.claim (itemText p.modulePath p.className) t.name
    let items ← items.claim (itemText p.modulePath p.builderName) t.name
    let helpers ← claimed.helpers.claim (helperText p) t.name
    return ⟨items, helpers⟩) := rfl

/-- What has been claimed is claimed still after a type has been added, and the rest by that type. -/
theorem ClaimedBy.add (h : ClaimedBy config ids done claimed) (hadd : claimed.add (placed config u) = .ok claimed') :
    ClaimedBy config ids (done ++ [u]) claimed' := by
  rw [add_placed] at hadd
  obtain ⟨items₁, hclass, hadd⟩ := bind_eq_ok_iff.mp hadd
  obtain ⟨items₂, hbuilder, hadd⟩ := bind_eq_ok_iff.mp hadd
  obtain ⟨helpers, hhelper, hadd⟩ := bind_eq_ok_iff.mp hadd
  cases hadd
  obtain ⟨-, rfl⟩ := claim_eq_ok_iff.mp hclass
  obtain ⟨-, rfl⟩ := claim_eq_ok_iff.mp hbuilder
  obtain ⟨-, rfl⟩ := claim_eq_ok_iff.mp hhelper
  have hu : u ∈ done ++ [u] := List.mem_append_right _ List.mem_cons_self
  constructor
  case items =>
    intro path first hfind
    simp only [Std.TreeMap.getElem?_insert, Std.LawfulEqCmp.compare_eq_iff_eq] at hfind
    split at hfind
    · rename_i hpath
      exact Or.inl ⟨u, hu, Option.some.inj hfind, itemTexts_eq _ ▸ hpath ▸ List.mem_cons_of_mem _ List.mem_cons_self⟩
    · split at hfind
      · rename_i hpath
        exact Or.inl ⟨u, hu, Option.some.inj hfind, itemTexts_eq _ ▸ hpath ▸ List.mem_cons_self⟩
      · refine (h.items hfind).imp_left fun ⟨t, ht, hclaims⟩ => ⟨t, List.mem_append_left _ ht, hclaims⟩
  case helpers =>
    intro path first hfind
    simp only [Std.TreeMap.getElem?_insert, Std.LawfulEqCmp.compare_eq_iff_eq] at hfind
    split at hfind
    · rename_i hpath
      exact ⟨u, hu, Option.some.inj hfind, hpath⟩
    · obtain ⟨t, ht, hclaims⟩ := h.helpers hfind
      exact ⟨t, List.mem_append_left _ ht, hclaims⟩

theorem ClaimedBy.foldlM : ∀ {done : List TypeId} {claimed : Claimed}, ClaimedBy config ids done claimed →
    ∀ {types : List TypeId}, (types.map (placed config)).foldlM Claimed.add claimed = .ok claimed' →
      ClaimedBy config ids (done ++ types) claimed' := by
  intro done claimed h types
  induction types generalizing done claimed with
  | nil =>
    intro hrun
    cases hrun
    rwa [List.append_nil]
  | cons t types ih =>
    intro hrun
    rw [List.map_cons, List.foldlM_cons] at hrun
    obtain ⟨claimed₁, hadd, hrun⟩ := bind_eq_ok_iff.mp hrun
    rw [List.append_cons]
    exact ih (h.add hadd) hrun

/-- A type that cannot be added coincides with the one that is reported as the first. -/
theorem ClaimedBy.add_error (h : ClaimedBy config ids done claimed) (hsub : ∀ t ∈ done, t ∈ ids) (hu : u ∉ done)
    (hadd : claimed.add (placed config u) = .error e) :
    ∃ t ∈ ids, ∃ path, e = .artifactCollision t.name u.name path ∧ Coincide config t u path := by
  have hne : ∀ {t}, t ∈ done → t ≠ u := fun ht heq => hu (heq ▸ ht)
  -- A claim of `u` for an item can only fail at an entry that was there before.
  have hitem : ∀ {path first}, claimed.items[path]? = some first → path ∈ itemTexts (.ofType u config) →
      e = .artifactCollision first u.name path →
      ∃ t ∈ ids, ∃ path, e = .artifactCollision t.name u.name path ∧ Coincide config t u path := by
    rintro path _ hfind hpath rfl
    rcases h.items hfind with ⟨t, ht, rfl, hclaims⟩ | ⟨t, ht, rfl, hbelow⟩
    · exact ⟨t, hsub t ht, path, rfl, .items (hne ht) hclaims hpath⟩
    · exact ⟨t, ht, path, rfl, .module hbelow hpath⟩
  rw [add_placed] at hadd
  rcases bind_eq_error_iff.mp hadd with hclass | ⟨items₁, hclass, hadd⟩
  · obtain ⟨first, hfind, he⟩ := claim_eq_error_iff.mp hclass
    exact hitem hfind (itemTexts_eq _ ▸ List.mem_cons_self) he
  rcases bind_eq_error_iff.mp hadd with hbuilder | ⟨items₂, -, hadd⟩
  · obtain ⟨first, hfind, he⟩ := claim_eq_error_iff.mp hbuilder
    obtain ⟨-, rfl⟩ := claim_eq_ok_iff.mp hclass
    rw [Std.TreeMap.getElem?_insert,
      if_neg (mt Std.LawfulEqCmp.compare_eq_iff_eq.mp (builderText_ne_classText _).symm)] at hfind
    exact hitem hfind (itemTexts_eq _ ▸ List.mem_cons_of_mem _ List.mem_cons_self) he
  rcases bind_eq_error_iff.mp hadd with hhelper | ⟨helpers, -, hadd⟩
  · obtain ⟨first, hfind, rfl⟩ := claim_eq_error_iff.mp hhelper
    obtain ⟨t, ht, rfl, hclaims⟩ := h.helpers hfind
    exact ⟨t, hsub t ht, _, rfl, .helpers (hne ht) hclaims rfl⟩
  · cases hadd

theorem coincide_of_checkItems {schema : Schema} (h : checkItems schema config = .error e) :
    ∃ t ∈ declared schema, ∃ u ∈ declared schema, ∃ path,
      e = .artifactCollision t.name u.name path ∧ Coincide config t u path := by
  rw [checkItems, placements_eq_map] at h
  rcases bind_eq_error_iff.mp h with hrun | ⟨_, -, hdone⟩
  · rw [List.foldlM_map] at hrun
    obtain ⟨before, u, after, claimed, hsplit, hbefore, hadd⟩ := exists_of_foldlM_error hrun
    rw [← List.foldlM_map] at hbefore
    have hclaimed := (claimedBy_moduleClaims config (declared schema)).foldlM hbefore
    -- Every type is declared once, so `u` has not been added yet.
    have hnodup : (declared schema).Nodup := schema.nodup_toList
    rw [hsplit] at hnodup
    have hnew : u ∉ before := fun hmem =>
      (List.nodup_append.mp hnodup).2.2 u hmem u List.mem_cons_self rfl
    have hsub : ∀ t ∈ before, t ∈ declared schema := fun t ht => hsplit ▸ List.mem_append_left _ ht
    obtain ⟨t, ht, path, he, hcoincide⟩ := hclaimed.add_error hsub hnew hadd
    exact ⟨t, ht, u, hsplit ▸ List.mem_append_right _ List.mem_cons_self, path, he, hcoincide⟩
  · cases hdone

/-- Types at places without a common item do not coincide. -/
theorem not_coincide_of_checkItems {schema : Schema} (h : checkItems schema config = .ok ())
    (ht : t ∈ declared schema) (hu : u ∈ declared schema) : ¬ Coincide config t u path := by
  have hdistinct := distinctItems_of_checkItems h
  have hplaces : (placements schema config).map (·.2) = (declared schema).map (Placement.ofType · config) := by
    rw [placements_eq_map, List.map_map]
    rfl
  rw [hplaces] at hdistinct
  have hnodup : (declared schema).Nodup := schema.nodup_toList
  intro hcoincide
  cases hcoincide with
  | items hne hpath hpath' =>
    have hitems := hdistinct.items
    rw [List.flatMap_map, List.nodup_flatMap] at hitems
    have hsymm : Std.Symm (Function.onFun List.Disjoint fun t => itemTexts (.ofType t config)) :=
      ⟨fun _ _ hd => List.Disjoint.symm hd⟩
    exact hitems.2.forall ht hu hne hpath hpath'
  | module hbelow hpath =>
    exact hdistinct.modules _ (List.mem_map_of_mem hu) _ (List.mem_map_of_mem ht) _
      (mem_moduleTexts_iff.mp hbelow) hpath
  | helpers hne hpath hpath' =>
    have hhelpers := hdistinct.helpers
    rw [List.map_map] at hhelpers
    exact hne (List.inj_on_of_nodup_map hhelpers ht hu (hpath.trans hpath'.symm))

end Claiming

/-! ### Sound fields -/

/-- Every field has a type, and no two fields of a type have members of one name. -/
structure FieldsSound (schema : Schema) : Prop where
  resolves : ∀ t ∈ schema.toList, ∀ field ∈ t.2.fields.entries,
    ∃ type, (Resolver.ofSchema schema).resolve field.2 t.1.name = .ok type
  distinct : ∀ t ∈ schema.toList, (t.2.fields.entries.map fun field => memberName field.1).Nodup

theorem addMember_eq_error_iff {resolver : Resolver} {typeName : String} {members : List Member}
    {field : String × Field} {e : EmitError} : addMember resolver typeName members field = .error e ↔
      (∃ cause, resolver.resolve field.2 typeName = .error cause ∧ e = .fieldType typeName field.1 cause) ∨
        ∃ type, resolver.resolve field.2 typeName = .ok type ∧
          ∃ first, members.find? (·.name == memberName field.1) = some first ∧
            e = .memberCollision typeName first.fieldName field.1 (memberName field.1) := by
  rw [addMember]
  split
  · rename_i cause hcause
    simp [hcause, eq_comm]
  · rename_i type htype
    dsimp only
    split
    · rename_i first hfirst
      simp [htype, hfirst, eq_comm]
    · rename_i hfree
      simp [htype, hfree]

/-- Members that cannot be made: a field has no type, or two fields would have members of one name. -/
theorem of_membersOf_error {resolver : Resolver} {typeName : String} {spec : TypeSpec} {e : EmitError}
    (h : membersOf resolver typeName spec = .error e) :
    (∃ field ∈ spec.fields.entries, ∃ cause, resolver.resolve field.2 typeName = .error cause ∧
        e = .fieldType typeName field.1 cause) ∨
      ∃ first ∈ spec.fields.entries, ∃ second ∈ spec.fields.entries, first.1 ≠ second.1 ∧
        memberName first.1 = memberName second.1 ∧
          e = .memberCollision typeName first.1 second.1 (memberName second.1) := by
  obtain ⟨before, field, after, members, hsplit, hbefore, hfield⟩ := exists_of_foldlM_error h
  have hentries : ∀ f ∈ before ++ field :: after, f ∈ spec.fields.entries := fun f hf =>
    (orderFields_perm _).mem_iff.mp (hsplit ▸ hf)
  have hmem := hentries field (List.mem_append_right _ List.mem_cons_self)
  rcases addMember_eq_error_iff.mp hfield with ⟨cause, hcause, he⟩ | ⟨-, -, first, hfirst, he⟩
  · exact Or.inl ⟨field, hmem, cause, hcause, he⟩
  · -- The member of that name comes from a field before this one, and every field is there once.
    obtain ⟨new, hnew, rfl⟩ := foldlM_addMember_ok hbefore
    obtain ⟨other, hother, hof⟩ := exists_of_mem_right hnew (List.mem_of_find?_eq_some hfirst)
    have hname : memberName other.1 = memberName field.1 := by
      rw [← hof.name]
      simpa using List.find?_some hfirst
    have hsorted : ((orderFields spec.fields.entries).map (·.1)).Nodup := nodup_map_orderFields spec.fields.nodup_keys
    rw [hsplit, List.map_append, List.nodup_append] at hsorted
    have hne := hsorted.2.2 _ (List.mem_map_of_mem hother) _ (List.mem_map_of_mem List.mem_cons_self)
    rw [hof.fieldName] at he
    exact Or.inr ⟨other, hentries other (List.mem_append_left _ hother), field, hmem, hne, hname, he⟩

theorem exists_membersOf {resolver : Resolver} {typeName : String} {spec : TypeSpec}
    (hresolves : ∀ field ∈ spec.fields.entries, ∃ type, resolver.resolve field.2 typeName = .ok type)
    (hdistinct : (spec.fields.entries.map fun f => memberName f.1).Nodup) :
    ∃ members, membersOf resolver typeName spec = .ok members := by
  cases hmembers : membersOf resolver typeName spec with
  | ok members => exact ⟨members, rfl⟩
  | error e =>
    rcases of_membersOf_error hmembers with ⟨field, hfield, cause, hcause, -⟩ | ⟨f, hf, g, hg, hne, hname, -⟩
    · obtain ⟨type, htype⟩ := hresolves field hfield
      rw [htype] at hcause
      cases hcause
    · exact absurd (congrArg Prod.fst (List.inj_on_of_nodup_map hdistinct hf hg hname)) hne

theorem FieldsSound.exists_memberTable {schema : Schema} (h : FieldsSound schema) :
    ∃ table, memberTable schema = .ok table := by
  cases htable : memberTable schema with
  | ok table => exact ⟨table, rfl⟩
  | error e =>
    rw [memberTable] at htable
    obtain ⟨t, ht, he⟩ := Catalogue.traverse_error htable
    obtain ⟨members, hmembers⟩ := exists_membersOf (h.resolves t ht) (h.distinct t ht)
    rw [hmembers] at he
    cases he

theorem nodup_names_of_addMember {resolver : Resolver} {typeName : String} {members members' : List Member}
    {field : String × Field} (hmembers : (members.map (·.name)).Nodup)
    (h : addMember resolver typeName members field = .ok members') : (members'.map (·.name)).Nodup := by
  rw [addMember] at h
  split at h
  · cases h
  · dsimp only at h
    split at h
    · cases h
    · rename_i hfree
      cases h
      have hnew : memberName field.1 ∉ members.map (·.name) := by
        intro hmem
        obtain ⟨m, hm, hname⟩ := List.mem_map.mp hmem
        exact absurd hname (by simpa using List.find?_eq_none.mp hfree m hm)
      simp only [List.map_append, List.map_cons, List.map_nil]
      exact hmembers.append (List.nodup_singleton _) (List.disjoint_singleton.mpr hnew)

theorem nodup_names_of_foldlM {resolver : Resolver} {typeName : String} {fields : List (String × Field)} :
    ∀ {members members' : List Member}, (members.map (·.name)).Nodup →
      fields.foldlM (addMember resolver typeName) members = .ok members' → (members'.map (·.name)).Nodup := by
  induction fields with
  | nil =>
    intro members members' hmembers h
    cases h
    exact hmembers
  | cons field fields ih =>
    intro members members' hmembers h
    rw [List.foldlM_cons] at h
    obtain ⟨members₁, hfield, h⟩ := bind_eq_ok_iff.mp h
    exact ih (nodup_names_of_addMember hmembers hfield) h

theorem nodup_memberNames {resolver : Resolver} {typeName : String} {spec : TypeSpec} {members : List Member}
    (h : membersOf resolver typeName spec = .ok members) :
    (spec.fields.entries.map fun field => memberName field.1).Nodup := by
  have hnames : members.map (·.name) = (orderFields spec.fields.entries).map fun field => memberName field.1 :=
    map_eq_of_forall₂ (membersOf_ok h) fun _ _ hm => hm.name
  have hnil : (([] : List Member).map (·.name)).Nodup := List.nodup_nil
  have hmembers := nodup_names_of_foldlM hnil h
  rw [hnames] at hmembers
  exact ((orderFields_perm _).map _).nodup_iff.mp hmembers

/-- The members that a table has for a declared type. -/
theorem exists_of_memberTable {schema : Schema} {table : MemberTable} {id : TypeId} {spec : TypeSpec}
    (h : memberTable schema = .ok table) (hspec : schema.find? id = some spec) :
    ∃ members, table.find? id = some members ∧ membersOf (Resolver.ofSchema schema) id.name spec = .ok members := by
  have htraverse : schema.traverse (fun id spec => membersOf (Resolver.ofSchema schema) id.name spec) = .ok table := h
  have hrel := Catalogue.find?_traverse htraverse id
  rw [hspec] at hrel
  cases hfind : table.find? id <;> rw [hfind] at hrel
  · cases hrel
  · cases hrel with
    | some hof => exact ⟨_, rfl, hof⟩

/-- Only a schema whose fields are sound has a table of members. -/
theorem fieldsSound_of_memberTable {schema : Schema} {table : MemberTable} (h : memberTable schema = .ok table) :
    FieldsSound schema := by
  constructor
  case resolves =>
    intro t ht field hfield
    obtain ⟨members, -, hof⟩ := exists_of_memberTable h (Catalogue.mem_toList_iff.mp ht)
    obtain ⟨m, -, hm⟩ := exists_of_mem_left (membersOf_ok hof) ((orderFields_perm _).mem_iff.mpr hfield)
    exact ⟨m.type, hm.type⟩
  case distinct =>
    intro t ht
    obtain ⟨members, -, hof⟩ := exists_of_memberTable h (Catalogue.mem_toList_iff.mp ht)
    exact nodup_memberNames hof

/-! ### Collisions -/

section Collisions
variable {schema : Schema} {config : Config} {bundle : Bundle} {e : EmitError} {first second path : String}

/-- A collision between types is found where items are checked, and nowhere else. -/
theorem checkItems_of_ofSchema (h : Bundle.ofSchema schema config = .error (.artifactCollision first second path)) :
    checkItems schema config = .error (.artifactCollision first second path) := by
  rw [Bundle.ofSchema] at h
  rcases bind_eq_error_iff.mp h with htable | ⟨table, -, h⟩
  · rw [memberTable] at htable
    obtain ⟨t, -, ht⟩ := Catalogue.traverse_error htable
    rcases of_membersOf_error ht with ⟨_, -, _, -, hcause⟩ | ⟨_, -, _, -, -, -, hcollision⟩
    · cases hcause
    · cases hcollision
  rcases bind_eq_error_iff.mp h with hitems | ⟨_, -, h⟩
  · exact hitems
  rcases bind_eq_error_iff.mp h with hartifacts | ⟨artifacts, -, h⟩
  · have hnames : FailsWith (· ≠ .artifactCollision first second path)
        (schema.traverse (checkedArtifact config table.boxCycles)) := by
      refine FailsWith.traverse fun _ _ => failsWith_checkedArtifact fun _ _ _ hcause => ?_
      cases hcause
    exact absurd rfl (hnames _ hartifacts)
  · cases h

theorem ofSchema_of_checkItems (h : FieldsSound schema) (hitems : checkItems schema config = .error e) :
    Bundle.ofSchema schema config = .error e := by
  obtain ⟨table, htable⟩ := h.exists_memberTable
  rw [Bundle.ofSchema, htable, hitems]
  rfl

/-- Items and modules have one path each, and so do helpers. -/
theorem nodup_of_distinctItems {places : List Placement} (h : DistinctItems places) :
    (places.flatMap itemTexts ++ (places.flatMap moduleTexts).dedup).Nodup ∧ (places.map helperText).Nodup := by
  refine ⟨h.items.append (List.nodup_dedup _) fun path hpath hbelow => ?_, h.helpers⟩
  obtain ⟨p, hp, hpath⟩ := List.mem_flatMap.mp hpath
  obtain ⟨q, hq, hbelow⟩ := List.mem_flatMap.mp (List.mem_dedup.mp hbelow)
  exact h.modules p hp q hq path (mem_moduleTexts_iff.mp hbelow) hpath

/-- A schema whose fields are sound is refused for a collision of types if and only if two of its types coincide, and
    such a coincidence is reported: the second type claims the path for an item or its helper. Otherwise no path is
    taken twice. -/
theorem collides_iff_coincide (hsound : FieldsSound schema) :
    ((∃ first second path, Bundle.ofSchema schema config = .error (.artifactCollision first second path)) ↔
        ∃ t ∈ declared schema, ∃ u ∈ declared schema, ∃ path, Coincide config t u path) ∧
      (∀ first second path, Bundle.ofSchema schema config = .error (.artifactCollision first second path) →
        ∃ t ∈ declared schema, ∃ u ∈ declared schema, t.name = first ∧ u.name = second ∧ Coincide config t u path) ∧
      ∀ bundle, Bundle.ofSchema schema config = .ok bundle →
        ((bundle.artifacts.map (·.placement)).flatMap itemTexts ++
          ((bundle.artifacts.map (·.placement)).flatMap moduleTexts).dedup).Nodup ∧
        ((bundle.artifacts.map (·.placement)).map helperText).Nodup := by
  have hreported : ∀ first second path,
      Bundle.ofSchema schema config = .error (.artifactCollision first second path) →
      ∃ t ∈ declared schema, ∃ u ∈ declared schema, t.name = first ∧ u.name = second ∧ Coincide config t u path := by
    intro first second path h
    obtain ⟨t, ht, u, hu, path', he, hcoincide⟩ := coincide_of_checkItems (checkItems_of_ofSchema h)
    cases he
    exact ⟨t, ht, u, hu, rfl, rfl, hcoincide⟩
  refine ⟨⟨?_, ?_⟩, hreported, ?_⟩
  · rintro ⟨first, second, path, h⟩
    obtain ⟨t, ht, u, hu, -, -, hcoincide⟩ := hreported first second path h
    exact ⟨t, ht, u, hu, path, hcoincide⟩
  · rintro ⟨t, ht, u, hu, path, hcoincide⟩
    cases hitems : checkItems schema config with
    | ok => exact absurd hcoincide (not_coincide_of_checkItems hitems ht hu)
    | error e =>
      have hschema := ofSchema_of_checkItems hsound hitems
      obtain ⟨t', -, u', -, path', rfl, -⟩ := coincide_of_checkItems hitems
      exact ⟨t'.name, u'.name, path', hschema⟩
  · intro bundle h
    obtain ⟨table, artifacts, hemits, rfl⟩ := ofSchema_ok h
    exact nodup_of_distinctItems hemits.distinctItems

/-- A property type where another one needs a module. -/
def forest : Schema where
  properties := .ofList [
    ("forest", { fields := .ofList [("oldest", .nested "Tree")] }),
    ("forest.Tree", { fields := .ofList [("height", .ofPrimitive "Double")] })]
  resources := .empty

theorem collides_iff_coincide_forest : FieldsSound forest ∧
    Bundle.ofSchema forest {} = .error (.artifactCollision "forest.Tree" "forest" "property::forest") ∧
      ∃ t ∈ declared forest, ∃ u ∈ declared forest,
        t.name = "forest.Tree" ∧ u.name = "forest" ∧ Coincide {} t u "property::forest" := by
  have hresolves : ∀ t ∈ forest.toList, ∀ field ∈ t.2.fields.entries,
      ((Resolver.ofSchema forest).resolve field.2 t.1.name).toOption.isSome = true := by decide +kernel
  have hsound : FieldsSound forest :=
    ⟨fun t ht field hfield => exists_eq_ok (hresolves t ht field hfield), by decide +kernel⟩
  have hschema : Bundle.ofSchema forest {} = .error (.artifactCollision "forest.Tree" "forest" "property::forest") := by
    have herror : (match Bundle.ofSchema forest {} with
      | .error e => some e
      | .ok _ => none) = some (.artifactCollision "forest.Tree" "forest" "property::forest") := by decide +kernel
    cases hresult : Bundle.ofSchema forest {} with
    | error e =>
      rw [hresult] at herror
      exact congrArg _ (Option.some.inj herror)
    | ok bundle =>
      rw [hresult] at herror
      cases herror
  exact ⟨hsound, hschema, (collides_iff_coincide hsound).2.1 _ _ _ hschema⟩

end Collisions

end Typewright.Emission
