import Typewright.Proofs.Coincidences
import Typewright.Proofs.Completeness
import Typewright.Proofs.Format

/-! # Names that are made twice

`Clash` says of the fields and attributes of a type alone when two of its sources make one name: two fields make one
member, a field makes a member that every resource has, attributes make one method or one that every data type has,
or two setters get one name. Where fields resolve and types do not coincide, a schema is refused if and only if one of
its types clashes, and what is reported is such a clash. In the artifacts of a schema that is not refused the names of
struct fields, of methods and of builder methods are distinct. -/

namespace Typewright

/-- The methods of a data type: its constructor, its factory and the accessors. -/
def Artifact.methodNames (a : Artifact) : List String :=
  [a.data.constructor.name, a.factory.name] ++ a.data.accessors.map (·.name)

/-- The methods of a builder: its constructor, the build method and the setters. -/
def Artifact.builderMethodNames (a : Artifact) : List String :=
  [a.builder.constructor.name, a.builder.build.name] ++ a.builder.setters.map (·.callable.name)

namespace Emission

/-! ### Clashes -/

/-- The setters of a field of the type `typeName`: of which kind they are and what they are called. -/
inductive SetterNamed (schema : Schema) (typeName : String) (field : String × Field) : SetterKind → String → Prop where
  | wrapping {type : FieldType} : (Resolver.ofSchema schema).resolve field.2 typeName = .ok type →
      type.isWrappedScalar = true → SetterNamed schema typeName field .wrapping (setterName (memberName field.1))
  | value {type : FieldType} : (Resolver.ofSchema schema).resolve field.2 typeName = .ok type →
      type.isWrappedScalar = true → SetterNamed schema typeName field .direct (memberName field.1 ++ "_value")
  | plain {type : FieldType} : (Resolver.ofSchema schema).resolve field.2 typeName = .ok type →
      type.isWrappedScalar = false → SetterNamed schema typeName field .direct (setterName (memberName field.1))
  | inPlace {target : String} : (Resolver.ofSchema schema).resolve field.2 typeName = .ok (.named target) →
      (schema.find? ⟨.property, target⟩).isSome = true →
      SetterNamed schema typeName field .nested (memberName field.1 ++ "_with")

/-- Two sources in the type `t` make one name. A name that every type of a kind has is a source of itself. -/
inductive Clash (schema : Schema) (t : TypeId × TypeSpec) : String → String → String → Prop where
  | members {first second : String} : first ∈ t.2.fields.keys → second ∈ t.2.fields.keys → first ≠ second →
      memberName first = memberName second → Clash schema t first second (memberName second)
  | identity {field : String} : t.1.kind = .resource → field ∈ t.2.fields.keys →
      memberName field ∈ ["logical_name", "depends_on"] →
      Clash schema t (memberName field) field (memberName field)
  | accessors {first second : String} : t.1.kind = .resource → first ∈ t.2.attributes.keys →
      second ∈ t.2.attributes.keys → first ≠ second → memberName first = memberName second →
      Clash schema t first second (memberName second)
  | method {source : String} : t.1.kind = .resource → source ∈ t.2.attributes.keys →
      memberName source ∈ ["new", "create"] →
      Clash schema t (memberName source) source (memberName source)
  | setters {first second : String × Field} {kind kind' : SetterKind} {name : String} :
      first ∈ t.2.fields.entries → second ∈ t.2.fields.entries → (first.1, kind) ≠ (second.1, kind') →
      SetterNamed schema t.1.name first kind name → SetterNamed schema t.1.name second kind' name →
      Clash schema t first.1 second.1 name

/-! ### Checks that fail -/

theorem mem_of_find?_foldl_insert {xs : List (String × String)} {k v : String} : ∀ {m : SortedMap String},
    (xs.foldl (fun m e => m.insert e.1 e.2) m).find? k = some v → (k, v) ∈ xs ∨ m.find? k = some v := by
  induction xs with
  | nil => exact fun h => Or.inr h
  | cons x xs ih =>
    intro m h
    rw [List.foldl_cons] at h
    rcases ih h with hmem | hfind
    · exact Or.inl (List.mem_cons_of_mem _ hmem)
    · rw [SortedMap.find?_insert] at hfind
      split at hfind
      · rename_i hk
        cases hfind
        exact Or.inl (hk ▸ List.mem_cons_self)
      · exact Or.inr hfind

/-- Claims that all succeed are entered one after the other. -/
theorem foldlM_claim_eq {typeName : String} {claims : List (String × String)} : ∀ {o o' : Origins},
    claims.foldlM (Origins.claim typeName) o = .ok o' → o' = claims.foldl (fun m e => m.insert e.1 e.2) o := by
  induction claims with
  | nil =>
    intro o o' h
    cases h
    rfl
  | cons c claims ih =>
    intro o o' h
    rw [List.foldlM_cons] at h
    obtain ⟨o₁, hc, h⟩ := bind_eq_ok_iff.mp h
    rw [Origins.claim] at hc
    split at hc
    · cases hc
    · cases hc
      exact ih h

/-- Where names do not pass the check, one of them is fixed or stands behind the same name. -/
theorem of_checkNames_error {α : Type} {typeName : String} {fixed : List String} {xs : List α}
    {name origin : α → String} {e : EmitError}
    (h : checkNames typeName fixed (xs.map fun x => (name x, origin x)) = .error e) : ∃ y ∈ xs,
      (name y ∈ fixed ∧ e = .memberCollision typeName (name y) (origin y) (name y)) ∨
        ∃ x ∈ xs, List.Sublist [x, y] xs ∧ name x = name y ∧
          e = .memberCollision typeName (origin x) (origin y) (name y) := by
  rw [checkNames] at h
  rcases bind_eq_error_iff.mp h with hrun | ⟨_, -, hdone⟩
  · obtain ⟨before, c, after, o, hsplit, hbefore, hc⟩ := exists_of_foldlM_error hrun
    obtain ⟨left, right, rfl, rfl, hright⟩ := List.map_eq_append_iff.mp hsplit
    obtain ⟨y, right, rfl, rfl, -⟩ := List.map_eq_cons_iff.mp hright
    have hy : y ∈ left ++ y :: right := List.mem_append_right _ List.mem_cons_self
    rw [Origins.claim] at hc
    split at hc
    · rename_i first hfirst
      cases hc
      rw [foldlM_claim_eq hbefore, SortedMap.ofList, ← List.foldl_append] at hfirst
      rcases mem_of_find?_foldl_insert hfirst with hmem | hempty
      · rcases List.mem_append.mp hmem with hmem | hmem
        · obtain ⟨n, hn, heq⟩ := List.mem_map.mp hmem
          obtain ⟨rfl, rfl⟩ := Prod.mk.inj heq
          exact ⟨y, hy, Or.inl ⟨hn, rfl⟩⟩
        · obtain ⟨x, hx, heq⟩ := List.mem_map.mp hmem
          obtain ⟨hname, rfl⟩ := Prod.mk.inj heq
          have hpair : List.Sublist ([x] ++ [y]) (left ++ y :: right) :=
            (List.singleton_sublist.mpr hx).append (List.singleton_sublist.mpr List.mem_cons_self)
          exact ⟨y, hy, Or.inr ⟨x, List.mem_append_left _ hx, hpair, hname, rfl⟩⟩
      · cases hempty
    · cases hc
  · cases hdone

theorem ne_of_sublist {α β : Type} {xs : List α} {key : α → β} (h : (xs.map key).Nodup) {x y : α}
    (hpair : List.Sublist [x, y] xs) : key x ≠ key y := by
  have hkeys : [key x, key y].Nodup := h.sublist (hpair.map key)
  exact List.ne_of_not_mem_cons (List.nodup_cons.mp hkeys).1

/-- Names that pass the check are distinct together with the fixed ones. -/
theorem nodup_of_checkNames {typeName : String} {fixed : List String} {claims : List (String × String)}
    (h : checkNames typeName fixed claims = .ok ()) (hfixed : fixed.Nodup) : (fixed ++ claims.map (·.1)).Nodup := by
  obtain ⟨hnodup, hnew⟩ := checkNames_ok h
  exact hfixed.append hnodup fun name hmem hclaimed => hnew name hclaimed hmem

/-! ### Names of setters -/

theorem setterName_not_mem (member : String) : setterName member ∉ builderMethods := by
  rw [setterName]
  split
  · rename_i hmem
    rcases List.mem_pair.mp (List.contains_iff_mem.mp hmem) with rfl | rfl <;> decide
  · rename_i hnot
    exact fun hmem => hnot (List.contains_iff_mem.mpr hmem)

theorem append_not_mem {suffix : String} (member : String) (h : ∀ m ∈ builderMethods, ¬ suffix.toList <:+ m.toList) :
    member ++ suffix ∉ builderMethods := by
  intro hmem
  refine h _ hmem ?_
  rw [String.toList_append]
  exact List.suffix_append _ _

/-- No setter takes the name of a method that every builder has. -/
theorem SetterNamed.not_mem {schema : Schema} {typeName : String} {field : String × Field} {kind : SetterKind}
    {name : String} (h : SetterNamed schema typeName field kind name) : name ∉ builderMethods := by
  cases h with
  | wrapping | plain => exact setterName_not_mem _
  | value => exact append_not_mem _ (by decide)
  | inPlace => exact append_not_mem _ (by decide)

/-! ### Members and their setters -/

section Members
variable {schema : Schema} {table : MemberTable} {id : TypeId} {spec : TypeSpec} {members : List Member} {m : Member}
  {field : String × Field} {kind : SetterKind} {name typeName : String} {s : Setter}

/-- Once there is a table, every declared type has a member for each of its fields. -/
theorem exists_boxed (htable : memberTable schema = .ok table) (hspec : schema.find? id = some spec) :
    ∃ members, table.boxCycles.find? id = some members ∧
      List.Forall₂ (StandsFor (Resolver.ofSchema schema) id.name) (orderFields spec.fields.entries) members := by
  obtain ⟨members, hmembers, hof⟩ := exists_of_memberTable htable hspec
  refine ⟨_, by rw [find?_boxCycles, hmembers]; rfl, ?_⟩
  rw [List.forall₂_map_right_iff]
  refine (membersOf_ok hof).imp fun field m hm => ?_
  exact { hm with unboxed := rfl }

theorem isSome_boxed (htable : memberTable schema = .ok table) (id : TypeId) :
    (table.boxCycles.find? id).isSome = (schema.find? id).isSome := by
  have htraverse : schema.traverse (fun id spec => membersOf (Resolver.ofSchema schema) id.name spec) = .ok table :=
    htable
  have hrel := Catalogue.find?_traverse htraverse id
  rw [find?_boxCycles, Option.isSome_map]
  cases hs : schema.find? id <;> cases ht : table.find? id <;> rw [hs, ht] at hrel
  · rfl
  · cases hrel
  · cases hrel
  · rfl

/-- What makes a setter of a member. -/
theorem mem_settersOf_iff : s ∈ settersOf table m ↔
    (m.type.isWrappedScalar = true ∧ (s = wrappingSetter m ∨ s = directSetter m (m.name ++ "_value"))) ∨
      (m.type.isWrappedScalar = false ∧ (s = directSetter m (setterName m.name) ∨
        ∃ target members, m.type.named? = some target ∧ table.properties.find? target = some members ∧
          s = nestedSetter m target members)) := by
  rw [settersOf]
  cases m.type.isWrappedScalar with
  | true => simp
  | false =>
    cases m.type.named? with
    | none => simp
    | some target => cases hfind : table.properties.find? target <;> simp [hfind]

/-- The setters of a member are those of its field. -/
theorem setterNamed_iff (htable : memberTable schema = .ok table)
    (hm : StandsFor (Resolver.ofSchema schema) typeName field m) : SetterNamed schema typeName field kind name ↔
      ∃ s ∈ settersOf table.boxCycles m, s.kind = kind ∧ s.callable.name = name := by
  have hname : m.name = memberName field.1 := hm.name
  have htype : (Resolver.ofSchema schema).resolve field.2 typeName = .ok m.type := hm.type
  constructor
  · intro h
    have heq : ∀ {type}, (Resolver.ofSchema schema).resolve field.2 typeName = .ok type → m.type = type :=
      fun hresolve => Except.ok.inj (htype.symm.trans hresolve)
    cases h with
    | wrapping hresolve hscalar =>
      refine ⟨wrappingSetter m, mem_settersOf_iff.mpr (Or.inl ⟨heq hresolve ▸ hscalar, Or.inl rfl⟩), rfl, ?_⟩
      exact congrArg setterName hname
    | value hresolve hscalar =>
      refine ⟨directSetter m _, mem_settersOf_iff.mpr (Or.inl ⟨heq hresolve ▸ hscalar, Or.inr rfl⟩), rfl, ?_⟩
      exact congrArg (· ++ "_value") hname
    | plain hresolve hplain =>
      refine ⟨directSetter m _, mem_settersOf_iff.mpr (Or.inr ⟨heq hresolve ▸ hplain, Or.inl rfl⟩), rfl, ?_⟩
      exact congrArg setterName hname
    | @inPlace target hresolve hdeclared =>
      rw [← isSome_boxed htable] at hdeclared
      obtain ⟨members, hmembers⟩ := Option.isSome_iff_exists.mp hdeclared
      have hnamed : m.type.named? = some target := congrArg FieldType.named? (heq hresolve)
      have hplain : m.type.isWrappedScalar = false := congrArg FieldType.isWrappedScalar (heq hresolve)
      refine ⟨nestedSetter m target members, mem_settersOf_iff.mpr (Or.inr ⟨hplain, Or.inr ?_⟩), rfl, ?_⟩
      · exact ⟨target, members, hnamed, hmembers, rfl⟩
      · exact congrArg (· ++ "_with") hname
  · rintro ⟨s, hs, rfl, rfl⟩
    rcases mem_settersOf_iff.mp hs with ⟨hscalar, rfl | rfl⟩ | ⟨hplain, rfl | ⟨target, members, htarget, hmembers, rfl⟩⟩
    · have hnamed := SetterNamed.wrapping htype hscalar
      rwa [← hname] at hnamed
    · have hnamed := SetterNamed.value htype hscalar
      rwa [← hname] at hnamed
    · have hnamed := SetterNamed.plain htype hplain
      rwa [← hname] at hnamed
    · have hdeclared : (schema.find? ⟨.property, target⟩).isSome = true := by
        rw [← isSome_boxed htable]
        exact Option.isSome_iff_exists.mpr ⟨members, hmembers⟩
      have hnamed := SetterNamed.inPlace (eq_named_of_named? htarget ▸ htype) hdeclared
      rwa [← hname] at hnamed

theorem member_of_mem_settersOf (hs : s ∈ settersOf table m) : s.member = m.name := by
  rcases mem_settersOf_iff.mp hs with ⟨-, rfl | rfl⟩ | ⟨-, rfl | ⟨-, -, -, -, rfl⟩⟩ <;> rfl

theorem nodup_kinds (table : MemberTable) (m : Member) : ((settersOf table m).map (·.kind)).Nodup := by
  rw [settersOf]
  cases m.type.isWrappedScalar with
  | true => simp [wrappingSetter, directSetter]
  | false =>
    cases m.type.named? with
    | none => simp
    | some target => cases hfind : table.properties.find? target <;> simp [hfind, directSetter, nestedSetter]

/-- The member that a setter writes and its kind tell it from all others. -/
theorem nodup_setters (table : MemberTable) (hnames : (members.map (·.name)).Nodup) :
    ((setters table members).map fun s => (s.member, s.kind)).Nodup := by
  rw [setters, List.map_flatMap, List.nodup_flatMap]
  constructor
  · intro m _
    refine List.Nodup.of_map Prod.snd ?_
    rw [List.map_map]
    exact nodup_kinds table m
  · rw [List.Nodup, List.pairwise_map] at hnames
    refine hnames.imp fun {m n} hne key hkey hkey' => hne ?_
    obtain ⟨s, hs, rfl⟩ := List.mem_map.mp hkey
    obtain ⟨s', hs', heq⟩ := List.mem_map.mp hkey'
    rw [← member_of_mem_settersOf hs, ← member_of_mem_settersOf hs']
    exact (congrArg Prod.fst heq).symm

theorem members_artifact (config : Config) (spec : TypeSpec) (hmembers : table.find? id = some members) :
    (artifact config table id spec).data.members = members := by
  rw [artifact, hmembers]
  rfl

theorem names_of_standsFor {resolver : Resolver} {fields : List (String × Field)}
    (h : List.Forall₂ (StandsFor resolver typeName) fields members) :
    members.map (·.name) = fields.map fun field => memberName field.1 :=
  map_eq_of_forall₂ h fun _ _ hm => hm.name

end Members

theorem of_mem_accessors {spec : TypeSpec} {acc : Accessor} (h : acc ∈ accessors spec) :
    acc.attributeName ∈ spec.attributes.keys ∧ acc.name = memberName acc.attributeName := by
  rw [accessors, List.mem_map] at h
  obtain ⟨source, hsource, heq⟩ := h
  rw [← heq]
  dsimp only
  exact ⟨hsource, rfl⟩

theorem kind_of_isResource {kind : TypeKind} (h : kind.isResource = true) : kind = .resource := by
  cases kind with
  | resource => rfl
  | property => cases h

/-! ### Clashes that are reported -/

section Reported
variable {schema : Schema} {config : Config} {table : MemberTable} {id : TypeId} {spec : TypeSpec}
  {members : List Member} {e : EmitError}

theorem clash_of_memberTable (htable : memberTable schema = .error e)
    (hresolves : ∀ t ∈ schema.toList, ∀ field ∈ t.2.fields.entries,
      ∃ type, (Resolver.ofSchema schema).resolve field.2 t.1.name = .ok type) :
    ∃ t ∈ schema.toList, ∃ first second member,
      e = .memberCollision t.1.name first second member ∧ Clash schema t first second member := by
  rw [memberTable] at htable
  obtain ⟨t, ht, hmembers⟩ := Catalogue.traverse_error htable
  rcases of_membersOf_error hmembers with ⟨field, hfield, cause, hcause, -⟩ | ⟨f, hf, g, hg, hne, hname, rfl⟩
  · obtain ⟨type, htype⟩ := hresolves t ht field hfield
    rw [htype] at hcause
    cases hcause
  · exact ⟨t, ht, f.1, g.1, _, rfl, .members (List.mem_map_of_mem hf) (List.mem_map_of_mem hg) hne hname⟩

/-- Once there is a table, a member can only have the name of what every resource has. -/
theorem clash_of_checkMembers
    (hstands : List.Forall₂ (StandsFor (Resolver.ofSchema schema) id.name) (orderFields spec.fields.entries) members)
    (hnames : (members.map (·.name)).Nodup)
    (h : checkNames id.name (if id.kind.isResource then [logicalName, dependsOn] else [])
      (members.map fun m => (m.name, m.fieldName)) = .error e) :
    ∃ first second member, e = .memberCollision id.name first second member ∧
      Clash schema (id, spec) first second member := by
  obtain ⟨m, hm, ⟨hfixed, rfl⟩ | ⟨m', -, hpair, hname, -⟩⟩ := of_checkNames_error h
  · obtain ⟨hresource, hfixed⟩ := List.mem_ite_nil_right.mp hfixed
    obtain ⟨field, hfield, hof⟩ := exists_of_mem_right hstands hm
    have hname : m.name = memberName field.1 := hof.name
    have hfieldName : m.fieldName = field.1 := hof.fieldName
    refine ⟨m.name, m.fieldName, m.name, rfl, ?_⟩
    rw [hname] at hfixed ⊢
    rw [hfieldName]
    exact .identity (kind_of_isResource hresource) (List.mem_map_of_mem ((orderFields_perm _).mem_iff.mp hfield)) hfixed
  · exact absurd hname (ne_of_sublist hnames hpair)

theorem clash_of_checkAccessors
    (h : checkNames id.name [constructorName, factoryName]
      ((if id.kind.isResource then accessors spec else []).map fun acc => (acc.name, acc.attributeName)) = .error e) :
    ∃ first second member, e = .memberCollision id.name first second member ∧
      Clash schema (id, spec) first second member := by
  obtain ⟨acc, hacc, hcases⟩ := of_checkNames_error h
  obtain ⟨hresource, hacc⟩ := List.mem_ite_nil_right.mp hacc
  have hkind := kind_of_isResource hresource
  obtain ⟨hsource, hname⟩ := of_mem_accessors hacc
  rcases hcases with ⟨hfixed, rfl⟩ | ⟨acc', hacc', hpair, hsame, rfl⟩
  · refine ⟨acc.name, acc.attributeName, acc.name, rfl, ?_⟩
    rw [hname] at hfixed ⊢
    exact .method hkind hsource hfixed
  · rw [if_pos hresource] at hacc' hpair
    obtain ⟨hsource', hname'⟩ := of_mem_accessors hacc'
    have hnodup : ((accessors spec).map (·.attributeName)).Nodup := by
      rw [attributeNames_accessors]
      exact spec.attributes.nodup_keys
    refine ⟨acc'.attributeName, acc.attributeName, acc.name, rfl, ?_⟩
    rw [hname, hname'] at hsame
    rw [hname]
    exact .accessors hkind hsource' hsource (ne_of_sublist hnodup hpair) hsame

/-- A setter of a type comes from the field that is reported for it. -/
theorem exists_field_of_setter (htable : memberTable schema = .ok table)
    (hstands : List.Forall₂ (StandsFor (Resolver.ofSchema schema) id.name) (orderFields spec.fields.entries) members)
    (hnames : (members.map (·.name)).Nodup) {s : Setter} (hs : s ∈ setters table.boxCycles members) (data : DataType)
    (hdata : data.members = members) :
    ∃ field ∈ spec.fields.entries, s.member = memberName field.1 ∧ originOf data s.member = field.1 ∧
      SetterNamed schema id.name field s.kind s.callable.name := by
  obtain ⟨m, hm, hs⟩ := List.mem_flatMap.mp hs
  obtain ⟨field, hfield, hof⟩ := exists_of_mem_right hstands hm
  have hname : m.name = memberName field.1 := hof.name
  have hfieldName : m.fieldName = field.1 := hof.fieldName
  have hfind : data.member? m.name = some m := by
    rw [DataType.member?, hdata]
    exact find?_of_mem hnames hm
  refine ⟨field, (orderFields_perm _).mem_iff.mp hfield, ?_, ?_, (setterNamed_iff htable hof).mpr ⟨s, hs, rfl, rfl⟩⟩
  · rw [member_of_mem_settersOf hs, hname]
  · rw [member_of_mem_settersOf hs, originOf, hfind]
    exact hfieldName

theorem clash_of_checkSetters (htable : memberTable schema = .ok table)
    (hstands : List.Forall₂ (StandsFor (Resolver.ofSchema schema) id.name) (orderFields spec.fields.entries) members)
    (hnames : (members.map (·.name)).Nodup) (data : DataType) (hdata : data.members = members)
    (h : checkNames id.name [constructorName, buildName]
      ((setters table.boxCycles members).map fun s => (s.callable.name, originOf data s.member)) = .error e) :
    ∃ first second member, e = .memberCollision id.name first second member ∧
      Clash schema (id, spec) first second member := by
  obtain ⟨s, hs, hcases⟩ := of_checkNames_error h
  obtain ⟨field, hfield, hmember, horigin, hnamed⟩ := exists_field_of_setter htable hstands hnames hs data hdata
  rcases hcases with ⟨hfixed, -⟩ | ⟨s', hs', hpair, hname, rfl⟩
  · exact absurd hfixed hnamed.not_mem
  · obtain ⟨field', hfield', hmember', horigin', hnamed'⟩ :=
      exists_field_of_setter htable hstands hnames hs' data hdata
    have hne := ne_of_sublist (nodup_setters table.boxCycles hnames) hpair
    refine ⟨_, _, _, rfl, ?_⟩
    rw [horigin, horigin']
    refine .setters hfield' hfield (fun hsame => hne ?_) (hname ▸ hnamed') hnamed
    obtain ⟨hkey, hkind⟩ := Prod.mk.inj hsame
    rw [hmember, hmember', hkey, hkind]

/-- An artifact is refused for a clash of its type. -/
theorem clash_of_checkArtifact (htable : memberTable schema = .ok table) (hspec : schema.find? id = some spec)
    (h : checkArtifact (artifact config table.boxCycles id spec) = .error e) :
    ∃ first second member, e = .memberCollision id.name first second member ∧
      Clash schema (id, spec) first second member := by
  obtain ⟨members, hmembers, hstands⟩ := exists_boxed htable hspec
  have hdata := members_artifact config spec hmembers
  have hdistinct := (fieldsSound_of_memberTable htable).distinct (id, spec) (Catalogue.mem_toList_iff.mpr hspec)
  have hnames : (members.map (·.name)).Nodup := names_of_standsFor hstands ▸ nodup_map_orderFields hdistinct
  rw [checkArtifact, hdata] at h
  rcases bind_eq_error_iff.mp h with h | ⟨_, -, h⟩
  · exact clash_of_checkMembers hstands hnames h
  rcases bind_eq_error_iff.mp h with h | ⟨_, -, h⟩
  · exact clash_of_checkAccessors h
  · have hsetters : (artifact config table.boxCycles id spec).builder.setters = setters table.boxCycles members :=
      congrArg (setters table.boxCycles) hdata
    rw [hsetters] at h
    exact clash_of_checkSetters htable hstands hnames _ hdata h

/-- Where fields resolve and types do not coincide, nothing but a clash is reported. -/
theorem clash_of_ofSchema
    (hresolves : ∀ t ∈ schema.toList, ∀ field ∈ t.2.fields.entries,
      ∃ type, (Resolver.ofSchema schema).resolve field.2 t.1.name = .ok type)
    (hplaces : ∀ t ∈ declared schema, ∀ u ∈ declared schema, ∀ path, ¬ Coincide config t u path)
    (h : Bundle.ofSchema schema config = .error e) : ∃ t ∈ schema.toList, ∃ first second member,
      e = .memberCollision t.1.name first second member ∧ Clash schema t first second member := by
  rw [Bundle.ofSchema] at h
  rcases bind_eq_error_iff.mp h with htable | ⟨table, htable, h⟩
  · exact clash_of_memberTable htable hresolves
  rcases bind_eq_error_iff.mp h with hitems | ⟨_, -, h⟩
  · obtain ⟨t, ht, u, hu, path, -, hcoincide⟩ := coincide_of_checkItems hitems
    exact absurd hcoincide (hplaces t ht u hu path)
  rcases bind_eq_error_iff.mp h with hartifacts | ⟨_, -, h⟩
  · obtain ⟨t, ht, hchecked⟩ := Catalogue.traverse_error hartifacts
    rcases bind_eq_error_iff.mp hchecked with hcheck | ⟨_, -, hdone⟩
    · exact ⟨t, ht, clash_of_checkArtifact htable (Catalogue.mem_toList_iff.mp ht) hcheck⟩
    · cases hdone
  · cases h

end Reported

/-! ### Emission without clashes -/

namespace Emits
variable {schema : Schema} {config : Config} {table : MemberTable} {artifacts : Catalogue Artifact} {a : Artifact}
  {t : TypeId × TypeSpec} {first second member : String}

theorem nodup_methods (h : Emits schema config table artifacts) (ha : a ∈ (Bundle.ofCatalogue artifacts).artifacts) :
    a.methodNames.Nodup ∧ a.builderMethodNames.Nodup := by
  obtain ⟨spec, -, heq, hcheck⟩ := h.find?_artifacts_iff.mp (h.mem_artifacts_iff.mp ha)
  rw [checkArtifact] at hcheck
  obtain ⟨_, -, hcheck⟩ := bind_eq_ok_iff.mp hcheck
  obtain ⟨_, hmethods, hsetters⟩ := bind_eq_ok_iff.mp hcheck
  have hfixed : [a.data.constructor.name, a.factory.name] = [constructorName, factoryName] := by rw [heq]; rfl
  have hfixed' : [a.builder.constructor.name, a.builder.build.name] = [constructorName, buildName] := by rw [heq]; rfl
  have hnodup := nodup_of_checkNames hmethods (hfixed ▸ by decide)
  have hnodup' := nodup_of_checkNames hsetters (hfixed' ▸ by decide)
  rw [List.map_map] at hnodup hnodup'
  exact ⟨hnodup, hnodup'⟩

theorem mem_artifacts (h : Emits schema config table artifacts) (ht : t ∈ schema.toList) :
    artifact config table.boxCycles t.1 t.2 ∈ (Bundle.ofCatalogue artifacts).artifacts := by
  have hspec := Catalogue.mem_toList_iff.mp ht
  have hsome : (artifacts.find? t.1).isSome = true := by
    rw [h.isSome_find?_schema, hspec]
    rfl
  obtain ⟨a, ha⟩ := Option.isSome_iff_exists.mp hsome
  obtain ⟨spec, hspec', rfl, -⟩ := h.find?_artifacts_iff.mp ha
  obtain rfl := Option.some.inj (hspec.symm.trans hspec')
  exact h.mem_artifacts_iff.mpr ha

theorem exists_member (h : Emits schema config table artifacts) (ht : t ∈ schema.toList) {field : String × Field}
    (hfield : field ∈ t.2.fields.entries) : ∃ m ∈ (artifact config table.boxCycles t.1 t.2).data.members,
      StandsFor (Resolver.ofSchema schema) t.1.name field m := by
  obtain ⟨members, hmembers, hstands⟩ := exists_boxed h.resolved (Catalogue.mem_toList_iff.mp ht)
  rw [members_artifact _ _ hmembers]
  exact exists_of_mem_left hstands ((orderFields_perm _).mem_iff.mpr hfield)

theorem exists_setter (h : Emits schema config table artifacts) (ht : t ∈ schema.toList) {field : String × Field}
    (hfield : field ∈ t.2.fields.entries) {kind : SetterKind} {name : String}
    (hnamed : SetterNamed schema t.1.name field kind name) :
    ∃ s ∈ (artifact config table.boxCycles t.1 t.2).builder.setters,
      s.member = memberName field.1 ∧ s.kind = kind ∧ s.callable.name = name := by
  obtain ⟨m, hm, hof⟩ := h.exists_member ht hfield
  have hname : m.name = memberName field.1 := hof.name
  obtain ⟨s, hs, hkind, hsname⟩ := (setterNamed_iff h.resolved hof).mp hnamed
  exact ⟨s, h.mem_setters (h.mem_artifacts ht) hm hs, (member_of_mem_settersOf hs).trans hname, hkind, hsname⟩

theorem exists_accessor (hresource : t.1.kind = .resource) {source : String} (hsource : source ∈ t.2.attributes.keys) :
    ∃ acc ∈ (artifact config table t.1 t.2).data.accessors,
      acc.attributeName = source ∧ acc.name = memberName source := by
  have haccessors : (artifact config table t.1 t.2).data.accessors = accessors t.2 :=
    if_pos (congrArg TypeKind.isResource hresource)
  rw [haccessors, accessors]
  refine ⟨_, List.mem_map_of_mem hsource, ?_⟩
  dsimp only
  exact ⟨rfl, rfl⟩

/-- The artifact of a type that clashes would not have passed its checks. -/
theorem not_clash (h : Emits schema config table artifacts) (ht : t ∈ schema.toList) :
    ¬ Clash schema t first second member := by
  have ha := h.mem_artifacts ht
  have hfields := (fieldsSound_of_memberTable h.resolved).distinct t ht
  have hnames := h.namesDistinct ha
  intro hclash
  cases hclash with
  | members hfirst hsecond hne hname =>
    obtain ⟨f, hf, rfl⟩ := List.mem_map.mp hfirst
    obtain ⟨g, hg, rfl⟩ := List.mem_map.mp hsecond
    exact hne (congrArg Prod.fst (List.inj_on_of_nodup_map hfields hf hg hname))
  | identity hkind hfield hname =>
    obtain ⟨f, hf, rfl⟩ := List.mem_map.mp hfield
    obtain ⟨m, hm, hof⟩ := h.exists_member ht hf
    obtain ⟨hlogical, hdepends⟩ := hnames.identity (congrArg TypeKind.isResource hkind) m hm
    have hmember : m.name = memberName f.1 := hof.name
    rw [← hmember] at hname
    rcases List.mem_pair.mp hname with heq | heq
    · exact hlogical heq
    · exact hdepends heq
  | accessors hkind hfirst hsecond hne hname =>
    obtain ⟨acc, hacc, rfl, haccName⟩ := exists_accessor hkind hfirst
    obtain ⟨acc', hacc', rfl, haccName'⟩ := exists_accessor hkind hsecond
    refine hne (congrArg Accessor.attributeName (List.inj_on_of_nodup_map hnames.accessors hacc hacc' ?_))
    rw [haccName, haccName', hname]
  | @method source hkind hsource hname =>
    obtain ⟨acc, hacc, -, haccName⟩ := exists_accessor hkind hsource
    rw [← haccName] at hname
    exact (List.nodup_append.mp (h.nodup_methods ha).1).2.2 _ hname _ (List.mem_map_of_mem hacc) rfl
  | @setters f g kind kind' _ hf hg hne hnamed hnamed' =>
    obtain ⟨s, hs, hmember, rfl, hname⟩ := h.exists_setter ht hf hnamed
    obtain ⟨s', hs', hmember', rfl, hname'⟩ := h.exists_setter ht hg hnamed'
    -- Setters of one name are one, which has one kind and comes from one field.
    obtain rfl := List.inj_on_of_nodup_map hnames.setters hs hs' (hname.trans hname'.symm)
    obtain rfl := List.inj_on_of_nodup_map hfields hf hg (hmember.symm.trans hmember')
    exact hne rfl

end Emits

/-- Where fields resolve and types do not coincide, a schema is refused if and only if one of its types clashes, and
    such a clash is reported. Otherwise the names of struct fields, of methods and of builder methods are distinct in
    every artifact. -/
theorem refused_iff_clash {schema : Schema} {config : Config}
    (hresolves : ∀ t ∈ schema.toList, ∀ field ∈ t.2.fields.entries,
      ∃ type, (Resolver.ofSchema schema).resolve field.2 t.1.name = .ok type)
    (hplaces : ∀ t ∈ declared schema, ∀ u ∈ declared schema, ∀ path, ¬ Coincide config t u path) :
    ((∃ typeName first second member,
        Bundle.ofSchema schema config = .error (.memberCollision typeName first second member)) ↔
          ∃ t ∈ schema.toList, ∃ first second member, Clash schema t first second member) ∧
      (∀ typeName first second member,
        Bundle.ofSchema schema config = .error (.memberCollision typeName first second member) →
          ∃ t ∈ schema.toList, t.1.name = typeName ∧ Clash schema t first second member) ∧
      ∀ bundle, Bundle.ofSchema schema config = .ok bundle → ∀ a ∈ bundle.artifacts,
        a.fieldNames.Nodup ∧ a.methodNames.Nodup ∧ a.builderMethodNames.Nodup ∧
          ∀ s ∈ a.builder.setters, s.callable.name ≠ "new" ∧ s.callable.name ≠ "build" := by
  have hreported : ∀ typeName first second member,
      Bundle.ofSchema schema config = .error (.memberCollision typeName first second member) →
        ∃ t ∈ schema.toList, t.1.name = typeName ∧ Clash schema t first second member := by
    intro typeName first second member h
    obtain ⟨t, ht, first', second', member', he, hclash⟩ := clash_of_ofSchema hresolves hplaces h
    cases he
    exact ⟨t, ht, rfl, hclash⟩
  refine ⟨⟨?_, ?_⟩, hreported, ?_⟩
  · rintro ⟨typeName, first, second, member, h⟩
    obtain ⟨t, ht, -, hclash⟩ := hreported typeName first second member h
    exact ⟨t, ht, first, second, member, hclash⟩
  · rintro ⟨t, ht, first, second, member, hclash⟩
    cases h : Bundle.ofSchema schema config with
    | ok bundle =>
      obtain ⟨table, artifacts, hE, -⟩ := ofSchema_ok h
      exact absurd hclash (hE.not_clash ht)
    | error e =>
      obtain ⟨t', -, first', second', member', rfl, -⟩ := clash_of_ofSchema hresolves hplaces h
      exact ⟨t'.1.name, first', second', member', rfl⟩
  · intro bundle h a ha
    obtain ⟨table, artifacts, hE, rfl⟩ := ofSchema_ok h
    obtain ⟨hmethods, hbuilder⟩ := hE.nodup_methods ha
    refine ⟨(hE.namesDistinct ha).nodup_fields, hmethods, hbuilder, fun s hs => ?_⟩
    have hother := fun name hname => (List.nodup_append.mp hbuilder).2.2 name hname _ (List.mem_map_of_mem hs)
    have hgenerated := hE.generated ha
    rw [hgenerated.builderConstructor, hgenerated.build] at hother
    exact ⟨(hother _ List.mem_cons_self).symm, (hother _ (List.mem_cons_of_mem _ List.mem_cons_self)).symm⟩

/-- A field named as the setter is that takes the wrapped value of the other one. -/
def tank : Schema where
  properties := .ofList [("Pump.Tank", { fields := .ofList [
    ("Level", .ofPrimitive "Double"),
    ("LevelValue", .listOf "Tank")] })]
  resources := .empty

theorem refused_iff_clash_tank :
    (∀ t ∈ tank.toList, ∀ field ∈ t.2.fields.entries,
      ∃ type, (Resolver.ofSchema tank).resolve field.2 t.1.name = .ok type) ∧
    (∀ t ∈ declared tank, ∀ u ∈ declared tank, ∀ path, ¬ Coincide {} t u path) ∧
      Bundle.ofSchema tank {} = .error (.memberCollision "Pump.Tank" "Level" "LevelValue" "level_value") ∧
        ∃ t ∈ tank.toList, t.1.name = "Pump.Tank" ∧ Clash tank t "Level" "LevelValue" "level_value" := by
  have hsome : ∀ t ∈ tank.toList, ∀ field ∈ t.2.fields.entries,
      ((Resolver.ofSchema tank).resolve field.2 t.1.name).toOption.isSome = true := by decide +kernel
  have hresolves : ∀ t ∈ tank.toList, ∀ field ∈ t.2.fields.entries,
      ∃ type, (Resolver.ofSchema tank).resolve field.2 t.1.name = .ok type :=
    fun t ht field hfield => exists_eq_ok (hsome t ht field hfield)
  obtain ⟨_, hitems⟩ := exists_eq_ok (x := checkItems tank {}) (by decide +kernel)
  have hplaces : ∀ t ∈ declared tank, ∀ u ∈ declared tank, ∀ path, ¬ Coincide {} t u path :=
    fun t ht u hu path => not_coincide_of_checkItems hitems ht hu
  have hschema : Bundle.ofSchema tank {} =
      .error (.memberCollision "Pump.Tank" "Level" "LevelValue" "level_value") := by
    refine failureOf_eq_some_iff.mp ?_
    rw [Bundle.ofSchema, memberTable_eq_insertionSort]
    decide +kernel
  exact ⟨hresolves, hplaces, hschema, (refused_iff_clash hresolves hplaces).2.1 _ _ _ _ hschema⟩

end Emission

end Typewright
