import Typewright.Proofs.Coincidences
import Typewright.Proofs.Containment
import Typewright.Proofs.References

/-! # Added types

A schema that declares more types under new names says of the old types what was said before. As long as no field of
an old type comes to mean an added one, everything that is read for the artifact of an old type belongs to old types:
its members, the types that these contain, and the members that its setters take to make a value in place. Two
emissions then agree on the old types step by step, from the types of fields to whole artifacts. -/

namespace Typewright
open Relation

/-- A path of one relation is a path of another one that has its steps wherever the path can come. -/
theorem reflTransGen_of_agree {α : Type} {r s : α → α → Prop} {p : α → Prop} {a b : α}
    (hagree : ∀ a b, p a → r a b → s a b ∧ p b) (ha : p a) (h : ReflTransGen r a b) : ReflTransGen s a b := by
  induction h using ReflTransGen.head_induction_on with
  | refl => exact .refl
  | head hstep _ ih =>
    obtain ⟨hstep, hnext⟩ := hagree _ _ ha hstep
    exact .head hstep (ih hnext)

/-! ### More declared names -/

/-- A field whose type is declared among fewer names has that type among these already. -/
theorem Resolver.TypedAs.of_subset {names more : List String} {field : Field} {consumer : String} {type : FieldType}
    (hsub : ∀ n ∈ names, n ∈ more) (htype : ∀ n, type.mentioned? = some n → n ∈ names)
    (h : TypedAs more field consumer (.ok type)) : TypedAs names field consumer (.ok type) := by
  generalize hresult : Except.ok type = result at h
  cases h with
  | primitive hset => exact .primitive hset
  | primitiveMap hprimitive hset hkind => exact .primitiveMap hprimitive hset hkind
  | primitiveList hprimitive hset hkind => exact .primitiveList hprimitive hset hkind
  | @list requested found hprimitive hitem hset hmeaning =>
    cases found with
    | error => cases hresult
    | ok n =>
      cases hresult
      exact .list hprimitive hitem hset (hmeaning.of_subset hsub (htype n rfl))
  | @nested requested found hprimitive hitem hlist hset hmeaning =>
    cases found with
    | error => cases hresult
    | ok n =>
      cases hresult
      exact .nested hprimitive hitem hlist hset (hmeaning.of_subset hsub (htype n rfl))
  | shapeless => cases hresult

namespace Emission

/-- `more` declares the types of `schema` as they are, and others under names that `schema` has in neither section. -/
structure Extends (schema more : Schema) : Prop where
  kept : ∀ t ∈ schema.toList, t ∈ more.toList
  added : ∀ t ∈ more.toList, t ∈ schema.toList ∨ t.1.name ∉ schema.names

/-- Among the types of `more`, no field of a type of `schema` means one that was added. -/
def Undisturbed (schema more : Schema) : Prop :=
  ∀ t ∈ schema.toList, ∀ field ∈ t.2.fields.entries, ∀ type,
    (Resolver.ofSchema more).resolve field.2 t.1.name = .ok type →
      ∀ name ∈ more.names, name ∉ schema.names → type.mentioned? ≠ some name

namespace Extends
variable {schema more : Schema} {id : TypeId}

theorem find?_eq (h : Extends schema more) (hid : id.name ∈ schema.names) : more.find? id = schema.find? id := by
  ext spec
  constructor
  · intro hfind
    have hmem := h.added (id, spec) (Catalogue.mem_toList_iff.mpr hfind)
    exact Catalogue.mem_toList_iff.mp (hmem.resolve_right fun hnot => hnot hid)
  · intro hfind
    exact Catalogue.mem_toList_iff.mp (h.kept (id, spec) (Catalogue.mem_toList_iff.mpr hfind))

theorem mem_names (h : Extends schema more) {name : String} (hname : name ∈ schema.names) : name ∈ more.names := by
  obtain ⟨kind, spec, hfind⟩ := Catalogue.exists_find?_of_mem_names hname
  rw [← h.find?_eq hname] at hfind
  exact Catalogue.mem_names_of_isSome (Option.isSome_iff_exists.mpr ⟨spec, hfind⟩)

end Extends

/-- A type of a new name is an extension. -/
theorem extends_insert {schema : Schema} {id : TypeId} (spec : TypeSpec) (hid : id.name ∉ schema.names) :
    Extends schema (schema.insert id spec) := by
  have hne : ∀ t ∈ schema.toList, id ≠ t.1 := by
    rintro t ht rfl
    exact hid (Catalogue.mem_names_of_isSome (Option.isSome_iff_exists.mpr ⟨t.2, Catalogue.mem_toList_iff.mp ht⟩))
  constructor
  case kept =>
    intro t ht
    rw [Catalogue.mem_toList_iff, Catalogue.find?_insert, if_neg (hne t ht)]
    exact Catalogue.mem_toList_iff.mp ht
  case added =>
    intro t ht
    rw [Catalogue.mem_toList_iff, Catalogue.find?_insert] at ht
    split at ht
    · rename_i heq
      exact Or.inr (heq ▸ hid)
    · exact Or.inl (Catalogue.mem_toList_iff.mpr ht)

/-! ### Members -/

theorem foldlM_addMember_congr {resolver resolver' : Resolver} {typeName : String} {fields : List (String × Field)}
    (h : ∀ field ∈ fields, resolver.resolve field.2 typeName = resolver'.resolve field.2 typeName) :
    ∀ members, fields.foldlM (addMember resolver typeName) members =
      fields.foldlM (addMember resolver' typeName) members := by
  induction fields with
  | nil => exact fun _ => rfl
  | cons field fields ih =>
    intro members
    have hadd : addMember resolver typeName members field = addMember resolver' typeName members field := by
      rw [addMember, addMember, h field List.mem_cons_self]
    rw [List.foldlM_cons, List.foldlM_cons, hadd]
    exact congrArg _ (funext (ih fun field hfield => h field (List.mem_cons_of_mem _ hfield)))

/-- Members read a resolver only for the types of their fields. -/
theorem membersOf_congr {resolver resolver' : Resolver} {typeName : String} {spec : TypeSpec}
    (h : ∀ field ∈ spec.fields.entries, resolver.resolve field.2 typeName = resolver'.resolve field.2 typeName) :
    membersOf resolver typeName spec = membersOf resolver' typeName spec :=
  foldlM_addMember_congr (fun field hfield => h field ((orderFields_perm _).mem_iff.mp hfield)) []

/-! ### Names in an emission -/

section Names
variable {schema : Schema} {config : Config} {table : MemberTable} {artifacts : Catalogue Artifact} {id p q : TypeId}
  {members : List Member} {m : Member} {name : String}

theorem name_of_denoted (h : table.denoted? name = some q) : q.name = name := by
  obtain ⟨kind, -, rfl⟩ := Option.map_eq_some_iff.mp h
  rfl

namespace Emits

/-- The members of a declared type hold declared types. -/
theorem mem_names_of_named (h : Emits schema config table artifacts) (hmembers : table.find? id = some members)
    (hm : m ∈ members) (hname : m.type.named? = some name) : name ∈ schema.names := by
  obtain ⟨spec, -, hspec⟩ := h.find?_table_iff.mp hmembers
  obtain ⟨field, -, hfield⟩ := exists_of_mem_right (membersOf_ok hspec) hm
  have htype := hfield.type
  rw [eq_named_of_named? hname] at htype
  exact (Resolver.resolved htype).mem_of_mentioned rfl

theorem mem_section_iff (h : Emits schema config table artifacts) (kind : TypeKind) {a : Artifact} :
    a ∈ (artifacts.sectionOf kind).values ↔ artifacts.find? ⟨kind, a.typeName⟩ = some a := by
  rw [SortedMap.mem_values_iff]
  constructor
  · rintro ⟨name, hname⟩
    have hid : a.id = ⟨kind, name⟩ := h.id_eq hname
    have htypeName : a.typeName = name := congrArg TypeId.name hid
    rw [htypeName]
    exact hname
  · exact fun ha => ⟨a.typeName, ha⟩

theorem mem_names_of_holds (h : Emits schema config table artifacts) (hholds : table.Holds p q) :
    q.name ∈ schema.names := by
  obtain ⟨members, hmembers, m, hm, hheld⟩ := hholds
  obtain ⟨name, hname, hdenoted⟩ := Option.bind_eq_some_iff.mp hheld
  rw [name_of_denoted hdenoted]
  exact h.mem_names_of_named hmembers hm hname

end Emits

end Names

/-! ### Two emissions -/

/-- The emissions of a schema and of an extension that does not disturb it. -/
structure Growth (schema more : Schema) (config : Config) (table table' : MemberTable)
    (artifacts artifacts' : Catalogue Artifact) : Prop where
  before : Emits schema config table artifacts
  after : Emits more config table' artifacts'
  extension : Extends schema more
  undisturbed : Undisturbed schema more

namespace Growth
variable {schema more : Schema} {config : Config} {table table' : MemberTable}
  {artifacts artifacts' : Catalogue Artifact} {id p q : TypeId} {spec : TypeSpec} {members : List Member} {m : Member} {name : String}

theorem membersOf_eq (h : Growth schema more config table table' artifacts artifacts')
    (hspec : schema.find? id = some spec) :
    membersOf (Resolver.ofSchema more) id.name spec = membersOf (Resolver.ofSchema schema) id.name spec := by
  refine membersOf_congr fun field hfield => ?_
  have ht : (id, spec) ∈ schema.toList := Catalogue.mem_toList_iff.mpr hspec
  obtain ⟨type, htype⟩ := (fieldsSound_of_memberTable h.after.resolved).resolves _ (h.extension.kept _ ht) field hfield
  have hmentioned : ∀ n, type.mentioned? = some n → n ∈ schema.names := by
    intro n hn
    by_contra hnot
    exact h.undisturbed _ ht field hfield type htype n ((Resolver.resolved htype).mem_of_mentioned hn) hnot hn
  have htyped := (Resolver.resolve_iff_typedAs.mp htype).of_subset (fun _ => h.extension.mem_names) hmentioned
  exact htype.trans (Resolver.resolve_of_typedAs htyped).symm

/-- Types of old names have the members that they had. -/
theorem find?_table (h : Growth schema more config table table' artifacts artifacts') (hid : id.name ∈ schema.names) :
    table'.find? id = table.find? id := by
  ext members
  rw [h.before.find?_table_iff, h.after.find?_table_iff, h.extension.find?_eq hid]
  refine exists_congr fun spec => and_congr_right fun hspec => ?_
  rw [h.membersOf_eq hspec]

theorem denoted?_eq (h : Growth schema more config table table' artifacts artifacts') (hname : name ∈ schema.names) :
    table'.denoted? name = table.denoted? name := by
  have hkinds : ∀ table : MemberTable, table.kindOf? name =
      if (table.find? ⟨.property, name⟩).isSome then some .property
      else if (table.find? ⟨.resource, name⟩).isSome then some .resource else none := fun _ => rfl
  have hfind : ∀ kind, table'.find? ⟨kind, name⟩ = table.find? ⟨kind, name⟩ := fun kind => h.find?_table hname
  rw [MemberTable.denoted?, MemberTable.denoted?, hkinds, hkinds, hfind, hfind]

/-- What a member of an old type holds is the old type that it was. -/
theorem held_eq (h : Growth schema more config table table' artifacts artifacts')
    (hmembers : table.find? id = some members) (hm : m ∈ members) :
    m.type.named?.bind table'.denoted? = m.type.named?.bind table.denoted? := by
  cases hnamed : m.type.named? with
  | none => rfl
  | some name => exact h.denoted?_eq (h.before.mem_names_of_named hmembers hm hnamed)

theorem holds_iff (h : Growth schema more config table table' artifacts artifacts') (hp : p.name ∈ schema.names) :
    table'.Holds p q ↔ table.Holds p q := by
  rw [MemberTable.Holds, MemberTable.Holds, h.find?_table hp]
  refine exists_congr fun members => and_congr_right fun hmembers => exists_congr fun m => and_congr_right fun hm => ?_
  rw [h.held_eq hmembers hm]

theorem closesCycle_eq (h : Growth schema more config table table' artifacts artifacts')
    (hmembers : table.find? id = some members) (hm : m ∈ members) :
    table'.closesCycle table'.containment id m = table.closesCycle table.containment id m := by
  rw [Bool.eq_iff_iff, MemberTable.closesCycle_iff, MemberTable.closesCycle_iff, h.held_eq hmembers hm]
  refine exists_congr fun target => and_congr_right fun hheld => ?_
  obtain ⟨name, hname, hdenoted⟩ := Option.bind_eq_some_iff.mp hheld
  have htarget : target.name ∈ schema.names :=
    name_of_denoted hdenoted ▸ h.before.mem_names_of_named hmembers hm hname
  -- A path from an old type leads over old types only, and of these both tables say the same.
  constructor
  · refine reflTransGen_of_agree (p := fun p => p.name ∈ schema.names) (fun p q hp hstep => ?_) htarget
    have hholds := (h.holds_iff hp).mp hstep
    exact ⟨hholds, h.before.mem_names_of_holds hholds⟩
  · refine reflTransGen_of_agree (p := fun p => p.name ∈ schema.names) (fun p q hp hstep => ?_) htarget
    exact ⟨(h.holds_iff hp).mpr hstep, h.before.mem_names_of_holds hstep⟩

theorem find?_boxCycles (h : Growth schema more config table table' artifacts artifacts')
    (hid : id.name ∈ schema.names) : table'.boxCycles.find? id = table.boxCycles.find? id := by
  rw [Emission.find?_boxCycles, Emission.find?_boxCycles, h.find?_table hid]
  refine Option.map_congr fun members hmembers => List.map_congr_left fun m hm => ?_
  rw [h.closesCycle_eq hmembers hm]

/-- The setters of an old type make old types in place. -/
theorem setters_eq (h : Growth schema more config table table' artifacts artifacts')
    (hmembers : table.boxCycles.find? id = some members) :
    setters table'.boxCycles members = setters table.boxCycles members := by
  refine List.flatMap_congr fun m hm => ?_
  rw [settersOf, settersOf]
  cases hnamed : m.type.named? with
  | none => rfl
  | some target =>
    rw [Emission.find?_boxCycles, Option.map_eq_some_iff] at hmembers
    obtain ⟨unboxed, hunboxed, rfl⟩ := hmembers
    obtain ⟨m₀, hm₀, rfl⟩ := List.mem_map.mp hm
    have htarget : (⟨.property, target⟩ : TypeId).name ∈ schema.names := h.before.mem_names_of_named hunboxed hm₀ hnamed
    have hproperties : table'.boxCycles.properties.find? target = table.boxCycles.properties.find? target :=
      h.find?_boxCycles htarget
    simp only [hproperties]

theorem artifact_eq (h : Growth schema more config table table' artifacts artifacts')
    (hspec : schema.find? id = some spec) :
    artifact config table'.boxCycles id spec = artifact config table.boxCycles id spec := by
  have hid : id.name ∈ schema.names := Catalogue.mem_names_of_isSome (Option.isSome_iff_exists.mpr ⟨spec, hspec⟩)
  have hmembers := h.find?_boxCycles hid
  have hsetters : setters table'.boxCycles ((table.boxCycles.find? id).getD []) =
      setters table.boxCycles ((table.boxCycles.find? id).getD []) := by
    cases hfind : table.boxCycles.find? id with
    | none => rw [Option.getD_none, setters, setters, List.flatMap_nil, List.flatMap_nil]
    | some members => exact h.setters_eq hfind
  simp only [artifact, hmembers, hsetters]

theorem find?_artifacts (h : Growth schema more config table table' artifacts artifacts')
    (hid : id.name ∈ schema.names) : artifacts'.find? id = artifacts.find? id := by
  ext a
  rw [h.before.find?_artifacts_iff, h.after.find?_artifacts_iff, h.extension.find?_eq hid]
  refine exists_congr fun spec => and_congr_right fun hspec => ?_
  rw [h.artifact_eq hspec]

/-- The artifacts of one section before are those after that have an old name. -/
theorem mem_section_iff (h : Growth schema more config table table' artifacts artifacts') (kind : TypeKind)
    (a : Artifact) : a ∈ (artifacts.sectionOf kind).values ↔
      a ∈ (artifacts'.sectionOf kind).values ∧ a.typeName ∈ schema.names := by
  rw [h.before.mem_section_iff, h.after.mem_section_iff]
  constructor
  · intro ha
    obtain ⟨spec, hspec, -⟩ := h.before.find?_artifacts_iff.mp ha
    have hsome : (schema.find? ⟨kind, a.typeName⟩).isSome = true := Option.isSome_iff_exists.mpr ⟨spec, hspec⟩
    have hname : a.typeName ∈ schema.names := Catalogue.mem_names_of_isSome hsome
    exact ⟨(h.find?_artifacts hname).trans ha, hname⟩
  · rintro ⟨ha, hname⟩
    exact (h.find?_artifacts hname).symm.trans ha

end Growth

/-- Types that are added under new names leave the artifacts of the old types as they were, unless a field of an old
    type comes to mean an added one. The other artifacts are those of added types. -/
theorem artifacts_of_extends {schema more : Schema} {config : Config} {bundle bundle' : Bundle}
    (hextends : Extends schema more) (hsame : Undisturbed schema more) (h : Bundle.ofSchema schema config = .ok bundle)
    (h' : Bundle.ofSchema more config = .ok bundle') :
    (∀ a, a ∈ bundle.properties ↔ a ∈ bundle'.properties ∧ a.typeName ∈ schema.names) ∧
      ∀ a, a ∈ bundle.resources ↔ a ∈ bundle'.resources ∧ a.typeName ∈ schema.names := by
  obtain ⟨table, artifacts, hE, rfl⟩ := ofSchema_ok h
  obtain ⟨table', artifacts', hE', rfl⟩ := ofSchema_ok h'
  have hgrowth : Growth schema more config table table' artifacts artifacts' := ⟨hE, hE', hextends, hsame⟩
  exact ⟨hgrowth.mem_section_iff .property, hgrowth.mem_section_iff .resource⟩

/-- Beds that lie in one another. -/
def garden : Schema where
  properties := .ofList [("Garden.Bed", { fields := .ofList [("Inner", .nested "Bed")] })]
  resources := .ofList [("Garden", { fields := .ofList [("Widest", .nested "Bed")] })]

/-- The garden with beds of another owner, which hold the old ones. -/
def gardens : Schema :=
  garden.insert ⟨.property, "Nursery.Bed"⟩ { fields := .ofList [("Source", .nested "Garden.Bed")] }

/-- `Bed` alone means the bed of the same owner still, and the old bed is boxed in itself as before. -/
theorem artifacts_of_extends_gardens : Extends garden gardens ∧ Undisturbed garden gardens ∧
    ∃ bundle bundle', Bundle.ofSchema garden {} = .ok bundle ∧ Bundle.ofSchema gardens {} = .ok bundle' ∧
      bundle.artifacts.map (fun a => (a.typeName, a.data.members.map (·.boxed))) =
        [("Garden.Bed", [true]), ("Garden", [false])] ∧
      bundle'.artifacts.map (·.typeName) = ["Garden.Bed", "Nursery.Bed", "Garden"] ∧
        (∀ a ∈ bundle.properties, a ∈ bundle'.properties) ∧ ∀ a ∈ bundle.resources, a ∈ bundle'.resources := by
  have hextends : Extends garden gardens := extends_insert _ (by decide +kernel)
  have htypes : ∀ t ∈ garden.toList, ∀ field ∈ t.2.fields.entries,
      ((Resolver.ofSchema gardens).resolve field.2 t.1.name).toOption.bind FieldType.mentioned? =
        some "Garden.Bed" := by decide +kernel
  have hsame : Undisturbed garden gardens := by
    intro t ht field hfield type htype name _ hnot hname
    have hbed := htypes t ht field hfield
    rw [htype] at hbed
    obtain rfl := Option.some.inj (hname.symm.trans hbed)
    exact hnot (by decide +kernel)
  have hboxed : (Bundle.ofSchema garden {}).toOption.map (fun bundle =>
      bundle.artifacts.map fun a => (a.typeName, a.data.members.map (·.boxed))) =
        some [("Garden.Bed", [true]), ("Garden", [false])] := by decide +kernel
  have hnames : (Bundle.ofSchema gardens {}).toOption.map (fun bundle => bundle.artifacts.map (·.typeName)) =
      some ["Garden.Bed", "Nursery.Bed", "Garden"] := by decide +kernel
  obtain ⟨bundle, h, hboxed⟩ := Option.map_eq_some_iff.mp hboxed
  obtain ⟨bundle', h', hnames⟩ := Option.map_eq_some_iff.mp hnames
  obtain ⟨hproperties, hresources⟩ := artifacts_of_extends hextends hsame (eq_ok_of_toOption h) (eq_ok_of_toOption h')
  exact ⟨hextends, hsame, bundle, bundle', eq_ok_of_toOption h, eq_ok_of_toOption h', hboxed, hnames,
    fun a ha => ((hproperties a).mp ha).1, fun a ha => ((hresources a).mp ha).1⟩

end Emission

end Typewright
