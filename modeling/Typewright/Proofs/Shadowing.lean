import Typewright.Proofs.Clashes

/-! # What a name stands for, wherever it is looked up

A name is looked up in five places: in the schema, among the artifacts, among what code is written for, in the table of
members and, for a member that can be made in place, in one section of that table. All of them find the same kind of
type under it (`FoundAs`), although each goes its own way. A property type is found wherever there is one; a resource
type of its name is hidden everywhere. -/

namespace Typewright

/-- Values that are entered under names one after the other: the last one under a name stays. -/
theorem SortedMap.find?_ofList {α : Type} (xs : List (String × α)) (k : String) :
    (ofList xs).find? k = (xs.reverse.find? (·.1 == k)).map (·.2) := by
  induction xs using List.reverseRecOn with
  | nil => rfl
  | append_singleton xs x ih =>
    rw [ofList, List.foldl_append, List.foldl_cons, List.foldl_nil, find?_insert, List.reverse_append,
      List.reverse_singleton, List.singleton_append, List.find?_cons]
    by_cases hk : x.1 = k
    · simp [hk]
    · rw [if_neg hk, beq_false_of_ne hk]
      exact ih

/-- All artifacts of a bundle under their names. Resource types are entered first and give way to property types. -/
def Bundle.index (b : Bundle) : SortedMap Artifact :=
  .ofList ((b.resources ++ b.properties).map fun a => (a.typeName, a))

/-- Code is written for what the index holds under a name. -/
theorem Source.denoted?_eq_find?_index (b : Bundle) (name : String) : Source.denoted? b name = b.index.find? name := by
  rw [Bundle.index, SortedMap.find?_ofList, ← List.map_reverse, List.find?_map, Option.map_map, List.reverse_append,
    Source.denoted?]
  exact (congrFun Option.map_id _).symm

namespace Catalogue
variable {α β : Type} {c : Catalogue α} {d : Catalogue β} {name : String}

theorem map_fst_lookup? (c : Catalogue α) (name : String) : (c.lookup? name).map (·.1) = c.kindOf? name := by
  rw [lookup?, kindOf?, SortedMap.contains, SortedMap.contains]
  cases c.properties.find? name with
  | some a => rfl
  | none => cases c.resources.find? name <;> rfl

/-- Of which kind a name is depends on no more than which types are declared. -/
theorem kindOf?_congr (h : ∀ kind, (c.find? ⟨kind, name⟩).isSome = (d.find? ⟨kind, name⟩).isSome) :
    c.kindOf? name = d.kindOf? name := by
  have hproperties : c.properties.contains name = d.properties.contains name := h .property
  have hresources : c.resources.contains name = d.resources.contains name := h .resource
  rw [kindOf?, kindOf?, hproperties, hresources]

theorem kindOf?_eq_property_iff : c.kindOf? name = some .property ↔ c.properties.contains name = true := by
  rw [kindOf?]
  by_cases hproperty : c.properties.contains name = true
  · simp [hproperty]
  · by_cases hresource : c.resources.contains name = true <;> simp [hproperty, hresource]

end Catalogue

namespace Emission

/-- Wherever `name` is looked up, a type of the kind `kind?` is found, or none at all. -/
structure FoundAs (schema : Schema) (table : MemberTable) (bundle : Bundle) (name : String)
    (kind? : Option TypeKind) : Prop where
  /-- In the schema, with its description. -/
  inSchema : (schema.lookup? name).map (·.1) = kind?
  /-- As the first artifact that has the name. -/
  inBundle : (bundle.find? name).map (·.kind) = kind?
  /-- As the artifact that was entered last under the name. -/
  inIndex : (bundle.index.find? name).map (·.kind) = kind?
  written : (Source.denoted? bundle name).map (·.kind) = kind?
  /-- In one section of the table of members after the other, before members are boxed and afterwards. -/
  inTable : table.kindOf? name = kind?
  inBoxed : table.boxCycles.kindOf? name = kind?

namespace Emits
variable {schema : Schema} {config : Config} {table : MemberTable} {artifacts : Catalogue Artifact} {a : Artifact}

theorem kindOf?_table (h : Emits schema config table artifacts) (name : String) :
    table.kindOf? name = Catalogue.kindOf? schema name :=
  Catalogue.kindOf?_congr fun kind => by rw [← h.isSome_find?, h.isSome_find?_schema]

theorem kindOf?_boxCycles (table : MemberTable) (name : String) : table.boxCycles.kindOf? name = table.kindOf? name :=
  Catalogue.kindOf?_congr fun kind => by rw [find?_boxCycles, Option.isSome_map]

theorem map_kind_find? (h : Emits schema config table artifacts) (name : String) :
    ((Bundle.ofCatalogue artifacts).find? name).map (·.kind) = table.kindOf? name := by
  have hkinds := congrArg (Option.map TypeId.kind) (h.denoted?_bundle name)
  rw [Bundle.denoted?, MemberTable.denoted?, Option.map_map, Option.map_map] at hkinds
  exact hkinds.trans (congrFun Option.map_id _)

theorem foundAs (h : Emits schema config table artifacts) (name : String) :
    FoundAs schema table (.ofCatalogue artifacts) name (Catalogue.kindOf? schema name) := by
  have hbundle := (h.map_kind_find? name).trans (h.kindOf?_table name)
  have hsource : Source.denoted? (.ofCatalogue artifacts) name = (Bundle.ofCatalogue artifacts).find? name :=
    congrFun h.denoted?_source name
  constructor
  case inSchema => exact Catalogue.map_fst_lookup? schema name
  case inBundle => exact hbundle
  case inIndex => rw [← Source.denoted?_eq_find?_index, hsource, hbundle]
  case written => rw [hsource, hbundle]
  case inTable => exact h.kindOf?_table name
  case inBoxed => rw [kindOf?_boxCycles, h.kindOf?_table]

/-- A setter that makes its value in place belongs to a member that holds a property type directly. -/
theorem exists_of_nested (h : Emits schema config table artifacts) (ha : a ∈ (Bundle.ofCatalogue artifacts).artifacts)
    {s : Setter} (hs : s ∈ a.builder.setters) (hkind : s.kind = .nested) :
    ∃ m ∈ a.data.members, ∃ target members, m.type = .named target ∧
      table.boxCycles.properties.find? target = some members ∧ s = nestedSetter m target members := by
  obtain ⟨m, hm, hsm⟩ := h.exists_member_of_setter ha hs
  refine ⟨m, hm, ?_⟩
  rcases mem_settersOf hsm with ⟨-, rfl⟩ | ⟨name, rfl⟩ | ⟨target, members, htarget, hmembers, rfl, -⟩
  · cases hkind
  · cases hkind
  · exact ⟨target, members, eq_named_of_named? htarget, hmembers, rfl⟩

/-- Of the members that hold a type directly, those that hold a property type can be made in place. -/
theorem exists_nested_iff (h : Emits schema config table artifacts)
    (ha : a ∈ (Bundle.ofCatalogue artifacts).artifacts) {m : Member} (hm : m ∈ a.data.members) {name : String}
    (htype : m.type = .named name) :
    (∃ s ∈ a.builder.setters, s.member = m.name ∧ s.kind = .nested) ↔
      table.boxCycles.kindOf? name = some .property := by
  rw [Catalogue.kindOf?_eq_property_iff, SortedMap.contains, Option.isSome_iff_exists]
  constructor
  · rintro ⟨s, hs, hmember, hkind⟩
    obtain ⟨m', hm', target, members, htype', hmembers, rfl⟩ := h.exists_of_nested ha hs hkind
    -- The names of members differ, so the setter belongs to `m`.
    obtain rfl : m' = m := List.inj_on_of_nodup_map (h.namesDistinct ha).members hm' hm hmember
    obtain rfl : name = target := FieldType.named.inj (htype.symm.trans htype')
    exact ⟨members, hmembers⟩
  · rintro ⟨members, hmembers⟩
    refine ⟨nestedSetter m name members, h.mem_setters ha hm (mem_settersOf_iff.mpr (Or.inr ⟨?_, Or.inr ?_⟩)), rfl, rfl⟩
    · rw [htype]
      rfl
    · exact ⟨name, members, by rw [htype]; rfl, hmembers, rfl⟩

end Emits

/-- All lookups of a name find the same kind of type, a property type if one is declared. A member that holds a type
    directly has a setter that makes the value in place if and only if that kind is `property`. -/
theorem names_found_alike {schema : Schema} {config : Config} {bundle : Bundle}
    (h : Bundle.ofSchema schema config = .ok bundle) : ∃ table, memberTable schema = .ok table ∧
      ∀ name, ∃ kind?, FoundAs schema table bundle name kind? ∧
        (kind? = some .property ↔ schema.properties.contains name = true) ∧
          ∀ a ∈ bundle.artifacts, ∀ m ∈ a.data.members, m.type = .named name →
            ((∃ s ∈ a.builder.setters, s.member = m.name ∧ s.kind = .nested) ↔ kind? = some .property) ∧
              ∀ s ∈ a.builder.setters, s.member = m.name → s.kind = .nested → s.callable.name = m.name ++ "_with" := by
  obtain ⟨table, artifacts, hE, rfl⟩ := ofSchema_ok h
  refine ⟨table, hE.resolved, fun name => ⟨Catalogue.kindOf? schema name, hE.foundAs name,
    Catalogue.kindOf?_eq_property_iff, fun a ha m hm htype => ⟨?_, fun s hs hmember hkind => ?_⟩⟩⟩
  · rw [hE.exists_nested_iff ha hm htype, (hE.foundAs name).inBoxed]
  · obtain ⟨m', -, target, members, -, -, rfl⟩ := hE.exists_of_nested ha hs hkind
    exact congrArg (· ++ "_with") hmember

/-- Of two types of one name all lookups find the property type, so the member of the resource type that holds it can be
    made in place. -/
theorem names_found_alike_twins : ∃ bundle a table, Bundle.ofSchema twins {} = .ok bundle ∧
    a ∈ bundle.artifacts ∧ a.id = ⟨.resource, "Node"⟩ ∧ memberTable twins = .ok table ∧
      FoundAs twins table bundle "Node" (some .property) ∧
        ∃ s ∈ a.builder.setters, s.member = "inner" ∧ s.kind = .nested ∧ s.callable.name = "inner_with" := by
  have hshape : ((Bundle.ofSchema twins {}).toOption.bind (·.resources.head?)).map
      (fun a => (a.id, (a.data.member? "inner").map fun m => (m.name, m.type))) =
      some (⟨.resource, "Node"⟩, some ("inner", .named "Node")) := by decide +kernel
  obtain ⟨a, ha, hshape⟩ := Option.map_eq_some_iff.mp hshape
  obtain ⟨bundle, hok, ha⟩ := Option.bind_eq_some_iff.mp ha
  obtain ⟨hid, hmember⟩ := Prod.mk.inj hshape
  obtain ⟨m, hm, hmember⟩ := Option.map_eq_some_iff.mp hmember
  obtain ⟨hname, htype⟩ := Prod.mk.inj hmember
  have hmem : a ∈ bundle.artifacts := List.mem_append_right _ (List.mem_of_head? ha)
  have h := eq_ok_of_toOption hok
  obtain ⟨table, htable, hfound⟩ := names_found_alike h
  obtain ⟨kind?, hkinds, hdeclared, hnested⟩ := hfound "Node"
  obtain rfl : kind? = some .property := hdeclared.mpr (by decide +kernel)
  obtain ⟨hiff, hcalled⟩ := hnested a hmem m (List.mem_of_find?_eq_some hm) htype
  obtain ⟨s, hs, hwrites, hkind⟩ := hiff.mpr rfl
  refine ⟨bundle, a, table, h, hmem, hid, htable, hkinds, s, hs, hwrites.trans hname, hkind, ?_⟩
  rw [hcalled s hs hwrites hkind, hname]
  rfl

end Emission

end Typewright
