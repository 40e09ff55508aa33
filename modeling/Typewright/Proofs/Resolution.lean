import Typewright.Proofs.ByteOrder
import Typewright.Proofs.Tables
import Typewright.Resolver

/-! # What a field and a name mean

`TypedAs` and `Meaning` say by rules which type a field has and which declared type a name stands for. They speak of the
declared names only, not of an index, and the resolver over these names answers exactly by them. More declared types
leave the meaning of a name as it is, give it to one of the types that were added, or make it ambiguous. -/

namespace Typewright

theorem Text.isSome_afterColons_iff {cs : List Char} : (afterColons cs).isSome = true ↔ [':', ':'] <:+: cs := by
  fun_induction afterColons cs with
  | case1 => simp
  | case2 c rest tail htail ih =>
    rw [htail] at ih
    simp [List.infix_cons_iff, ← ih]
  | case3 tail hnone ih => simp [List.infix_cons_iff]
  | case4 c tail hc hnone ih =>
    rw [hnone] at ih
    simp [List.infix_cons_iff (a := c), ← ih, Ne.symm hc]
  | case5 c rest hnone hrest ih =>
    have hnot : ¬ [':', ':'] <+: c :: rest := by
      rintro ⟨behind, heq⟩
      exact hrest behind (List.cons.inj heq).2.symm
    rw [hnone] at ih
    simp [List.infix_cons_iff, ← ih, hnot]

/-! ### Rules for names -/

namespace Resolver

/-- A name with a separator. -/
def Qualified (name : String) : Prop := '.' ∈ name.toList ∨ [':', ':'] <:+: name.toList

/-- `n` is a declared name that ends in `short`. -/
def EndsIn (names : List String) (short n : String) : Prop := n ∈ names ∧ TypeName.short n = short

/-- `n` is such a name and has the owner of `consumer`. -/
def EndsNear (names : List String) (short consumer n : String) : Prop :=
  EndsIn names short n ∧ TypeName.owner n = TypeName.owner consumer

/-- `n` is the only one with a property. -/
def Only (p : String → Prop) (n : String) : Prop := p n ∧ ∀ m, p m → m = n

/-- The names with a property, each once, in ascending order of their bytes. -/
def Lists (p : String → Prop) (listed : List String) : Prop :=
  (∀ n, n ∈ listed ↔ p n) ∧ listed.Pairwise fun a b => Text.utf8 a < Text.utf8 b

/-- What a name means in a field of `consumer`. -/
inductive Meaning (names : List String) (requested consumer : String) : Except ResolveError String → Prop where
  | declared : requested ∈ names → Meaning names requested consumer (.ok requested)
  | qualified : requested ∉ names → Qualified requested →
      Meaning names requested consumer (.error (.unresolved requested))
  | unknown : requested ∉ names → (∀ n, ¬ EndsIn names requested n) →
      Meaning names requested consumer (.error (.unresolved requested))
  | only {n : String} : requested ∉ names → ¬ Qualified requested → Only (EndsIn names requested) n →
      Meaning names requested consumer (.ok n)
  | near {n : String} : requested ∉ names → ¬ Qualified requested → (∀ m, ¬ Only (EndsIn names requested) m) →
      Only (EndsNear names requested consumer) n → Meaning names requested consumer (.ok n)
  | ambiguous {n : String} {listed : List String} : requested ∉ names → ¬ Qualified requested →
      EndsIn names requested n → (∀ m, ¬ Only (EndsIn names requested) m) →
      (∀ m, ¬ Only (EndsNear names requested consumer) m) → Lists (EndsIn names requested) listed →
      Meaning names requested consumer (.error (.ambiguous requested listed))

/-! ### The index of short names -/

section Index
variable {names : List String} {short consumer n : String}

theorem isKnown_ofNames : (ofNames names).isKnown n = true ↔ n ∈ names := by
  rw [isKnown, ofNames, SortedMap.contains_ofList, List.map_map]
  simp

theorem isQualified_iff : TypeName.isQualified n = true ↔ Qualified n := by
  rw [TypeName.isQualified, Bool.or_eq_true, List.contains_iff_mem, Text.isSome_afterColons_iff, Qualified]

/-- What the index holds under a short name. -/
def candidates (names : List String) (short : String) : List String :=
  (ofNames names).known.keys.filter (TypeName.short · == short)

theorem find?_foldl_addShort (short : String) (added : List String) : ∀ index : SortedMap (List String),
    ((added.foldl addShort index).find? short).getD [] =
      (index.find? short).getD [] ++ added.filter (TypeName.short · == short) := by
  induction added with
  | nil => simp
  | cons name added ih =>
    intro index
    rw [List.foldl_cons, ih, addShort, SortedMap.find?_insert]
    by_cases hshort : TypeName.short name = short
    · simp [hshort]
    · simp [hshort]

theorem find?_byShort (names : List String) (short : String) :
    ((ofNames names).byShort.find? short).getD [] = candidates names short :=
  find?_foldl_addShort short _ .empty

theorem mem_candidates : n ∈ candidates names short ↔ EndsIn names short n := by
  have hkeys : n ∈ (ofNames names).known.keys ↔ n ∈ names := by
    rw [SortedMap.mem_keys_iff, ← isKnown_ofNames, isKnown, SortedMap.contains, Option.isSome_iff_exists]
  rw [candidates, List.mem_filter, hkeys, beq_iff_eq, EndsIn]

theorem candidates_ascending : (candidates names short).Pairwise (· < ·) := by
  have hkeys : (ofNames names).known.keys.Pairwise (· < ·) := SortedMap.ascending_iff.mp (ofNames names).known.ascending
  exact hkeys.filter _

theorem lists_candidates : Lists (EndsIn names short) (candidates names short) :=
  ⟨fun _ => mem_candidates, candidates_ascending.imp Text.lt_iff_utf8_lt.mp⟩

theorem mem_affine : n ∈ affine consumer (candidates names short) ↔ EndsNear names short consumer n := by
  rw [affine, List.mem_filter, mem_candidates, beq_iff_eq, EndsNear]

theorem affine_ascending : (affine consumer (candidates names short)).Pairwise (· < ·) := candidates_ascending.filter _

end Index

theorem eq_of_mem_iff {xs ys : List String} (hxs : xs.Pairwise (· < ·)) (hys : ys.Pairwise (· < ·))
    (h : ∀ n, n ∈ xs ↔ n ∈ ys) : xs = ys := by
  have hperm : xs.Perm ys :=
    (List.perm_ext_iff_of_nodup (hxs.imp SortedMap.ne_of_lt) (hys.imp SortedMap.ne_of_lt)).mpr h
  exact hperm.eq_of_pairwise (fun a b _ _ hab hba => absurd hba (String.lt_asymm hab)) hxs hys

theorem eq_singleton_iff {p : String → Prop} {xs : List String} (hxs : xs.Pairwise (· < ·)) (h : ∀ n, n ∈ xs ↔ p n)
    {n : String} : xs = [n] ↔ Only p n := by
  constructor
  · rintro rfl
    exact ⟨(h n).mp List.mem_cons_self, fun m hm => List.mem_singleton.mp ((h m).mpr hm)⟩
  · rintro ⟨hn, honly⟩
    refine eq_of_mem_iff hxs (List.pairwise_singleton _ n) fun m => ?_
    rw [h, List.mem_singleton]
    exact ⟨honly m, fun hm => hm ▸ hn⟩

theorem Lists.eq_candidates {names : List String} {short : String} {listed : List String}
    (h : Lists (EndsIn names short) listed) : listed = candidates names short :=
  eq_of_mem_iff (h.2.imp Text.lt_iff_utf8_lt.mpr) candidates_ascending fun n => (h.1 n).trans mem_candidates.symm

/-! ### Looking a name up -/

section Lookup
variable {names : List String} {requested consumer : String} {result : Except ResolveError String}

theorem lookup_qualified (hnew : requested ∉ names) (hqualified : Qualified requested) :
    (ofNames names).lookup requested consumer = .error (.unresolved requested) := by
  rw [lookup, if_neg (isKnown_ofNames.not.mpr hnew), if_pos (isQualified_iff.mpr hqualified)]

theorem lookup_short (hnew : requested ∉ names) (hshort : ¬ Qualified requested) :
    (ofNames names).lookup requested consumer =
      match candidates names requested with
      | [] => .error (.unresolved requested)
      | [n] => .ok n
      | listed =>
        match affine consumer listed with
        | [n] => .ok n
        | _ => .error (.ambiguous requested listed) := by
  rw [← find?_byShort]
  exact (if_neg (isKnown_ofNames.not.mpr hnew)).trans (if_neg (isQualified_iff.not.mpr hshort))

theorem lookup_of_many (hnew : requested ∉ names) (hshort : ¬ Qualified requested) {n : String}
    (hn : EndsIn names requested n) (hmany : ∀ m, ¬ Only (EndsIn names requested) m) :
    (ofNames names).lookup requested consumer =
      match affine consumer (candidates names requested) with
      | [n] => .ok n
      | _ => .error (.ambiguous requested (candidates names requested)) := by
  rw [lookup_short hnew hshort]
  split
  · rename_i hnil
    rw [← mem_candidates, hnil] at hn
    cases hn
  · rename_i m hsingle
    exact absurd ((eq_singleton_iff candidates_ascending fun _ => mem_candidates).mp hsingle) (hmany m)
  · rfl

theorem lookup_of_meaning (h : Meaning names requested consumer result) :
    (ofNames names).lookup requested consumer = result := by
  cases h with
  | declared hmem => rw [lookup, if_pos (isKnown_ofNames.mpr hmem)]
  | qualified hnew hqualified => exact lookup_qualified hnew hqualified
  | unknown hnew hnone =>
    by_cases hqualified : Qualified requested
    · exact lookup_qualified hnew hqualified
    · have hnil : candidates names requested = [] :=
        List.eq_nil_iff_forall_not_mem.mpr fun n hn => hnone n (mem_candidates.mp hn)
      rw [lookup_short hnew hqualified, hnil]
  | @only n hnew hshort honly =>
    have hsingle : candidates names requested = [n] :=
      (eq_singleton_iff candidates_ascending fun _ => mem_candidates).mpr honly
    rw [lookup_short hnew hshort, hsingle]
  | @near n hnew hshort hmany honly =>
    have hsingle : affine consumer (candidates names requested) = [n] :=
      (eq_singleton_iff affine_ascending fun _ => mem_affine).mpr honly
    rw [lookup_of_many hnew hshort honly.1.1 hmany, hsingle]
  | ambiguous hnew hshort hn hmany hnear hlisted =>
    rw [lookup_of_many hnew hshort hn hmany, hlisted.eq_candidates]
    split
    · rename_i m hsingle
      exact absurd ((eq_singleton_iff affine_ascending fun _ => mem_affine).mp hsingle) (hnear m)
    · rfl

theorem exists_meaning (names : List String) (requested consumer : String) :
    ∃ result, Meaning names requested consumer result := by
  -- The first rule that applies decides, so the rules are tried in their order.
  by_cases hmem : requested ∈ names
  · exact ⟨_, .declared hmem⟩
  by_cases hqualified : Qualified requested
  · exact ⟨_, .qualified hmem hqualified⟩
  by_cases hnone : ∃ n, EndsIn names requested n
  · obtain ⟨n, hn⟩ := hnone
    by_cases honly : ∃ m, Only (EndsIn names requested) m
    · obtain ⟨m, hm⟩ := honly
      exact ⟨_, .only hmem hqualified hm⟩
    rw [not_exists] at honly
    by_cases hnear : ∃ m, Only (EndsNear names requested consumer) m
    · obtain ⟨m, hm⟩ := hnear
      exact ⟨_, .near hmem hqualified honly hm⟩
    rw [not_exists] at hnear
    exact ⟨_, .ambiguous hmem hqualified hn honly hnear lists_candidates⟩
  · rw [not_exists] at hnone
    exact ⟨_, .unknown hmem hnone⟩

theorem lookup_iff_meaning :
    (ofNames names).lookup requested consumer = result ↔ Meaning names requested consumer result := by
  constructor
  · rintro rfl
    obtain ⟨result, hresult⟩ := exists_meaning names requested consumer
    rwa [lookup_of_meaning hresult]
  · exact lookup_of_meaning

theorem Meaning.mem {name : String} (h : Meaning names requested consumer (.ok name)) : name ∈ names := by
  cases h with
  | declared hmem => exact hmem
  | only _ _ honly => exact honly.1.1
  | near _ _ _ honly => exact honly.1.1.1

end Lookup

/-! ### Rules for fields -/

/-- A shape holds a text. An empty text does not count. -/
def Sets (shape : Option String) (text : String) : Prop := shape = some text ∧ text ≠ ""

def Unset (shape : Option String) : Prop := shape = none ∨ shape = some ""

/-- The kind of a collection is `Map`, whatever the case of its letters. -/
def OfMapKind (field : Field) : Prop := ∃ kind, field.typeName = some kind ∧ kind.toLower = "map"

/-- What type a field of `consumer` has. -/
inductive TypedAs (names : List String) (field : Field) (consumer : String) : Except ResolveError FieldType → Prop where
  | primitive {text : String} : Sets field.primitive text →
      TypedAs names field consumer (.ok (.value (.ofPrimitive text)))
  | primitiveMap {text : String} : Unset field.primitive → Sets field.primitiveItem text → OfMapKind field →
      TypedAs names field consumer (.ok (.map (.value (.ofPrimitive text))))
  | primitiveList {text : String} : Unset field.primitive → Sets field.primitiveItem text → ¬ OfMapKind field →
      TypedAs names field consumer (.ok (.list (.value (.ofPrimitive text))))
  | list {requested : String} {result : Except ResolveError String} : Unset field.primitive →
      Unset field.primitiveItem → Sets field.item requested → Meaning names requested consumer result →
      TypedAs names field consumer (result.map fun n => .list (.named n))
  | nested {requested : String} {result : Except ResolveError String} : Unset field.primitive →
      Unset field.primitiveItem → Unset field.item → Sets field.typeName requested →
      Meaning names requested consumer result → TypedAs names field consumer (result.map .named)
  | shapeless : Unset field.primitive → Unset field.primitiveItem → Unset field.item → Unset field.typeName →
      TypedAs names field consumer (.error .shapeless)

section Shapes
variable {shape : Option String} {text : String} {field : Field}

theorem set?_eq_some_iff : set? shape = some text ↔ Sets shape text := by
  rw [set?, Option.filter_eq_some_iff, Sets]
  simp

theorem set?_eq_none_iff : set? shape = none ↔ Unset shape := by
  cases shape with
  | none => simp [set?, Unset]
  | some text => simp [set?, Unset, Option.filter_eq_none_iff]

theorem sets_or_unset (shape : Option String) : (∃ text, Sets shape text) ∨ Unset shape := by
  cases h : set? shape with
  | none => exact Or.inr (set?_eq_none_iff.mp h)
  | some text => exact Or.inl ⟨text, set?_eq_some_iff.mp h⟩

theorem isMap_iff : field.isMap = true ↔ OfMapKind field := by
  have hlower (kind : String) : Text.lowerAscii kind = kind.toLower := by
    have htoLower : kind.toLower = kind.map Char.toLower := rfl
    rw [Text.lowerAscii, htoLower, ← String.toList_inj, String.toList_map, String.toList_ofList]
  have hmap : "map".toLower = "map" := (hlower "map").symm.trans (by decide)
  rw [Field.isMap, Option.any_eq_true, OfMapKind]
  simp only [Text.sameAsciiCase, beq_iff_eq, hlower, hmap]

end Shapes

/-! ### Typing a field -/

section Resolve
variable {names : List String} {field : Field} {consumer : String} {result : Except ResolveError FieldType}

theorem resolve_of_typedAs (h : TypedAs names field consumer result) :
    (ofNames names).resolve field consumer = result := by
  cases h with
  | primitive hset => rw [resolve, set?_eq_some_iff.mpr hset]
  | primitiveMap hunset hset hkind =>
    rw [resolve, set?_eq_none_iff.mpr hunset, set?_eq_some_iff.mpr hset]
    exact congrArg Except.ok (if_pos (isMap_iff.mpr hkind))
  | primitiveList hunset hset hkind =>
    rw [resolve, set?_eq_none_iff.mpr hunset, set?_eq_some_iff.mpr hset]
    exact congrArg Except.ok (if_neg (isMap_iff.not.mpr hkind))
  | @list requested found hprimitive hitem hset hmeaning =>
    rw [resolve, set?_eq_none_iff.mpr hprimitive, set?_eq_none_iff.mpr hitem, set?_eq_some_iff.mpr hset]
    simp only [lookup_of_meaning hmeaning]
    cases found <;> rfl
  | @nested requested found hprimitive hitem hlist hset hmeaning =>
    rw [resolve, set?_eq_none_iff.mpr hprimitive, set?_eq_none_iff.mpr hitem, set?_eq_none_iff.mpr hlist,
      set?_eq_some_iff.mpr hset]
    simp only [lookup_of_meaning hmeaning]
    cases found <;> rfl
  | shapeless hprimitive hitem hlist hnested =>
    rw [resolve, set?_eq_none_iff.mpr hprimitive, set?_eq_none_iff.mpr hitem, set?_eq_none_iff.mpr hlist,
      set?_eq_none_iff.mpr hnested]

theorem exists_typedAs (names : List String) (field : Field) (consumer : String) :
    ∃ result, TypedAs names field consumer result := by
  rcases sets_or_unset field.primitive with ⟨text, hset⟩ | hprimitive
  · exact ⟨_, .primitive hset⟩
  rcases sets_or_unset field.primitiveItem with ⟨text, hset⟩ | hitem
  · by_cases hkind : OfMapKind field
    · exact ⟨_, .primitiveMap hprimitive hset hkind⟩
    · exact ⟨_, .primitiveList hprimitive hset hkind⟩
  rcases sets_or_unset field.item with ⟨requested, hset⟩ | hlist
  · obtain ⟨result, hresult⟩ := exists_meaning names requested consumer
    exact ⟨_, .list hprimitive hitem hset hresult⟩
  rcases sets_or_unset field.typeName with ⟨requested, hset⟩ | hnested
  · obtain ⟨result, hresult⟩ := exists_meaning names requested consumer
    exact ⟨_, .nested hprimitive hitem hlist hset hresult⟩
  · exact ⟨_, .shapeless hprimitive hitem hlist hnested⟩

theorem resolve_iff_typedAs : (ofNames names).resolve field consumer = result ↔ TypedAs names field consumer result := by
  constructor
  · rintro rfl
    obtain ⟨result, hresult⟩ := exists_typedAs names field consumer
    rwa [resolve_of_typedAs hresult]
  · exact resolve_of_typedAs

end Resolve

/-- The resolver answers by the rules, for fields and for names. -/
theorem answers_by_rules (names : List String) (consumer : String) :
    (∀ field result, (ofNames names).resolve field consumer = result ↔ TypedAs names field consumer result) ∧
      ∀ requested result,
        (ofNames names).lookup requested consumer = result ↔ Meaning names requested consumer result :=
  ⟨fun _ _ => resolve_iff_typedAs, fun _ _ => lookup_iff_meaning⟩

/-! ### Declaring more types -/

section Growth
variable {names more : List String} {requested consumer n : String}

theorem Only.of_imp {p q : String → Prop} (h : Only p n) (himp : ∀ m, q m → p m) (hn : q n) : Only q n :=
  ⟨hn, fun m hm => h.2 m (himp m hm)⟩

/-- A type that a name means among more types is what the name means among fewer of them. -/
theorem Meaning.of_subset (hsub : ∀ m ∈ names, m ∈ more) (hn : n ∈ names)
    (h : Meaning more requested consumer (.ok n)) : Meaning names requested consumer (.ok n) := by
  have hends : ∀ m, EndsIn names requested m → EndsIn more requested m := fun m hm => ⟨hsub m hm.1, hm.2⟩
  have hnears : ∀ m, EndsNear names requested consumer m → EndsNear more requested consumer m :=
    fun m hm => ⟨hends m hm.1, hm.2⟩
  cases h with
  | declared => exact .declared hn
  | only hnew hshort honly => exact .only (mt (hsub _) hnew) hshort (honly.of_imp hends ⟨hn, honly.1.2⟩)
  | near hnew hshort _ honly =>
    have hend : EndsIn names requested n := ⟨hn, honly.1.1.2⟩
    -- Without the added types `n` may be the only candidate, and owners are then not asked for.
    by_cases hsingle : ∃ m, Only (EndsIn names requested) m
    · obtain ⟨m, hm⟩ := hsingle
      obtain rfl := hm.2 n hend
      exact .only (mt (hsub _) hnew) hshort hm
    · exact .near (mt (hsub _) hnew) hshort (not_exists.mp hsingle) (honly.of_imp hnears ⟨hend, honly.1.2⟩)

/-- More declared types never change what a name means from one of the old types to another: they leave it as it is,
    or it now means a type that was added, or it is ambiguous. -/
theorem lookup_of_subset (hsub : ∀ m ∈ names, m ∈ more) (requested consumer : String) :
    (∀ n ∈ names, (ofNames more).lookup requested consumer = .ok n →
      (ofNames names).lookup requested consumer = .ok n) ∧
    ((ofNames more).lookup requested consumer = (ofNames names).lookup requested consumer ∨
      (∃ added ∈ more, added ∉ names ∧ (ofNames more).lookup requested consumer = .ok added) ∨
      ∃ listed, (ofNames more).lookup requested consumer = .error (.ambiguous requested listed)) := by
  have hold : ∀ n ∈ names, (ofNames more).lookup requested consumer = .ok n →
      (ofNames names).lookup requested consumer = .ok n :=
    fun n hn h => lookup_of_meaning ((lookup_iff_meaning.mp h).of_subset hsub hn)
  refine ⟨hold, ?_⟩
  cases hmore : (ofNames more).lookup requested consumer with
  | ok n =>
    by_cases hn : n ∈ names
    · exact Or.inl (hold n hn hmore).symm
    · exact Or.inr (Or.inl ⟨n, (lookup_iff_meaning.mp hmore).mem, hn, rfl⟩)
  | error e =>
    -- A name with no candidate among more types has none among fewer.
    cases lookup_iff_meaning.mp hmore with
    | qualified hnew hqualified => exact Or.inl (lookup_of_meaning (.qualified (mt (hsub _) hnew) hqualified)).symm
    | unknown hnew hnone =>
      exact Or.inl (lookup_of_meaning (.unknown (mt (hsub _) hnew) fun m hm => hnone m ⟨hsub m hm.1, hm.2⟩)).symm
    | ambiguous => exact Or.inr (Or.inr ⟨_, rfl⟩)

/-- A second type that ends in `Disk` changes what `Disk` means for its own relatives only. For strangers to both it
    makes the name ambiguous, and its own name comes to mean something. -/
theorem lookup_of_subset_disks :
    (∀ m ∈ ["Vm.Disk", "Host"], m ∈ ["Vm.Disk", "Host", "Host.Disk"]) ∧
      (ofNames ["Vm.Disk", "Host", "Host.Disk"]).lookup "Disk" "Vm" = .ok "Vm.Disk" ∧
      (ofNames ["Vm.Disk", "Host"]).lookup "Disk" "Vm" = .ok "Vm.Disk" ∧
      (ofNames ["Vm.Disk", "Host"]).lookup "Disk" "Host" = .ok "Vm.Disk" ∧
      (ofNames ["Vm.Disk", "Host", "Host.Disk"]).lookup "Disk" "Host" = .ok "Host.Disk" ∧
      (ofNames ["Vm.Disk", "Host"]).lookup "Host.Disk" "Vm" = .error (.unresolved "Host.Disk") ∧
      (ofNames ["Vm.Disk", "Host", "Host.Disk"]).lookup "Host.Disk" "Vm" = .ok "Host.Disk" ∧
      ∃ listed, (ofNames ["Vm.Disk", "Host", "Host.Disk"]).lookup "Disk" "Lan" = .error (.ambiguous "Disk" listed) := by
  have hsub : ∀ m ∈ ["Vm.Disk", "Host"], m ∈ ["Vm.Disk", "Host", "Host.Disk"] := by decide
  have hnear : (ofNames ["Vm.Disk", "Host", "Host.Disk"]).lookup "Disk" "Vm" = .ok "Vm.Disk" := by decide
  refine ⟨hsub, hnear, (lookup_of_subset hsub "Disk" "Vm").1 _ (by decide) hnear, by decide, by decide, by decide,
    by decide, ?_⟩
  rcases (lookup_of_subset hsub "Disk" "Lan").2 with hsame | ⟨added, -, -, hadded⟩ | hambiguous
  · exact absurd hsame (by decide)
  · cases hadded
  · exact hambiguous

end Growth

end Resolver

end Typewright
