import Typewright.Proofs.Format

/-! # Documents that write a schema

`Writes` says which JSON values write a schema down: every key of the format may be spelled in any mix of cases, what is
unset may be left out, and other keys may stand beside those of the format. The names of types, fields and attributes
stand as they are. Reading such a value gives the schema back. -/

namespace Typewright

/-! ### Schemas without empty shapes -/

def Field.shapes (field : Field) : List (Option String) :=
  [field.primitive, field.primitiveItem, field.item, field.typeName]

def Field.Clean (field : Field) : Prop := ∀ shape ∈ field.shapes, shape ≠ some ""

def Attribute.Clean (a : Attribute) : Prop := ∀ shape ∈ [a.primitive, a.primitiveItem, a.typeName], shape ≠ some ""

def TypeSpec.Clean (spec : TypeSpec) : Prop :=
  (∀ e ∈ spec.fields.entries, e.2.Clean) ∧ ∀ e ∈ spec.attributes.entries, e.2.Clean

/-- No shape of a field or an attribute is the empty text. -/
def Schema.Clean (schema : Schema) : Prop := ∀ e ∈ schema.toList, e.2.Clean

instance (field : Field) : Decidable field.Clean := inferInstanceAs (Decidable (∀ shape ∈ _, shape ≠ some ""))

instance (a : Attribute) : Decidable a.Clean := inferInstanceAs (Decidable (∀ shape ∈ _, shape ≠ some ""))

instance (spec : TypeSpec) : Decidable spec.Clean := inferInstanceAs (Decidable ((∀ e ∈ _, _) ∧ ∀ e ∈ _, _))

instance (schema : Schema) : Decidable schema.Clean := inferInstanceAs (Decidable (∀ e ∈ schema.toList, e.2.Clean))

/-! ### One map over another -/

namespace SortedMap
variable {α : Type}

/-- `m` with the entries of `n`, which replace those of `m`. -/
def overlay (m n : SortedMap α) : SortedMap α := n.entries.foldl (fun m e => m.insert e.1 e.2) m

theorem find?_foldl_insert_ascending (k : String) : ∀ {xs : List (String × α)} {m : SortedMap α},
    xs.Pairwise (fun a b => a.1 < b.1) →
      (xs.foldl (fun m e => m.insert e.1 e.2) m).find? k = (findEntry k xs).or (m.find? k)
  | [], m, _ => rfl
  | x :: xs, m, h => by
    obtain ⟨hhead, htail⟩ := List.pairwise_cons.mp h
    rw [List.foldl_cons, find?_foldl_insert_ascending k htail, find?_insert, findEntry]
    by_cases hx : x.1 = k
    · have hnone : findEntry k xs = none := findEntry_eq_none_of_forall_lt fun e he => hx ▸ hhead e he
      simp [hx, hnone]
    · simp [hx]

@[simp] theorem overlay_empty (m : SortedMap α) : m.overlay .empty = m := rfl

@[simp] theorem empty_overlay (m : SortedMap α) : empty.overlay m = m :=
  ext_find? fun k => by
    rw [overlay, find?_foldl_insert_ascending k m.ascending, find?_empty, Option.or_none]
    rfl

end SortedMap

namespace Document

/-! ### Writing a schema down -/

/-- How a text stands under its key: an unset one is left out or is one of some values. -/
inductive WritesText (unset : List Json) : Option String → List Json → Prop where
  | set (s : String) : WritesText unset (some s) [.string s]
  | omitted : WritesText unset none []
  | unset {v : Json} : v ∈ unset → WritesText unset none [v]

inductive WritesFlag : Bool → List Json → Prop where
  | set (b : Bool) : WritesFlag b [.bool b]
  | omitted : WritesFlag false []

/-- How a map stands under its key: as an object whose entries are written one by one under their own names. An empty
    map may be left out. -/
inductive WritesMap {α : Type} (writes : α → List (String × Json) → Prop) : SortedMap α → List Json → Prop where
  | object {m : SortedMap α} {entries : List (String × Json)} :
      List.Forall₂ (fun a e => e.1 = a.1 ∧ ∃ inner, e.2 = .object inner ∧ writes a.2 inner) m.entries entries →
        WritesMap writes m [.object entries]
  | omitted : WritesMap writes .empty []

/-- The values that stand for a shape that is not set. -/
def unsetShapes : List Json := [.null, .string ""]

structure WritesField (field : Field) (entries : List (String × Json)) : Prop where
  required : WritesFlag field.required (valuesUnder entries ["required"])
  primitive : WritesText unsetShapes field.primitive (valuesUnder entries ["primitivetype"])
  primitiveItem : WritesText unsetShapes field.primitiveItem (valuesUnder entries ["primitiveitemtype"])
  item : WritesText unsetShapes field.item (valuesUnder entries ["itemtype"])
  typeName : WritesText unsetShapes field.typeName (valuesUnder entries ["type"])
  documentation : WritesText [.null] field.documentation (valuesUnder entries ["documentation"])

structure WritesAttribute (a : Attribute) (entries : List (String × Json)) : Prop where
  primitive : WritesText unsetShapes a.primitive (valuesUnder entries ["primitivetype"])
  primitiveItem : WritesText unsetShapes a.primitiveItem (valuesUnder entries ["primitiveitemtype"])
  typeName : WritesText unsetShapes a.typeName (valuesUnder entries ["type"])

structure WritesType (spec : TypeSpec) (entries : List (String × Json)) : Prop where
  fields : WritesMap WritesField spec.fields (valuesUnder entries ["properties"])
  attributes : WritesMap WritesAttribute spec.attributes (valuesUnder entries ["attributes"])
  documentation : WritesText [] spec.documentation (valuesUnder entries ["documentation"])

/-- A value that writes a schema down. -/
def Writes (schema : Schema) (value : Json) : Prop := ∃ entries, value = .object entries ∧
  ∀ kind, WritesMap WritesType (schema.sectionOf kind) (valuesUnder entries (keysOf kind))

/-! ### Reading descriptors back -/

@[simp] theorem valuesUnder_nil (keys : List String) : valuesUnder [] keys = [] := rfl

theorem valuesUnder_cons (e : String × Json) (entries : List (String × Json)) (keys : List String) :
    valuesUnder (e :: entries) keys =
      if Text.lowerAscii e.1 ∈ keys then e.2 :: valuesUnder entries keys else valuesUnder entries keys := by
  unfold valuesUnder
  split <;> simp_all

section Descriptors
variable {entries : List (String × Json)} {key : String} {o : Option String}

theorem optionalText_of_writes (h : WritesText [.null] o (valuesUnder entries [key])) :
    optionalText (foldKeys entries) key = .ok o := by
  rw [optionalText, find?_foldKeys, lastUnder]
  generalize valuesUnder entries [key] = values at h
  cases h with
  | set s => rfl
  | omitted => rfl
  | unset hv =>
    cases List.mem_singleton.mp hv
    rfl

theorem exists_optionalText_of_writes (h : WritesText unsetShapes o (valuesUnder entries [key]))
    (hclean : o ≠ some "") : ∃ o', optionalText (foldKeys entries) key = .ok o' ∧ nonEmpty o' = o := by
  rw [optionalText, find?_foldKeys, lastUnder]
  generalize valuesUnder entries [key] = values at h
  cases h with
  | set s =>
    have hs : s ≠ "" := fun heq => hclean (congrArg some heq)
    exact ⟨some s, rfl, by simp [nonEmpty, hs]⟩
  | omitted => exact ⟨none, rfl, rfl⟩
  | unset hv =>
    rcases List.mem_cons.mp hv with rfl | hv
    · exact ⟨none, rfl, rfl⟩
    · cases List.mem_singleton.mp hv
      exact ⟨some "", rfl, rfl⟩

theorem flag_of_writes {b : Bool} (h : WritesFlag b (valuesUnder entries [key])) :
    flag (foldKeys entries) key = .ok b := by
  rw [flag, find?_foldKeys, lastUnder]
  generalize valuesUnder entries [key] = values at h
  cases h <;> rfl

theorem field_of_writes {f : Field} (h : WritesField f entries) (hclean : f.Clean) :
    field (foldKeys entries) = .ok f := by
  obtain ⟨required, primitive, primitiveItem, item, typeName, documentation⟩ := f
  simp only [Field.Clean, Field.shapes, List.forall_mem_cons] at hclean
  obtain ⟨hclean₁, hclean₂, hclean₃, hclean₄, -⟩ := hclean
  obtain ⟨primitive', hprimitive, rfl⟩ := exists_optionalText_of_writes h.primitive hclean₁
  obtain ⟨primitiveItem', hprimitiveItem, rfl⟩ := exists_optionalText_of_writes h.primitiveItem hclean₂
  obtain ⟨item', hitem, rfl⟩ := exists_optionalText_of_writes h.item hclean₃
  obtain ⟨typeName', htype, rfl⟩ := exists_optionalText_of_writes h.typeName hclean₄
  rw [field, optionalText_of_writes h.documentation, hitem, hprimitiveItem, hprimitive, flag_of_writes h.required,
    htype]
  rfl

theorem attributeSpec_of_writes {a : Attribute} (h : WritesAttribute a entries) (hclean : a.Clean) :
    attributeSpec (foldKeys entries) = .ok a := by
  obtain ⟨primitive, primitiveItem, typeName⟩ := a
  simp only [Attribute.Clean, List.forall_mem_cons] at hclean
  obtain ⟨hclean₁, hclean₂, hclean₃, -⟩ := hclean
  obtain ⟨primitive', hprimitive, rfl⟩ := exists_optionalText_of_writes h.primitive hclean₁
  obtain ⟨primitiveItem', hprimitiveItem, rfl⟩ := exists_optionalText_of_writes h.primitiveItem hclean₂
  obtain ⟨typeName', htype, rfl⟩ := exists_optionalText_of_writes h.typeName hclean₃
  rw [attributeSpec, hprimitiveItem, hprimitive, htype]
  rfl

theorem descriptorAt_of_read {α : Type} {read : SortedMap Json → Except DescriptorFault α} {a : α}
    (h : read (foldKeys entries) = .ok a) (path : List String) : descriptorAt path read (.object entries) = .ok a := by
  rw [descriptorAt_object, h]
  rfl

end Descriptors

/-! ### Reading maps back -/

section Maps
variable {α : Type} {writes : α → List (String × Json) → Prop} {m : SortedMap α}

/-- What stands for a map under its key is the only value there, and an object. -/
theorem WritesMap.cons {v : Json} {values : List Json} (h : WritesMap writes m (v :: values)) :
    values = [] ∧ ∃ entries, v = .object entries ∧
      List.Forall₂ (fun a e => e.1 = a.1 ∧ ∃ inner, e.2 = .object inner ∧ writes a.2 inner) m.entries entries := by
  cases h with
  | object hentries => exact ⟨rfl, _, rfl, hentries⟩

theorem WritesMap.eq_empty (h : WritesMap writes m []) : m = .empty := by
  cases h
  rfl

/-- Entries that write down what can be read back are put in one after the other. -/
theorem foldlM_of_writes {β ε : Type} (read : String → Json → Except ε α) (put : β → String → α → β) (good : α → Prop)
    (hread : ∀ name a inner, good a → writes a inner → read name (.object inner) = .ok a)
    {xs : List (String × α)} {es : List (String × Json)}
    (h : List.Forall₂ (fun a e => e.1 = a.1 ∧ ∃ inner, e.2 = .object inner ∧ writes a.2 inner) xs es) :
    (∀ a ∈ xs, good a.2) → ∀ b : β,
      es.foldlM (fun b e => do return put b e.1 (← read e.1 e.2)) b = .ok (xs.foldl (fun b a => put b a.1 a.2) b) := by
  induction h with
  | nil => intro _ b; rfl
  | @cons a e _ _ he _ ih =>
    obtain ⟨name, value⟩ := e
    obtain ⟨rfl, inner, rfl, hwrites⟩ := he
    intro hgood b
    obtain ⟨ha, hrest⟩ := List.forall_mem_cons.mp hgood
    rw [List.foldlM_cons, hread a.1 a.2 inner ha hwrites, List.foldl_cons]
    exact ih hrest _

theorem WritesText.cons {o : Option String} {v : Json} {values : List Json} (h : WritesText [] o (v :: values)) :
    values = [] ∧ ∃ s, v = .string s ∧ o = some s := by
  cases h with
  | set s => exact ⟨rfl, s, rfl, rfl⟩
  | unset hv => cases hv

theorem WritesText.eq_none {unset : List Json} {o : Option String} (h : WritesText unset o []) : o = none := by
  cases h
  rfl

end Maps

/-! ### Reading types back -/

section Types
variable {path : List String} {spec target : TypeSpec} {e : String × Json} {rest entries : List (String × Json)}

theorem foldl_withField (xs : List (String × Field)) : ∀ spec : TypeSpec,
    xs.foldl (fun spec a => spec.withField a.1 a.2) spec =
      { spec with fields := xs.foldl (fun m a => m.insert a.1 a.2) spec.fields } := by
  induction xs with
  | nil => intro spec; rfl
  | cons x xs ih => exact fun spec => ih _

theorem foldl_withAttribute (xs : List (String × Attribute)) : ∀ spec : TypeSpec,
    xs.foldl (fun spec a => spec.withAttribute a.1 a.2) spec =
      { spec with attributes := xs.foldl (fun m a => m.insert a.1 a.2) spec.attributes } := by
  induction xs with
  | nil => intro spec; rfl
  | cons x xs ih => exact fun spec => ih _

theorem readTypeEntry_properties (hof : TypeKey.ofKey e.1 = .properties) (hvalue : e.2 = .object entries)
    (h : List.Forall₂ (fun a e => e.1 = a.1 ∧ ∃ inner, e.2 = .object inner ∧ WritesField a.2 inner)
      target.fields.entries entries) (hclean : target.Clean) :
    readTypeEntry path spec e = .ok { spec with fields := spec.fields.overlay target.fields } := by
  have hread := foldlM_of_writes (fun name => descriptorAt (path ++ [e.1] ++ [name]) field) TypeSpec.withField
    Field.Clean (fun name f inner hf hinner => descriptorAt_of_read (field_of_writes hinner hf) _) h hclean.1 spec
  rw [readTypeEntry, hof, hvalue]
  exact hread.trans (congrArg Except.ok (foldl_withField _ spec))

theorem readTypeEntry_attributes (hof : TypeKey.ofKey e.1 = .attributes) (hvalue : e.2 = .object entries)
    (h : List.Forall₂ (fun a e => e.1 = a.1 ∧ ∃ inner, e.2 = .object inner ∧ WritesAttribute a.2 inner)
      target.attributes.entries entries) (hclean : target.Clean) :
    readTypeEntry path spec e = .ok { spec with attributes := spec.attributes.overlay target.attributes } := by
  have hread := foldlM_of_writes (fun name => descriptorAt (path ++ [e.1] ++ [name]) attributeSpec)
    TypeSpec.withAttribute Attribute.Clean
    (fun name a inner ha hinner => descriptorAt_of_read (attributeSpec_of_writes hinner ha) _) h hclean.2 spec
  rw [readTypeEntry, hof, hvalue]
  exact hread.trans (congrArg Except.ok (foldl_withAttribute _ spec))

/-- What has been read of a type, with what is still to come. -/
def withRest (spec target : TypeSpec) : TypeSpec where
  fields := spec.fields.overlay target.fields
  attributes := spec.attributes.overlay target.attributes
  documentation := target.documentation.or spec.documentation

/-- Reading the first entry of a type moves what it writes from what is to come to what has been read. -/
theorem readTypeEntry_of_writes (h : WritesType target (e :: rest)) (hclean : target.Clean) :
    ∃ spec' target', readTypeEntry path spec e = .ok spec' ∧ WritesType target' rest ∧ target'.Clean ∧
      withRest spec' target' = withRest spec target := by
  obtain ⟨hfields, hattributes, hdocumentation⟩ := h
  rw [valuesUnder_cons] at hfields hattributes hdocumentation
  rcases typeKey_cases e.1 with ⟨hkey, hof⟩ | ⟨hkey, hof⟩ | ⟨hkey, hof⟩ | ⟨hkey, hof⟩
  · rw [if_pos (by simp [hkey])] at hfields
    rw [if_neg (by simp [hkey])] at hattributes hdocumentation
    obtain ⟨hvalues, entries, hvalue, hentries⟩ := hfields.cons
    exact ⟨_, { target with fields := .empty }, readTypeEntry_properties hof hvalue hentries hclean,
      ⟨hvalues ▸ .omitted, hattributes, hdocumentation⟩, ⟨nofun, hclean.2⟩, rfl⟩
  · rw [if_pos (by simp [hkey])] at hattributes
    rw [if_neg (by simp [hkey])] at hfields hdocumentation
    obtain ⟨hvalues, entries, hvalue, hentries⟩ := hattributes.cons
    exact ⟨_, { target with attributes := .empty }, readTypeEntry_attributes hof hvalue hentries hclean,
      ⟨hfields, hvalues ▸ .omitted, hdocumentation⟩, ⟨hclean.1, nofun⟩, rfl⟩
  · rw [if_pos (by simp [hkey])] at hdocumentation
    rw [if_neg (by simp [hkey])] at hfields hattributes
    obtain ⟨hvalues, s, hvalue, hs⟩ := hdocumentation.cons
    refine ⟨{ spec with documentation := some s }, { target with documentation := none }, ?_,
      ⟨hfields, hattributes, by rw [hvalues]; exact .omitted⟩, hclean, by rw [withRest, withRest, hs]; rfl⟩
    rw [readTypeEntry, hof, hvalue]
    rfl
  · rw [if_neg (by simpa using hkey "properties" (by simp))] at hfields
    rw [if_neg (by simpa using hkey "attributes" (by simp))] at hattributes
    rw [if_neg (by simpa using hkey "documentation" (by simp))] at hdocumentation
    exact ⟨spec, target, by rw [readTypeEntry, hof], ⟨hfields, hattributes, hdocumentation⟩, hclean, rfl⟩

-- The induction is on the entries; each moves its part of `target` over to `spec`.
theorem foldlM_readTypeEntry (path : List String) : ∀ {entries : List (String × Json)} {spec target : TypeSpec},
    WritesType target entries → target.Clean →
      entries.foldlM (readTypeEntry path) spec = .ok (withRest spec target)
  | [], spec, target, h, _ => by
    obtain ⟨fields, attributes, documentation⟩ := target
    obtain rfl := h.fields.eq_empty
    obtain rfl := h.attributes.eq_empty
    obtain rfl := h.documentation.eq_none
    rfl
  | e :: rest, spec, target, h, hclean => by
    obtain ⟨spec', target', hread, hrest, hclean', heq⟩ := readTypeEntry_of_writes h hclean
    rw [List.foldlM_cons, hread, ← heq]
    exact foldlM_readTypeEntry path hrest hclean'

theorem withRest_empty (target : TypeSpec) : withRest .empty target = target := by
  obtain ⟨fields, attributes, documentation⟩ := target
  simp [withRest, TypeSpec.empty]

theorem readType_of_writes (h : WritesType target entries) (hclean : target.Clean) (path : List String) :
    readType path (.object entries) = .ok target := by
  have hread : entries.foldlM (readTypeEntry path) TypeSpec.empty = .ok (withRest .empty target) :=
    foldlM_readTypeEntry path h hclean
  rwa [withRest_empty] at hread

end Types

/-! ### Reading schemas back -/

section Schemas
variable {schema : Schema} {kind : TypeKind} {e : String × Json} {rest entries : List (String × Json)}

/-- Every type of a section put in. -/
def withSection (schema : Schema) (kind : TypeKind) (types : SortedMap TypeSpec) : Schema :=
  types.entries.foldl (fun schema t => schema.insert ⟨kind, t.1⟩ t.2) schema

theorem sectionOf_foldl_insert (kind kind' : TypeKind) (xs : List (String × TypeSpec)) : ∀ schema : Schema,
    (xs.foldl (fun schema t => schema.insert ⟨kind, t.1⟩ t.2) schema).sectionOf kind' =
      if kind' = kind then xs.foldl (fun m t => m.insert t.1 t.2) (schema.sectionOf kind')
      else schema.sectionOf kind' := by
  induction xs with
  | nil => intro schema; simp
  | cons x xs ih =>
    intro schema
    rw [List.foldl_cons, ih]
    cases kind <;> cases kind' <;> rfl

theorem sectionOf_withSection (schema : Schema) (kind kind' : TypeKind) (types : SortedMap TypeSpec) :
    (withSection schema kind types).sectionOf kind' =
      if kind' = kind then (schema.sectionOf kind').overlay types else schema.sectionOf kind' :=
  sectionOf_foldl_insert kind kind' types.entries schema

theorem readTypes_of_writes {types : SortedMap TypeSpec} (hclean : ∀ t ∈ types.entries, t.2.Clean)
    (h : List.Forall₂ (fun a e => e.1 = a.1 ∧ ∃ inner, e.2 = .object inner ∧ WritesType a.2 inner)
      types.entries entries) (key : String) :
    readTypes schema kind key (.object entries) = .ok (withSection schema kind types) :=
  foldlM_of_writes (fun name => readType [key, name])
    (fun (schema : Schema) name spec => schema.insert ⟨kind, name⟩ spec) TypeSpec.Clean (fun _ _ _ hspec hinner => readType_of_writes hinner hspec _) h hclean schema

theorem eq_of_mem_keysOf {key : String} {kind kind' : TypeKind} (h : key ∈ keysOf kind) (h' : key ∈ keysOf kind') :
    kind' = kind := by
  cases kind <;> cases kind' <;> simp_all [keysOf]

/-- The sections that entries write, and whose shapes are not empty. -/
def WritesSections (target : TypeKind → SortedMap TypeSpec) (entries : List (String × Json)) : Prop :=
  ∀ kind, WritesMap WritesType (target kind) (valuesUnder entries (keysOf kind)) ∧
    ∀ t ∈ (target kind).entries, t.2.Clean

theorem readSection_of_writes {target : TypeKind → SortedMap TypeSpec} (h : WritesSections target (e :: rest)) :
    ∃ (schema' : Schema) (target' : TypeKind → SortedMap TypeSpec), readSection schema e = .ok schema' ∧
      WritesSections target' rest ∧
      ∀ kind, (schema'.sectionOf kind).overlay (target' kind) = (schema.sectionOf kind).overlay (target kind) := by
  simp only [WritesSections, valuesUnder_cons] at h
  -- The entry of a section takes all that is to come of that kind, since there is only one of them.
  rcases sectionKey_cases e.1 with ⟨kind, hkey, hof⟩ | ⟨hkey, hof⟩
  · obtain ⟨hwrites, hclean⟩ := h kind
    rw [if_pos hkey] at hwrites
    obtain ⟨hvalues, entries, hvalue, hentries⟩ := hwrites.cons
    refine ⟨withSection schema kind (target kind), Function.update target kind .empty, ?_, fun kind' => ?_,
      fun kind' => ?_⟩
    · rw [readSection, hof, hvalue]
      exact readTypes_of_writes hclean hentries _
    · by_cases hkind : kind' = kind
      · subst hkind
        rw [Function.update_self, hvalues]
        exact ⟨.omitted, List.forall_mem_nil _⟩
      · have hother := h kind'
        rw [if_neg fun hmem => hkind (eq_of_mem_keysOf hkey hmem)] at hother
        rwa [Function.update_of_ne hkind]
    · rw [sectionOf_withSection]
      by_cases hkind : kind' = kind
      · subst hkind
        simp
      · rw [if_neg hkind, Function.update_of_ne hkind]
  · refine ⟨schema, target, ?_, fun kind => ?_, fun _ => rfl⟩
    · rw [readSection]
      rcases hof with hof | hof <;> rw [hof]
    · have hother := h kind
      rwa [if_neg fun hmem => hkey (mem_sectionKeys hmem)] at hother

theorem foldlM_readSection : ∀ {entries : List (String × Json)} {target : TypeKind → SortedMap TypeSpec},
    WritesSections target entries → ∀ schema : Schema, ∃ schema' : Schema,
      entries.foldlM readSection schema = .ok schema' ∧
        ∀ kind, schema'.sectionOf kind = (schema.sectionOf kind).overlay (target kind)
  | [], target, h, schema => ⟨schema, rfl, fun kind => by rw [(h kind).1.eq_empty, SortedMap.overlay_empty]⟩
  | e :: rest, target, h, schema => by
    obtain ⟨next, target', hread, hrest, heq⟩ := readSection_of_writes h
    obtain ⟨schema', hschema, hsections⟩ := foldlM_readSection hrest next
    refine ⟨schema', ?_, fun kind => (hsections kind).trans (heq kind)⟩
    rw [List.foldlM_cons, hread]
    exact hschema

theorem ofJson_of_writes {value : Json} (h : Writes schema value) (hclean : schema.Clean) :
    Schema.ofJson value = .ok schema := by
  obtain ⟨entries, rfl, hwrites⟩ := h
  have hsections : WritesSections schema.sectionOf entries := fun kind =>
    ⟨hwrites kind, Catalogue.forall_mem_toList_iff.mp hclean kind⟩
  obtain ⟨schema', hread, hsame⟩ := foldlM_readSection hsections Catalogue.empty
  have hempty : ∀ kind, (Catalogue.empty : Schema).sectionOf kind = .empty := fun kind => by cases kind <;> rfl
  have heq : schema' = schema := Catalogue.ext_sectionOf fun kind => by
    rw [hsame, hempty, SortedMap.empty_overlay]
  exact heq ▸ hread

end Schemas

/-! ### Every schema can be written -/

/-- The entry of a text that is set. -/
def textEntry (key : String) : Option String → List (String × Json)
  | some s => [(key, .string s)]
  | none => []

def fieldEntries (field : Field) : List (String × Json) :=
  textEntry "Documentation" field.documentation ++ textEntry "ItemType" field.item ++
    textEntry "PrimitiveItemType" field.primitiveItem ++ textEntry "PrimitiveType" field.primitive ++
    [("Required", .bool field.required)] ++ textEntry "Type" field.typeName

def attributeEntries (a : Attribute) : List (String × Json) :=
  textEntry "PrimitiveItemType" a.primitiveItem ++ textEntry "PrimitiveType" a.primitive ++ textEntry "Type" a.typeName

/-- A map as an object of objects. -/
def mapJson {α : Type} (entriesOf : α → List (String × Json)) (m : SortedMap α) : Json :=
  .object (m.entries.map fun e => (e.1, .object (entriesOf e.2)))

def typeEntries (spec : TypeSpec) : List (String × Json) :=
  [("Attributes", mapJson attributeEntries spec.attributes)] ++ textEntry "Documentation" spec.documentation ++
    [("Properties", mapJson fieldEntries spec.fields)]

/-- A schema as a document. -/
def ofSchema (schema : Schema) : Json := .object [
  ("PropertyTypes", mapJson typeEntries schema.properties),
  ("ResourceTypes", mapJson typeEntries schema.resources)]

@[simp] theorem valuesUnder_append (xs ys : List (String × Json)) (keys : List String) :
    valuesUnder (xs ++ ys) keys = valuesUnder xs keys ++ valuesUnder ys keys := by
  simp [valuesUnder]

@[simp] theorem valuesUnder_textEntry (key : String) (o : Option String) (keys : List String) :
    valuesUnder (textEntry key o) keys = if Text.lowerAscii key ∈ keys then o.toList.map .string else [] := by
  cases o with
  | none => simp [textEntry]
  | some s => simp [textEntry, valuesUnder_cons]

theorem writesText_toList (unset : List Json) (o : Option String) : WritesText unset o (o.toList.map .string) := by
  cases o with
  | none => exact .omitted
  | some s => exact .set s

theorem writesMap_mapJson {α : Type} {writes : α → List (String × Json) → Prop} {entriesOf : α → List (String × Json)}
    (h : ∀ a, writes a (entriesOf a)) (m : SortedMap α) : WritesMap writes m [mapJson entriesOf m] := by
  refine .object (List.forall₂_map_right_iff.mpr (List.forall₂_same.mpr fun e _ => ?_))
  exact ⟨rfl, _, rfl, h e.2⟩

theorem writesField_fieldEntries (field : Field) : WritesField field (fieldEntries field) := by
  constructor <;> simp +decide [fieldEntries, valuesUnder_cons, WritesFlag.set, writesText_toList]

theorem writesAttribute_attributeEntries (a : Attribute) : WritesAttribute a (attributeEntries a) := by
  constructor <;> simp +decide [attributeEntries, writesText_toList]

theorem writesType_typeEntries (spec : TypeSpec) : WritesType spec (typeEntries spec) := by
  have hfields := writesMap_mapJson writesField_fieldEntries spec.fields
  have hattributes := writesMap_mapJson writesAttribute_attributeEntries spec.attributes
  constructor <;> simp +decide [typeEntries, valuesUnder_cons, hfields, hattributes, writesText_toList]

theorem writes_ofSchema (schema : Schema) : Writes schema (ofSchema schema) := by
  refine ⟨_, rfl, fun kind => ?_⟩
  have htypes := writesMap_mapJson writesType_typeEntries (schema.sectionOf kind)
  cases kind <;> simpa +decide [valuesUnder_cons, keysOf, Catalogue.sectionOf] using htypes

/-- A schema without empty shapes can be written down, and every text that holds a value which writes it gives it
    back. -/
theorem ofText_of_writes {schema : Schema} (hclean : schema.Clean) : Writes schema (ofSchema schema) ∧
    ∀ value, Writes schema value → Schema.ofJson value = .ok schema ∧
      ∀ text, Json.parse text = .ok value → Schema.ofText text = .ok schema := by
  refine ⟨writes_ofSchema schema, fun value hwrites => ?_⟩
  have hvalue := ofJson_of_writes hwrites hclean
  exact ⟨hvalue, fun text htext => (ofText_of_parse htext).trans hvalue⟩

/-- A type and a field that have the names of keys. -/
def lookalikes : Schema where
  resources := .ofList [("Type", { fields := .ofList [("properties", .ofPrimitive "Json")] })]
  properties := .empty

def lookalikesText : String :=
  "\x7b\"resourceType\":\x7b\"Type\":\x7b\"PROPERTIES\":\x7b\"properties\":\x7b\"type\":\"\"," ++
    "\"primitiveTYPE\":\"Json\",\"Z\":0\x7d\x7d\x7d\x7d,\"propertyTYPES\":\x7b\x7d\x7d"

def lookalikesValue : Json := .object [
  ("propertyTYPES", .object []),
  ("resourceType", .object [("Type", .object [
    ("PROPERTIES", .object [("properties", .object [
      ("Z", .number (.integer 0)), ("primitiveTYPE", .string "Json"), ("type", .string "")])])])])]

theorem writes_lookalikesValue : Writes lookalikes lookalikesValue := by
  refine ⟨_, rfl, fun kind => ?_⟩
  cases kind with
  | resource =>
    refine .object (.cons ⟨rfl, _, rfl, .object (.cons ⟨rfl, _, rfl, ?_⟩ .nil), .omitted, .omitted⟩ .nil)
    exact ⟨.omitted, .set _, .omitted, .omitted, .unset (by simp [unsetShapes]), .omitted⟩
  | property => exact .object .nil

set_option maxRecDepth 1000 in
theorem ofText_of_writes_lookalikes : lookalikes.Clean ∧ Writes lookalikes lookalikesValue ∧
    Json.parse lookalikesText = .ok lookalikesValue ∧ Schema.ofText lookalikesText = .ok lookalikes := by
  have hclean : lookalikes.Clean := by decide
  have hparse : Json.parse lookalikesText = .ok lookalikesValue := by with_unfolding_all rfl
  exact ⟨hclean, writes_lookalikesValue, hparse,
    ((ofText_of_writes hclean).2 _ writes_lookalikesValue).2 _ hparse⟩

end Document

end Typewright
