import Typewright.Proofs.JsonOrder
import Typewright.Schema.Document

/-! # The format of documents

`IsDocument` says which JSON values describe a schema. `places` lists the values that this depends on, depth first in
order of keys, each with the keys that lead to it. Reading a value succeeds if it is a document, and otherwise blames
the first of these places that is not of its form. -/

namespace Typewright

/-! ### Steps that fail -/

section Failure
variable {ε α β : Type}

/-- The error of a step that fails. -/
def failureOf : Except ε α → Option ε
  | .ok _ => none
  | .error e => some e

theorem failureOf_eq_none_iff {x : Except ε α} : failureOf x = none ↔ ∃ a, x = .ok a := by
  cases x <;> simp [failureOf]

theorem failureOf_eq_some_iff {x : Except ε α} {e : ε} : failureOf x = some e ↔ x = .error e := by
  cases x <;> simp [failureOf]

theorem failureOf_bind {x : Except ε α} {f : α → Except ε β} {later : Option ε}
    (h : ∀ a, x = .ok a → failureOf (f a) = later) : failureOf (x >>= f) = (failureOf x).or later := by
  cases x with
  | error e => rfl
  | ok a => exact h a rfl

theorem failureOf_map {x : Except ε α} (g : α → β) : failureOf (x >>= fun a => pure (g a)) = failureOf x := by
  cases x <;> rfl

theorem failureOf_mapError {ε' : Type} {x : Except ε α} (f : ε → ε') :
    failureOf (x.mapError f) = (failureOf x).map f := by
  cases x <;> rfl

theorem findSome?_cons_eq_or {f : α → Option ε} (x : α) (xs : List α) :
    (x :: xs).findSome? f = (f x).or (xs.findSome? f) := by
  rw [List.findSome?_cons]
  cases f x <;> rfl

/-- A run through a list fails where the first of its steps does, if what a step fails with depends on its element
    only. -/
theorem failureOf_foldlM {f : β → α → Except ε β} {g : α → Option ε} (h : ∀ b a, failureOf (f b a) = g a)
    (xs : List α) : ∀ b, failureOf (xs.foldlM f b) = xs.findSome? g := by
  -- The state is free in the induction, as nothing depends on it.
  induction xs with
  | nil => intro b; rfl
  | cons x xs ih =>
    intro b
    rw [List.foldlM_cons, failureOf_bind fun b' _ => ih b', h, findSome?_cons_eq_or]

theorem findSome?_flatMap {f : α → List β} {g : β → Option ε} (xs : List α) :
    (xs.flatMap f).findSome? g = xs.findSome? fun x => (f x).findSome? g := by
  induction xs with
  | nil => rfl
  | cons x xs ih =>
    rw [List.flatMap_cons, List.findSome?_append, ih, findSome?_cons_eq_or]

end Failure

theorem SortedMap.find?_foldl_insert {α : Type} (k : String) (xs : List (String × α)) : ∀ m : SortedMap α,
    (xs.foldl (fun m e => m.insert e.1 e.2) m).find? k =
      ((xs.filter (·.1 = k)).map (·.2)).getLast?.or (m.find? k) := by
  induction xs with
  | nil => intro m; rfl
  | cons x xs ih =>
    intro m
    rw [List.foldl_cons, ih, find?_insert]
    by_cases hx : x.1 = k
    · rw [if_pos hx, List.filter_cons_of_pos (by simpa using hx), List.map_cons, List.getLast?_cons]
      cases ((xs.filter (·.1 = k)).map (·.2)).getLast? <;> rfl
    · rw [if_neg hx, List.filter_cons_of_neg (by simpa using hx)]

namespace Document

/-! ### Values under keys -/

/-- What stands under keys that become one of `keys` in lower case. -/
def valuesUnder (entries : List (String × Json)) (keys : List String) : List Json :=
  (entries.filter (Text.lowerAscii ·.1 ∈ keys)).map (·.2)

/-- What counts under a key in lower case: the last value. -/
def lastUnder (entries : List (String × Json)) (key : String) : Option Json := (valuesUnder entries [key]).getLast?

theorem find?_foldKeys (entries : List (String × Json)) (key : String) :
    (foldKeys entries).find? key = lastUnder entries key := by
  rw [foldKeys, SortedMap.ofList, SortedMap.find?_foldl_insert, SortedMap.find?_empty, Option.or_none, List.filter_map,
    List.map_map, lastUnder, valuesUnder]
  simp only [Function.comp_def, List.mem_singleton]

/-! ### The format -/

/-- An object whose entries have a property. -/
def ObjectOf (p : String × Json → Prop) (value : Json) : Prop := ∃ entries, value = .object entries ∧ ∀ e ∈ entries, p e

def IsText (value : Option Json) : Prop := ∀ v ∈ value, v = .null ∨ ∃ s, v = .string s

def IsFlag (value : Option Json) : Prop := ∀ v ∈ value, ∃ b, v = .bool b

def IsField (value : Json) : Prop := ∃ entries, value = .object entries ∧ IsFlag (lastUnder entries "required") ∧
  ∀ key ∈ ["primitivetype", "primitiveitemtype", "itemtype", "type", "documentation"], IsText (lastUnder entries key)

def IsAttribute (value : Json) : Prop := ∃ entries, value = .object entries ∧
  ∀ key ∈ ["primitivetype", "primitiveitemtype", "type"], IsText (lastUnder entries key)

def IsType : Json → Prop := ObjectOf fun e =>
  (Text.lowerAscii e.1 = "properties" → ObjectOf (fun f => IsField f.2) e.2) ∧
    (Text.lowerAscii e.1 = "attributes" → ObjectOf (fun a => IsAttribute a.2) e.2)

/-- The keys under which types of a kind stand, in lower case. -/
def keysOf : TypeKind → List String
  | .resource => ["resourcetypes", "resourcetype"]
  | .property => ["propertytypes"]

def sectionKeys : List String := keysOf .resource ++ keysOf .property

def IsDocument : Json → Prop := ObjectOf fun e =>
  Text.lowerAscii e.1 ∈ sectionKeys → ObjectOf (fun t => IsType t.2) e.2

/-! ### Places -/

/-- What a value of a document has to be. -/
inductive Form where
  | object
  | field
  | attribute

/-- The keys of an object of this form that are read, with what should stand under them. -/
def Form.keys : Form → List (String × Expected)
  | .object => []
  | .field => [("documentation", .text), ("itemtype", .text), ("primitiveitemtype", .text), ("primitivetype", .text),
      ("required", .flag), ("type", .text)]
  | .attribute => [("primitiveitemtype", .text), ("primitivetype", .text), ("type", .text)]

/-- A value of a document, the keys that lead to it, and what it has to be. -/
structure Place where
  path : List String
  form : Form
  value : Json

/-- Whether a value is what is expected, or null for a text. -/
def admits : Expected → Json → Bool
  | .text, .null => true
  | .text, .string _ => true
  | .flag, .bool _ => true
  | _, _ => false

/-- What is wrong with the value under a key. -/
def misfit? (entries : List (String × Json)) (key : String × Expected) : Option DescriptorFault :=
  match lastUnder entries key.1 with
  | none => none
  | some v => if admits key.2 v then none else some (.mismatch v key.2)

/-- What is wrong at a place: it holds no object, or the first of its keys holds something else than expected. -/
def Place.fault? (p : Place) : Option DescriptorFault :=
  match p.value with
  | .object entries => p.form.keys.findSome? (misfit? entries)
  | _ => some .notObject

def Place.error? (p : Place) : Option DocumentError := p.fault?.map (.descriptor p.path)

def members : Json → List (String × Json)
  | .object entries => entries
  | _ => []

/-- The place of an object, and behind it the places within its entries. -/
def objectPlaces (path : List String) (inner : String × Json → List Place) (value : Json) : List Place :=
  ⟨path, .object, value⟩ :: (members value).flatMap inner

/-- The places within one entry of the type at `path`. -/
def typeEntryPlaces (path : List String) (e : String × Json) : List Place :=
  let here := path ++ [e.1]
  if Text.lowerAscii e.1 = "properties" then objectPlaces here (fun f => [⟨here ++ [f.1], .field, f.2⟩]) e.2
  else if Text.lowerAscii e.1 = "attributes" then objectPlaces here (fun a => [⟨here ++ [a.1], .attribute, a.2⟩]) e.2
  else []

def typePlaces (path : List String) : Json → List Place := objectPlaces path (typeEntryPlaces path)

/-- The places within one entry of a document. -/
def entryPlaces (e : String × Json) : List Place :=
  if Text.lowerAscii e.1 ∈ sectionKeys then objectPlaces [e.1] (fun t => typePlaces [e.1, t.1] t.2) e.2 else []

/-- The places of a document, depth first in order of keys. -/
def places (value : Json) : List Place := (members value).flatMap entryPlaces

/-- `place` is the first with a fault. -/
def FirstFault (value : Json) (place : Place) (fault : DescriptorFault) : Prop :=
  ∃ before after, places value = before ++ place :: after ∧ place.fault? = some fault ∧ ∀ p ∈ before, p.fault? = none

/-! ### Reading fails at the first fault -/

theorem failureOf_optionalText (entries : List (String × Json)) (key : String) :
    failureOf (optionalText (foldKeys entries) key) = misfit? entries (key, .text) := by
  rw [optionalText, find?_foldKeys, misfit?]
  cases lastUnder entries key with
  | none => rfl
  | some v => cases v <;> rfl

theorem failureOf_flag (entries : List (String × Json)) (key : String) :
    failureOf (flag (foldKeys entries) key) = misfit? entries (key, .flag) := by
  rw [flag, find?_foldKeys, misfit?]
  cases lastUnder entries key with
  | none => rfl
  | some v => cases v <;> rfl

theorem failureOf_field (entries : List (String × Json)) :
    failureOf (field (foldKeys entries)) = Form.field.keys.findSome? (misfit? entries) := by
  rw [field, failureOf_bind fun _ _ => failureOf_bind fun _ _ => failureOf_bind fun _ _ => failureOf_bind fun _ _ =>
    failureOf_bind fun _ _ => failureOf_map _]
  simp only [failureOf_optionalText, failureOf_flag, Form.keys, findSome?_cons_eq_or, List.findSome?_nil,
    Option.or_none]

theorem failureOf_attributeSpec (entries : List (String × Json)) :
    failureOf (attributeSpec (foldKeys entries)) = Form.attribute.keys.findSome? (misfit? entries) := by
  rw [attributeSpec, failureOf_bind fun _ _ => failureOf_bind fun _ _ => failureOf_map _]
  simp only [failureOf_optionalText, Form.keys, findSome?_cons_eq_or, List.findSome?_nil, Option.or_none]

theorem descriptorAt_object {α : Type} (path : List String) (read : SortedMap Json → Except DescriptorFault α)
    (entries : List (String × Json)) :
    descriptorAt path read (.object entries) = (read (foldKeys entries)).mapError (.descriptor path) := by
  rw [descriptorAt]
  dsimp only [entriesAt, bind, Except.bind]
  cases read (foldKeys entries) <;> rfl

theorem failureOf_descriptorAt {α : Type} {read : SortedMap Json → Except DescriptorFault α} {form : Form}
    (h : ∀ entries, failureOf (read (foldKeys entries)) = form.keys.findSome? (misfit? entries)) (path : List String)
    (value : Json) : failureOf (descriptorAt path read value) = Place.error? ⟨path, form, value⟩ := by
  cases value with
  | object entries =>
    rw [descriptorAt_object, failureOf_mapError, h]
    rfl
  | null | bool | number | string | array => rfl

/-- Reading an object entry by entry fails at the object itself, or else at the first place within it that is wrong. -/
theorem failureOf_entries {α : Type} {read : α → String × Json → Except DocumentError α}
    {inner : String × Json → List Place} (h : ∀ a e, failureOf (read a e) = (inner e).findSome? Place.error?)
    (path : List String) (value : Json) (a : α) :
    failureOf (entriesAt path value >>= fun entries => entries.foldlM read a) =
      (objectPlaces path inner value).findSome? Place.error? := by
  cases value with
  | object entries =>
    change failureOf (entries.foldlM read a) = (entries.flatMap inner).findSome? Place.error?
    rw [failureOf_foldlM h, findSome?_flatMap]
  | null | bool | number | string | array => rfl

theorem typeKey_cases (key : String) :
    (Text.lowerAscii key = "properties" ∧ TypeKey.ofKey key = .properties) ∨
    (Text.lowerAscii key = "attributes" ∧ TypeKey.ofKey key = .attributes) ∨
    (Text.lowerAscii key = "documentation" ∧ TypeKey.ofKey key = .documentation) ∨
    ((∀ known ∈ ["properties", "attributes", "documentation"], Text.lowerAscii key ≠ known) ∧
      TypeKey.ofKey key = .other) := by
  rw [TypeKey.ofKey]
  split <;> simp_all

theorem sectionKey_cases (key : String) :
    (∃ kind, Text.lowerAscii key ∈ keysOf kind ∧ SectionKey.ofKey key = .types kind) ∨
    (Text.lowerAscii key ∉ sectionKeys ∧ (SectionKey.ofKey key = .version ∨ SectionKey.ofKey key = .unknown)) := by
  rw [SectionKey.ofKey]
  split
  · rename_i h
    exact Or.inl ⟨.resource, by simp [h, keysOf], rfl⟩
  · rename_i h
    exact Or.inl ⟨.resource, by simp [h, keysOf], rfl⟩
  · rename_i h
    exact Or.inl ⟨.property, by simp [h, keysOf], rfl⟩
  · rename_i h
    exact Or.inr ⟨by simp [h, sectionKeys, keysOf], Or.inl rfl⟩
  · rename_i h₁ h₂ h₃ h₄
    refine Or.inr ⟨?_, Or.inr rfl⟩
    simp only [sectionKeys, keysOf, List.cons_append, List.nil_append, List.mem_cons, List.not_mem_nil, or_false,
      not_or]
    exact ⟨h₁, h₂, h₃⟩

theorem mem_sectionKeys {key : String} {kind : TypeKind} (h : key ∈ keysOf kind) : key ∈ sectionKeys := by
  cases kind
  · exact List.mem_append_left _ h
  · exact List.mem_append_right _ h

theorem failureOf_readTypeEntry (path : List String) (spec : TypeSpec) (e : String × Json) :
    failureOf (readTypeEntry path spec e) = (typeEntryPlaces path e).findSome? Place.error? := by
  rw [readTypeEntry, typeEntryPlaces]
  rcases typeKey_cases e.1 with ⟨hkey, hof⟩ | ⟨hkey, hof⟩ | ⟨hkey, hof⟩ | ⟨hkey, hof⟩
  · simp only [hof, hkey, if_true]
    refine failureOf_entries (fun spec f => ?_) _ _ _
    rw [failureOf_map, failureOf_descriptorAt failureOf_field]
    simp
  · simp only [hof, hkey, String.reduceEq, if_false, if_true]
    refine failureOf_entries (fun spec a => ?_) _ _ _
    rw [failureOf_map, failureOf_descriptorAt failureOf_attributeSpec]
    simp
  · simp only [hof, hkey, String.reduceEq, if_false]
    rfl
  · simp only [hof, if_neg (hkey "properties" (by simp)), if_neg (hkey "attributes" (by simp))]
    rfl

theorem failureOf_readType (path : List String) (value : Json) :
    failureOf (readType path value) = (typePlaces path value).findSome? Place.error? :=
  failureOf_entries (failureOf_readTypeEntry path) _ _ _

theorem failureOf_readTypes (schema : Schema) (kind : TypeKind) (key : String) (value : Json) :
    failureOf (readTypes schema kind key value) =
      (objectPlaces [key] (fun t => typePlaces [key, t.1] t.2) value).findSome? Place.error? :=
  failureOf_entries (fun schema t => by rw [failureOf_map, failureOf_readType]) _ _ _

theorem failureOf_readSection (schema : Schema) (e : String × Json) :
    failureOf (readSection schema e) = (entryPlaces e).findSome? Place.error? := by
  rw [readSection, entryPlaces]
  rcases sectionKey_cases e.1 with ⟨kind, hkey, hof⟩ | ⟨hkey, hof | hof⟩
  · simp only [hof, if_pos (mem_sectionKeys hkey)]
    exact failureOf_readTypes schema kind e.1 e.2
  · simp only [hof, if_neg hkey]
    rfl
  · simp only [hof, if_neg hkey]
    rfl

theorem failureOf_ofJson_object (entries : List (String × Json)) :
    failureOf (Schema.ofJson (.object entries)) = (places (.object entries)).findSome? Place.error? := by
  rw [Schema.ofJson, failureOf_foldlM failureOf_readSection, places, members, findSome?_flatMap]

/-! ### A document is sound at all its places -/

theorem objectPlaces_sound_iff {path : List String} {inner : String × Json → List Place} {value : Json} :
    (∀ p ∈ objectPlaces path inner value, p.fault? = none) ↔
      ObjectOf (fun e => ∀ p ∈ inner e, p.fault? = none) value := by
  cases value with
  | object entries =>
    have hhere : Place.fault? ⟨path, .object, .object entries⟩ = none := rfl
    simp only [objectPlaces, members, List.forall_mem_cons, hhere, true_and, List.mem_flatMap, ObjectOf,
      Json.object.injEq, exists_eq_left']
    exact ⟨fun h e he p hp => h p ⟨e, he, hp⟩, fun h p ⟨e, he, hp⟩ => h e he p hp⟩
  | null | bool | number | string | array =>
    simp [objectPlaces, Place.fault?, ObjectOf]

theorem ObjectOf.congr {p q : String × Json → Prop} (h : ∀ e, p e ↔ q e) {value : Json} :
    ObjectOf p value ↔ ObjectOf q value := by
  simp only [ObjectOf, h]

theorem misfit?_text_eq_none_iff {entries : List (String × Json)} {key : String} :
    misfit? entries (key, .text) = none ↔ IsText (lastUnder entries key) := by
  rw [misfit?, IsText]
  cases lastUnder entries key with
  | none => simp
  | some v => cases v <;> simp [admits]

theorem misfit?_flag_eq_none_iff {entries : List (String × Json)} {key : String} :
    misfit? entries (key, .flag) = none ↔ IsFlag (lastUnder entries key) := by
  rw [misfit?, IsFlag]
  cases lastUnder entries key with
  | none => simp
  | some v => cases v <;> simp [admits]

theorem field_sound_iff {path : List String} {value : Json} :
    Place.fault? ⟨path, .field, value⟩ = none ↔ IsField value := by
  cases value with
  | object entries =>
    simp only [Place.fault?, Form.keys, List.findSome?_eq_none_iff, List.forall_mem_cons, List.not_mem_nil,
      false_implies, implies_true, and_true, misfit?_text_eq_none_iff, misfit?_flag_eq_none_iff, IsField,
      Json.object.injEq, exists_eq_left']
    constructor
    · rintro ⟨hdocumentation, hitem, hprimitiveItem, hprimitive, hrequired, htype⟩
      exact ⟨hrequired, hprimitive, hprimitiveItem, hitem, htype, hdocumentation⟩
    · rintro ⟨hrequired, hprimitive, hprimitiveItem, hitem, htype, hdocumentation⟩
      exact ⟨hdocumentation, hitem, hprimitiveItem, hprimitive, hrequired, htype⟩
  | null | bool | number | string | array => simp [Place.fault?, IsField]

theorem attribute_sound_iff {path : List String} {value : Json} :
    Place.fault? ⟨path, .attribute, value⟩ = none ↔ IsAttribute value := by
  cases value with
  | object entries =>
    simp only [Place.fault?, Form.keys, List.findSome?_eq_none_iff, List.forall_mem_cons, List.not_mem_nil,
      false_implies, implies_true, and_true, misfit?_text_eq_none_iff, IsAttribute, Json.object.injEq, exists_eq_left']
    exact and_left_comm
  | null | bool | number | string | array => simp [Place.fault?, IsAttribute]

theorem typeEntry_sound_iff {path : List String} {e : String × Json} :
    (∀ p ∈ typeEntryPlaces path e, p.fault? = none) ↔
      (Text.lowerAscii e.1 = "properties" → ObjectOf (fun f => IsField f.2) e.2) ∧
        (Text.lowerAscii e.1 = "attributes" → ObjectOf (fun a => IsAttribute a.2) e.2) := by
  rw [typeEntryPlaces]
  split
  · rename_i h
    simp [h, objectPlaces_sound_iff, field_sound_iff]
  · rename_i hfields
    split
    · rename_i h
      simp [h, objectPlaces_sound_iff, attribute_sound_iff]
    · rename_i hattributes
      simp [hfields, hattributes]

theorem type_sound_iff {path : List String} {value : Json} :
    (∀ p ∈ typePlaces path value, p.fault? = none) ↔ IsType value :=
  objectPlaces_sound_iff.trans (ObjectOf.congr fun _ => typeEntry_sound_iff)

theorem entry_sound_iff {e : String × Json} : (∀ p ∈ entryPlaces e, p.fault? = none) ↔
    (Text.lowerAscii e.1 ∈ sectionKeys → ObjectOf (fun t => IsType t.2) e.2) := by
  rw [entryPlaces]
  split
  · rename_i h
    rw [objectPlaces_sound_iff, ObjectOf.congr fun t => type_sound_iff]
    exact ⟨fun hvalue _ => hvalue, fun hvalue => hvalue h⟩
  · rename_i h
    simp [h]

theorem isDocument_object_iff {entries : List (String × Json)} :
    IsDocument (.object entries) ↔ ∀ p ∈ places (.object entries), p.fault? = none := by
  simp only [IsDocument, ObjectOf, Json.object.injEq, exists_eq_left', places, members, List.mem_flatMap]
  constructor
  · rintro h p ⟨e, he, hp⟩
    exact entry_sound_iff.mpr (h e he) p hp
  · intro h e he
    exact entry_sound_iff.mp fun p hp => h p ⟨e, he, hp⟩

/-! ### Reading a text -/

theorem failureOf_ofJson {value : Json} (h : ∀ entries, value ≠ .object entries) :
    failureOf (Schema.ofJson value) = some .rootNotObject := by
  cases value with
  | object entries => exact absurd rfl (h entries)
  | null | bool | number | string | array => rfl

theorem not_isDocument {value : Json} (h : ∀ entries, value ≠ .object entries) : ¬ IsDocument value := by
  rintro ⟨entries, hvalue, -⟩
  exact h entries hvalue

theorem not_firstFault {value : Json} (h : ∀ entries, value ≠ .object entries) {place : Place}
    {fault : DescriptorFault} : ¬ FirstFault value place fault := by
  rintro ⟨before, after, hplaces, -⟩
  cases value with
  | object entries => exact h entries rfl
  | null | bool | number | string | array => simp [places, members] at hplaces

theorem findSome?_error?_eq_some_iff {value : Json} {e : DocumentError} :
    (places value).findSome? Place.error? = some e ↔
      ∃ place fault, FirstFault value place fault ∧ e = .descriptor place.path fault := by
  have herror : ∀ p : Place, p.error? = none ↔ p.fault? = none := fun p => Option.map_eq_none_iff
  rw [List.findSome?_eq_some_iff]
  constructor
  · rintro ⟨before, place, after, hplaces, he, hbefore⟩
    obtain ⟨fault, hfault, rfl⟩ := Option.map_eq_some_iff.mp he
    exact ⟨place, fault, ⟨before, after, hplaces, hfault, fun p hp => (herror p).mp (hbefore p hp)⟩, rfl⟩
  · rintro ⟨place, fault, ⟨before, after, hplaces, hfault, hbefore⟩, rfl⟩
    exact ⟨before, place, after, hplaces, by rw [Place.error?, hfault]; rfl, fun p hp => (herror p).mpr (hbefore p hp)⟩

theorem exists_ofJson_eq_ok_iff {value : Json} : (∃ schema, Schema.ofJson value = .ok schema) ↔ IsDocument value := by
  rw [← failureOf_eq_none_iff]
  by_cases h : ∃ entries, value = .object entries
  · obtain ⟨entries, rfl⟩ := h
    have herror : ∀ p : Place, p.error? = none ↔ p.fault? = none := fun p => Option.map_eq_none_iff
    rw [failureOf_ofJson_object, isDocument_object_iff, List.findSome?_eq_none_iff]
    simp only [herror]
  · rw [not_exists] at h
    simp [failureOf_ofJson h, not_isDocument h]

theorem ofJson_eq_error_iff {value : Json} {e : DocumentError} : Schema.ofJson value = .error e ↔
    (e = .rootNotObject ∧ ∀ entries, value ≠ .object entries) ∨
      ∃ place fault, FirstFault value place fault ∧ e = .descriptor place.path fault := by
  rw [← failureOf_eq_some_iff]
  by_cases h : ∃ entries, value = .object entries
  · obtain ⟨entries, rfl⟩ := h
    rw [failureOf_ofJson_object, findSome?_error?_eq_some_iff]
    simp
  · rw [not_exists] at h
    simp [failureOf_ofJson h, not_firstFault h, h, eq_comm]

theorem ofText_of_parse {text : String} {value : Json} (h : Json.parse text = .ok value) :
    Schema.ofText text = Schema.ofJson value := by
  rw [Schema.ofText, h]

/-- A text that holds a value gives a schema exactly if the value is a document. Otherwise either the value is no
    object, or the first place of it with a fault is blamed, which is the first in order of keys. -/
theorem ofText_blames_first_fault {text : String} {value : Json} (h : Json.parse text = .ok value) :
    value.Ordered ∧ ((∃ schema, Schema.ofText text = .ok schema) ↔ IsDocument value) ∧
      ∀ e, Schema.ofText text = .error e ↔ (e = .rootNotObject ∧ ∀ entries, value ≠ .object entries) ∨
        ∃ place fault, FirstFault value place fault ∧ e = .descriptor place.path fault := by
  rw [ofText_of_parse h]
  exact ⟨Json.ordered_of_parse h, exists_ofJson_eq_ok_iff, fun e => ofJson_eq_error_iff⟩

/-- A document with two bad fields. The type of `x` is written twice, and the later one counts. -/
def twoFaults : String :=
  "\x7b\"resourcetypes\":\x7b\"A\":\x7b\"PROPERTIES\":\x7b\"y\":5,\"x\":\x7b\"type\":7,\"Type\":\"B\"" ++
    "\x7d\x7d\x7d\x7d,\"Attributes\":0\x7d"

def twoFaultsValue : Json := .object [
  ("Attributes", .number (.integer 0)),
  ("resourcetypes", .object [("A", .object [("PROPERTIES", .object [
    ("x", .object [("Type", .string "B"), ("type", .number (.integer 7))]),
    ("y", .number (.integer 5))])])])]

theorem ofText_blames_first_fault_twoFaults : Json.parse twoFaults = .ok twoFaultsValue ∧
    ¬ IsDocument twoFaultsValue ∧ Schema.ofText twoFaults =
      .error (.descriptor ["resourcetypes", "A", "PROPERTIES", "x"] (.mismatch (.number (.integer 7)) .text)) := by
  have hparse : Json.parse twoFaults = .ok twoFaultsValue := by with_unfolding_all rfl
  obtain ⟨-, hdocument, herror⟩ := ofText_blames_first_fault hparse
  have hfirst : FirstFault twoFaultsValue
      ⟨["resourcetypes", "A", "PROPERTIES", "x"], .field,
        .object [("Type", .string "B"), ("type", .number (.integer 7))]⟩ (.mismatch (.number (.integer 7)) .text) :=
    ⟨[_, _, _], [_], rfl, rfl, by simp [Place.fault?, Form.keys]⟩
  have hfails := (herror _).mpr (Or.inr ⟨_, _, hfirst, rfl⟩)
  refine ⟨hparse, fun h => ?_, hfails⟩
  obtain ⟨schema, hschema⟩ := hdocument.mpr h
  rw [hfails] at hschema
  cases hschema

end Document

end Typewright
