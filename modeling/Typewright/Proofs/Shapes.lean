import Typewright.Proofs.Documents
import Typewright.Proofs.Merging

/-! # Shapes are set or not there

Reading a document leaves out a shape that is the empty text, and merging takes every field as a document has it. So no
shape of a merged schema is empty. -/

namespace Typewright

/-! ### What a step gives -/

section Steps
variable {ε α β : Type} {p : α → Prop} {r : β → Prop}

/-- Only what has a property comes out of a step. -/
def Gives (p : α → Prop) (x : Except ε α) : Prop := ∀ a, x = .ok a → p a

theorem gives_ok {a : α} (h : p a) : Gives p (.ok a : Except ε α) := by
  intro a' heq
  cases heq
  exact h

theorem Gives.bind {x : Except ε α} {f : α → Except ε β} (h : ∀ a, x = .ok a → Gives r (f a)) : Gives r (x >>= f) := by
  intro b hb
  obtain ⟨a, ha, hb⟩ := bind_eq_ok_iff.mp hb
  exact h a ha b hb

/-- What holds at first and after every step holds after a run through a list. -/
theorem Gives.foldlM {f : β → α → Except ε β} (h : ∀ b, r b → ∀ a, Gives r (f b a)) (xs : List α) : ∀ {b : β}, r b →
    Gives r (xs.foldlM f b) := by
  induction xs with
  | nil => exact fun hb => gives_ok hb
  | cons x xs ih =>
    intro b hb
    rw [List.foldlM_cons]
    exact Gives.bind fun b' hb' => ih (h b hb x b' hb')

end Steps

/-! ### Shapes that are set are not empty -/

namespace SortedMap
variable {α : Type} {p : α → Prop} {m n : SortedMap α}

theorem forall_insert {k : String} {v : α} (h : ∀ e ∈ m.entries, p e.2) (hv : p v) :
    ∀ e ∈ (m.insert k v).entries, p e.2 := by
  intro e he
  rcases mem_insertEntry he with rfl | he
  · exact hv
  · exact h e he

theorem forall_unionWith {f : α → α → α} (hf : ∀ a b, p a → p b → p (f a b)) (hm : ∀ e ∈ m.entries, p e.2)
    (hn : ∀ e ∈ n.entries, p e.2) : ∀ e ∈ (m.unionWith f n).entries, p e.2 := by
  rintro ⟨k, v⟩ he
  have hfind := find?_eq_some_iff.mpr he
  rw [find?_unionWith] at hfind
  split at hfind
  · rename_i a b ha hb
    cases hfind
    exact hf a b (hm _ (find?_eq_some_iff.mp ha)) (hn _ (find?_eq_some_iff.mp hb))
  · rename_i ha _
    cases hfind
    exact hm _ (find?_eq_some_iff.mp ha)
  · exact hn _ (find?_eq_some_iff.mp hfind)

end SortedMap

theorem TypeSpec.Clean.merge {a b : TypeSpec} (ha : a.Clean) (hb : b.Clean) : (a.merge b).Clean :=
  ⟨SortedMap.forall_unionWith (fun _ _ hleft _ => hleft) ha.1 hb.1,
    SortedMap.forall_unionWith (fun _ _ hleft _ => hleft) ha.2 hb.2⟩

namespace Schema

theorem clean_iff {schema : Schema} : schema.Clean ↔ ∀ kind, ∀ e ∈ (schema.sectionOf kind).entries, e.2.Clean :=
  Catalogue.forall_mem_toList_iff

theorem Clean.insert {schema : Schema} {spec : TypeSpec} (h : schema.Clean) (hspec : spec.Clean) (id : TypeId) :
    Schema.Clean (Catalogue.insert schema id spec) := by
  intro t ht
  have hfind := Catalogue.mem_toList_iff.mp ht
  rw [Catalogue.find?_insert] at hfind
  split at hfind
  · cases hfind
    exact hspec
  · exact h t (Catalogue.mem_toList_iff.mpr hfind)

theorem Clean.merge {a b : Schema} (ha : a.Clean) (hb : b.Clean) : (Schema.merge a b).Clean := by
  refine clean_iff.mpr fun kind => ?_
  rw [sectionOf_merge]
  exact SortedMap.forall_unionWith (fun _ _ hx hy => hx.merge hy) (clean_iff.mp ha kind) (clean_iff.mp hb kind)

theorem clean_foldl_merge {rest : List Schema} : ∀ {first : Schema}, (∀ d ∈ first :: rest, Schema.Clean d) →
    (rest.foldl merge first).Clean := by
  induction rest with
  | nil => exact fun h => h _ List.mem_cons_self
  | cons next rest ih =>
    intro first h
    obtain ⟨hfirst, hnext, hrest⟩ := List.forall_mem_cons.mp h |>.imp_right List.forall_mem_cons.mp
    exact ih (List.forall_mem_cons.mpr ⟨hfirst.merge hnext, hrest⟩)

theorem clean_of_mergeAll {documents : List Schema} {merged : Schema} (h : mergeAll documents = .ok merged)
    (hclean : ∀ d ∈ documents, Schema.Clean d) : merged.Clean := by
  cases documents with
  | nil => cases h
  | cons first rest =>
    cases h
    exact clean_foldl_merge hclean

end Schema

namespace Document

theorem nonEmpty_ne (s : Option String) : nonEmpty s ≠ some "" := by
  intro h
  simpa using (Option.filter_eq_some_iff.mp h).2

theorem gives_field (descriptor : SortedMap Json) : Gives Field.Clean (field descriptor) := by
  refine Gives.bind fun documentation _ => Gives.bind fun item _ => Gives.bind fun primitiveItem _ =>
    Gives.bind fun primitive _ => Gives.bind fun required _ => Gives.bind fun typeName _ => gives_ok ?_
  simp [Field.Clean, Field.shapes, nonEmpty_ne]

theorem gives_attributeSpec (descriptor : SortedMap Json) : Gives Attribute.Clean (attributeSpec descriptor) := by
  refine Gives.bind fun primitiveItem _ => Gives.bind fun primitive _ => Gives.bind fun typeName _ => gives_ok ?_
  simp [Attribute.Clean, nonEmpty_ne]

theorem gives_descriptorAt {α : Type} {p : α → Prop} {read : SortedMap Json → Except DescriptorFault α}
    (h : ∀ descriptor, Gives p (read descriptor)) (path : List String) (value : Json) :
    Gives p (descriptorAt path read value) := by
  cases value with
  | object entries =>
    rw [descriptorAt_object]
    exact fun a ha => h _ a (mapError_eq_ok_iff.mp ha)
  | null | bool | number | string | array => nofun

theorem gives_readTypeEntry (path : List String) {spec : TypeSpec} (hspec : spec.Clean) (e : String × Json) :
    Gives TypeSpec.Clean (readTypeEntry path spec e) := by
  rw [readTypeEntry]
  split
  · refine Gives.bind fun entries _ => Gives.foldlM (fun spec hspec e => Gives.bind fun f hf => ?_) entries hspec
    exact gives_ok ⟨SortedMap.forall_insert hspec.1 (gives_descriptorAt gives_field _ _ _ hf), hspec.2⟩
  · refine Gives.bind fun entries _ => Gives.foldlM (fun spec hspec e => Gives.bind fun a ha => ?_) entries hspec
    exact gives_ok ⟨hspec.1, SortedMap.forall_insert hspec.2 (gives_descriptorAt gives_attributeSpec _ _ _ ha)⟩
  · exact gives_ok hspec
  · exact gives_ok hspec

theorem gives_readType (path : List String) (value : Json) : Gives TypeSpec.Clean (readType path value) :=
  Gives.bind fun entries _ => Gives.foldlM (fun _ hspec => gives_readTypeEntry path hspec) entries ⟨nofun, nofun⟩

theorem gives_readSection {schema : Schema} (h : schema.Clean) (e : String × Json) :
    Gives Schema.Clean (readSection schema e) := by
  rw [readSection]
  split
  · refine Gives.bind fun entries _ => Gives.foldlM (fun schema hschema t => Gives.bind fun spec hspec => ?_) entries h
    exact gives_ok (hschema.insert (gives_readType _ _ _ hspec) _)
  · exact gives_ok h
  · exact gives_ok h

/-- Reading gives no empty shape. -/
theorem gives_ofJson : ∀ value : Json, Gives Schema.Clean (Schema.ofJson value)
  | .object entries => Gives.foldlM (fun _ hschema => gives_readSection hschema) entries nofun
  | .null | .bool _ | .number _ | .string _ | .array _ => nofun

/-- The schemas that documents describe are those without empty shapes. -/
theorem exists_ofJson_iff_clean {schema : Schema} : (∃ value, Schema.ofJson value = .ok schema) ↔ schema.Clean :=
  ⟨fun ⟨value, h⟩ => gives_ofJson value schema h, fun h => ⟨_, ofJson_of_writes (writes_ofSchema schema) h⟩⟩

theorem clean_of_ofText {text : String} {schema : Schema} (h : Schema.ofText text = .ok schema) : schema.Clean := by
  rw [Schema.ofText] at h
  split at h
  · exact gives_ofJson _ _ h
  · cases h

end Document

end Typewright
