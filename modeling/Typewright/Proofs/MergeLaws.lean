import Mathlib.Data.List.Pairwise
import Typewright.Proofs.Merging

/-! # The laws of merging

Merging lets the first one win: how the documents are grouped does not matter, and a document that comes again adds
nothing. The order of the documents matters only where two of them contradict each other (`Agree`). -/

namespace Typewright

/-! ### Combining so that the first one wins -/

/-- Grouping does not matter, and what has been combined already adds nothing when it comes again. -/
structure FirstWins {α : Type} (f : α → α → α) : Prop where
  assoc (x y z : α) : f (f x y) z = f x (f y z)
  absorb (x y : α) : f (f x y) x = f x y
  idem (x : α) : f x x = x

namespace FirstWins
variable {α : Type} {f : α → α → α}

theorem left : FirstWins fun (x _ : α) => x := ⟨fun _ _ _ => rfl, fun _ _ => rfl, fun _ => rfl⟩

theorem or : FirstWins (Option.or : Option α → Option α → Option α) where
  assoc x y z := by cases x <;> rfl
  absorb x y := by cases x <;> cases y <;> rfl
  idem x := by cases x <;> rfl

theorem merge (h : FirstWins f) : FirstWins (Option.merge f) where
  assoc x y z := by cases x <;> cases y <;> cases z <;> simp [h.assoc]
  absorb x y := by cases x <;> cases y <;> simp [h.absorb, h.idem]
  idem x := by cases x <;> simp [h.idem]

/-- Things that are known by what they answer are combined like their answers. -/
theorem of_answers {β ι : Type} {op : β → β → β} {answer : ι → β → α} (h : FirstWins f)
    (hext : ∀ x y, (∀ i, answer i x = answer i y) → x = y)
    (hop : ∀ i x y, answer i (op x y) = f (answer i x) (answer i y)) : FirstWins op where
  assoc x y z := hext _ _ fun i => by simp only [hop, h.assoc]
  absorb x y := hext _ _ fun i => by simp only [hop, h.absorb]
  idem x := hext _ _ fun i => by simp only [hop, h.idem]

end FirstWins

namespace SortedMap
variable {α : Type} {f : α → α → α}

theorem find?_unionWith_eq_merge (f : α → α → α) (m n : SortedMap α) (k : String) :
    (m.unionWith f n).find? k = Option.merge f (m.find? k) (n.find? k) := by
  rw [find?_unionWith]
  cases m.find? k <;> cases n.find? k <;> rfl

theorem firstWins_unionWith (h : FirstWins f) : FirstWins (unionWith f) :=
  h.merge.of_answers (fun _ _ => ext_find?) fun k m n => find?_unionWith_eq_merge f m n k

theorem empty_unionWith (m : SortedMap α) : empty.unionWith f m = m :=
  ext_find? fun k => by simp [find?_unionWith_eq_merge]

theorem unionWith_empty (m : SortedMap α) : m.unionWith f empty = m :=
  ext_find? fun k => by simp [find?_unionWith_eq_merge]

/-- What both maps have a value for has the same one in both. -/
def Agree (m n : SortedMap α) : Prop := ∀ k x y, m.find? k = some x → n.find? k = some y → x = y

theorem agree_iff {m n : SortedMap α} : m.Agree n ↔ ∀ e ∈ m.entries, ∀ e' ∈ n.entries, e.1 = e'.1 → e.2 = e'.2 := by
  constructor
  · rintro h ⟨k, x⟩ hx ⟨k', y⟩ hy rfl
    exact h k x y (find?_eq_some_iff.mpr hx) (find?_eq_some_iff.mpr hy)
  · intro h k x y hx hy
    exact h (k, x) (find?_eq_some_iff.mp hx) (k, y) (find?_eq_some_iff.mp hy) rfl

instance [DecidableEq α] (m n : SortedMap α) : Decidable (m.Agree n) := decidable_of_iff _ agree_iff.symm

end SortedMap

namespace TypeSpec

theorem firstWins_merge : FirstWins merge where
  assoc a b c := by
    simp only [merge, mk.injEq]
    exact ⟨(SortedMap.firstWins_unionWith .left).assoc _ _ _, (SortedMap.firstWins_unionWith .left).assoc _ _ _,
      FirstWins.or.assoc _ _ _⟩
  absorb a b := by
    simp only [merge, mk.injEq]
    exact ⟨(SortedMap.firstWins_unionWith .left).absorb _ _, (SortedMap.firstWins_unionWith .left).absorb _ _,
      FirstWins.or.absorb _ _⟩
  idem a := by
    obtain ⟨fields, attributes, documentation⟩ := a
    simp only [merge, mk.injEq]
    exact ⟨(SortedMap.firstWins_unionWith .left).idem _, (SortedMap.firstWins_unionWith .left).idem _,
      FirstWins.or.idem _⟩

/-- Two descriptions of a type do not contradict each other. -/
structure Agree (a b : TypeSpec) : Prop where
  fields : a.fields.Agree b.fields
  attributes : a.attributes.Agree b.attributes
  documentation : ∀ x ∈ a.documentation, ∀ y ∈ b.documentation, x = y

theorem agree_iff {a b : TypeSpec} : a.Agree b ↔ a.fields.Agree b.fields ∧ a.attributes.Agree b.attributes ∧
    ∀ x ∈ a.documentation, ∀ y ∈ b.documentation, x = y :=
  ⟨fun h => ⟨h.fields, h.attributes, h.documentation⟩, fun h => ⟨h.1, h.2.1, h.2.2⟩⟩

instance (a b : TypeSpec) : Decidable (a.Agree b) := decidable_of_iff _ agree_iff.symm

theorem ext_find? {a b : TypeSpec} (hfields : ∀ name, a.fields.find? name = b.fields.find? name)
    (hattributes : ∀ name, a.attributes.find? name = b.attributes.find? name)
    (hdocumentation : a.documentation = b.documentation) : a = b := by
  obtain ⟨fields, attributes, documentation⟩ := a
  obtain ⟨fields', attributes', documentation'⟩ := b
  rw [mk.injEq]
  exact ⟨SortedMap.ext_find? hfields, SortedMap.ext_find? hattributes, hdocumentation⟩

end TypeSpec

namespace Schema
variable {x y z : Schema}

/-! ### Grouping documents -/

theorem firstWins_merge : FirstWins merge :=
  (SortedMap.firstWins_unionWith TypeSpec.firstWins_merge).of_answers (fun _ _ => Catalogue.ext_sectionOf)
    fun kind a b => sectionOf_merge a b kind

theorem empty_merge (x : Schema) : merge Catalogue.empty x = x :=
  Catalogue.ext_sectionOf fun kind => by
    rw [sectionOf_merge]
    cases kind <;> exact SortedMap.empty_unionWith _

theorem merge_empty (x : Schema) : merge x Catalogue.empty = x :=
  Catalogue.ext_sectionOf fun kind => by
    rw [sectionOf_merge]
    cases kind <;> exact SortedMap.unionWith_empty _

theorem foldl_merge_merge (x : Schema) (rest : List Schema) : ∀ y : Schema,
    rest.foldl merge (merge x y) = merge x (rest.foldl merge y) := by
  induction rest with
  | nil => intro y; rfl
  | cons next rest ih =>
    intro y
    rw [List.foldl_cons, List.foldl_cons, firstWins_merge.assoc, ih]

/-- A group of documents counts as the one document that it merges into. -/
theorem foldl_merge_flatten {groups : List (List Schema)} {merged : List Schema}
    (h : List.Forall₂ (fun group m => mergeAll group = .ok m) groups merged) : ∀ first : Schema,
    groups.flatten.foldl merge first = merged.foldl merge first := by
  induction h with
  | nil => intro first; rfl
  | @cons group m _ _ hgroup _ ih =>
    intro first
    rw [List.flatten_cons, List.foldl_append, ih]
    cases group with
    | nil => cases hgroup
    | cons head tail =>
      cases hgroup
      rw [List.foldl_cons, List.foldl_cons, foldl_merge_merge]

theorem exists_mapM_mergeAll {groups : List (List Schema)} (h : ∀ group ∈ groups, group ≠ []) :
    ∃ merged, groups.mapM mergeAll = .ok merged := by
  refine exists_mapM_eq_pure fun group hgroup => ?_
  obtain ⟨first, rest, rfl⟩ := List.exists_cons_of_ne_nil (h group hgroup)
  exact ⟨_, rfl⟩

theorem mergeAll_flatten {groups : List (List Schema)} {merged : List Schema} (h : groups.mapM mergeAll = .ok merged) :
    mergeAll merged = mergeAll groups.flatten := by
  have hgroups := forall₂_mapM_ok h
  cases hgroups with
  | nil => rfl
  | @cons group m groups merged hgroup hrest =>
    cases group with
    | nil => cases hgroup
    | cons first rest =>
      cases hgroup
      rw [List.flatten_cons, List.cons_append, mergeAll, mergeAll, List.foldl_append, foldl_merge_flatten hrest]

/-! ### Documents in any order -/

/-- What two documents say of a type does not differ. -/
def Agree (a b : Schema) : Prop := ∀ id x y, a.find? id = some x → b.find? id = some y → x.Agree y

theorem agree_iff {a b : Schema} : Agree a b ↔ ∀ e ∈ a.toList, ∀ e' ∈ b.toList, e.1 = e'.1 → e.2.Agree e'.2 := by
  simp only [Catalogue.mem_toList_iff]
  constructor
  · rintro h ⟨id, x⟩ hx ⟨id', y⟩ hy rfl
    exact h id x y hx hy
  · intro h id x y hx hy
    exact h (id, x) hx (id, y) hy rfl

instance (a b : Schema) : Decidable (Agree a b) := decidable_of_iff _ agree_iff.symm

/-- Schemas are equal if they declare the same types and say the same of each. -/
theorem ext_given (hdeclared : ∀ id, (x.find? id).isSome = (y.find? id).isSome)
    (hfields : ∀ id name, x.field? id name = y.field? id name)
    (hattributes : ∀ id name, x.attribute? id name = y.attribute? id name)
    (hdocumentation : ∀ id, x.documentation? id = y.documentation? id) : x = y := by
  refine Catalogue.ext_find? fun id => ?_
  specialize hdeclared id
  specialize hfields id
  specialize hattributes id
  specialize hdocumentation id
  cases hx : x.find? id <;> cases hy : y.find? id <;>
    simp only [field?, attribute?, documentation?, hx, hy, Option.bind_some, Option.isSome_some, Option.isSome_none,
      reduceCtorEq] at hdeclared hfields hattributes hdocumentation
  · rfl
  · rw [TypeSpec.ext_find? hfields hattributes hdocumentation]

/-- Where the documents give the same if they give anything, the earliest one stands for all. -/
theorem GivesEarliest.eq_some_iff {β : Type} {documents : List Schema} {merged : Schema} {given : Schema → Option β}
    (h : GivesEarliest documents merged given)
    (hagree : ∀ a ∈ documents, ∀ b ∈ documents, ∀ x y, given a = some x → given b = some y → x = y) {x : β} :
    given merged = some x ↔ ∃ d ∈ documents, given d = some x := by
  constructor
  · intro hx
    obtain ⟨before, d, after, rfl, hd, -⟩ := (h.2 x).mp hx
    exact ⟨d, by simp, hd⟩
  · rintro ⟨d, hd, hx⟩
    obtain ⟨y, hy⟩ := Option.isSome_iff_exists.mp (h.1.mpr ⟨d, hd, by simp [hx]⟩)
    obtain ⟨before, e, after, rfl, he, -⟩ := (h.2 y).mp hy
    have hxy : y = x := hagree e (by simp) d hd y x he hx
    exact hxy ▸ hy

/-- What agreeing documents give of a type does not depend on their order. -/
theorem GivesEarliest.perm {β : Type} {documents documents' : List Schema} {id : TypeId} {view : TypeSpec → Option β}
    (h : GivesEarliest documents x fun d => (d.find? id).bind view)
    (h' : GivesEarliest documents' y fun d => (d.find? id).bind view)
    (hview : ∀ s t : TypeSpec, s.Agree t → ∀ u v, view s = some u → view t = some v → u = v)
    (hperm : documents.Perm documents') (hagree : ∀ a ∈ documents, ∀ b ∈ documents, Agree a b) :
    (x.find? id).bind view = (y.find? id).bind view := by
  -- Documents that agree give the same in every respect in which both give something.
  have hsame : ∀ a ∈ documents, ∀ b ∈ documents, ∀ u v,
      (a.find? id).bind view = some u → (b.find? id).bind view = some v → u = v := by
    intro a ha b hb u v hu hv
    obtain ⟨s, hs, hu⟩ := Option.bind_eq_some_iff.mp hu
    obtain ⟨t, ht, hv⟩ := Option.bind_eq_some_iff.mp hv
    exact hview s t (hagree a ha b hb id s t hs ht) u v hu hv
  have hsame' : ∀ a ∈ documents', ∀ b ∈ documents', ∀ u v,
      (a.find? id).bind view = some u → (b.find? id).bind view = some v → u = v :=
    fun a ha b hb => hsame a (hperm.mem_iff.mpr ha) b (hperm.mem_iff.mpr hb)
  ext u
  rw [h.eq_some_iff hsame, h'.eq_some_iff hsame']
  simp only [hperm.mem_iff]

theorem FirstDefined.eq_of_perm {documents documents' : List Schema} (h : FirstDefined documents x)
    (h' : FirstDefined documents' y) (hperm : documents.Perm documents')
    (hagree : ∀ a ∈ documents, ∀ b ∈ documents, Agree a b) : x = y := by
  refine ext_given (fun id => ?_) (fun id name => ?_) (fun id name => ?_) fun id => ?_
  · rw [Bool.eq_iff_iff, h.declared, h'.declared]
    simp only [hperm.mem_iff]
  · exact (h.fields id name).perm (h'.fields id name) (fun s t hst => hst.fields name) hperm hagree
  · exact (h.attributes id name).perm (h'.attributes id name) (fun s t hst => hst.attributes name) hperm hagree
  · exact (h.documentation id).perm (h'.documentation id) (fun s t hst u v hu hv => hst.documentation u hu v hv) hperm
      hagree

theorem Agree.refl (a : Schema) : Agree a a := by
  intro id x y hx hy
  rw [hx] at hy
  cases hy
  exact ⟨fun _ _ _ h h' => Option.some.inj (h.symm.trans h'), fun _ _ _ h h' => Option.some.inj (h.symm.trans h'),
    fun _ h _ h' => Option.some.inj (h.symm.trans h')⟩

theorem Agree.symm {a b : Schema} (h : Agree a b) : Agree b a := fun id x y hx hy =>
  have hyx := h id y x hy hx
  ⟨fun k u v hu hv => (hyx.fields k v u hv hu).symm, fun k u v hu hv => (hyx.attributes k v u hv hu).symm,
    fun u hu v hv => (hyx.documentation v hv u hu).symm⟩

instance : Std.Symm Agree := ⟨fun _ _ => Agree.symm⟩

theorem mergeAll_eq_of_perm {documents documents' : List Schema} (hperm : documents.Perm documents')
    (hagree : documents.Pairwise Agree) : mergeAll documents = mergeAll documents' := by
  have hany : ∀ a ∈ documents, ∀ b ∈ documents, Agree a b := fun a ha b hb =>
    List.Pairwise.forall_of_forall (fun a _ => Agree.refl a) hagree ha hb
  cases documents with
  | nil => rw [hperm.nil_eq]
  | cons first rest =>
    cases documents' with
    | nil => exact absurd hperm.symm (List.not_perm_nil_cons _ _)
    | cons first' rest' =>
      rw [mergeAll, mergeAll, (firstDefined_foldl first rest).eq_of_perm (firstDefined_foldl first' rest') hperm hany]

/-- Merging is associative, an empty schema leaves the other one as it is, and what has been merged in already adds
    nothing. So documents may be merged in groups first. If they agree, their order makes no difference. -/
theorem merge_laws :
    (∀ x y z, merge (merge x y) z = merge x (merge y z)) ∧
    (∀ x, merge Catalogue.empty x = x ∧ merge x Catalogue.empty = x) ∧
    (∀ x, merge x x = x) ∧
    (∀ x y, merge (merge x y) x = merge x y) ∧
    (∀ groups : List (List Schema), (∀ group ∈ groups, group ≠ []) →
      ∃ merged, groups.mapM mergeAll = .ok merged ∧ mergeAll merged = mergeAll groups.flatten) ∧
    ∀ documents documents', documents.Perm documents' → documents.Pairwise Agree →
      mergeAll documents = mergeAll documents' := by
  refine ⟨firstWins_merge.assoc, fun x => ⟨empty_merge x, merge_empty x⟩, firstWins_merge.idem, firstWins_merge.absorb,
    fun groups hgroups => ?_, fun _ _ => mergeAll_eq_of_perm⟩
  obtain ⟨merged, hmerged⟩ := exists_mapM_mergeAll hgroups
  exact ⟨merged, hmerged, mergeAll_flatten hmerged⟩

/-- Three documents that complete one another. -/
def chapters : List Schema := [
  ⟨.empty, .ofList [("P", { fields := .ofList [("x", .ofPrimitive "A")] })]⟩,
  ⟨.empty, .ofList [("P", {
    fields := .ofList [("x", .ofPrimitive "A"), ("y", .ofPrimitive "B")]
    documentation := some "http://b" })]⟩,
  ⟨.ofList [("P", { attributes := .ofList [("Arn", .ofPrimitive "String")] })],
   .ofList [("P", { fields := .ofList [("y", .ofPrimitive "B"), ("z", .ofPrimitive "C")] })]⟩]

theorem merge_laws_chapters : (∀ group ∈ [chapters.take 1, chapters.drop 1], group ≠ []) ∧
    (∃ merged, [chapters.take 1, chapters.drop 1].mapM mergeAll = .ok merged ∧ mergeAll merged = mergeAll chapters) ∧
    chapters.Perm chapters.reverse ∧ chapters.Pairwise Agree ∧ mergeAll chapters = mergeAll chapters.reverse ∧
    ¬ editions.Pairwise Agree := by
  have hgroups : ∀ group ∈ [chapters.take 1, chapters.drop 1], group ≠ [] := by simp [chapters]
  have hperm : chapters.Perm chapters.reverse := (List.reverse_perm chapters).symm
  have hagree : chapters.Pairwise Agree := by decide
  exact ⟨hgroups, merge_laws.2.2.2.2.1 _ hgroups, hperm, hagree, merge_laws.2.2.2.2.2 _ _ hperm hagree, by decide⟩

end Schema

end Typewright
