import Typewright.Proofs.Tables
import Typewright.Schema.Merge

/-! # The first definer wins

A merge holds the types of all its documents. Of each type it holds the fields, the attributes and the documentation
that any document gives, and each of these as the earliest document has it that gives it. Each of the two sections is
merged by itself. -/

namespace Typewright

namespace TypeSpec
variable {a b : TypeSpec}

theorem find?_fields_merge (name : String) :
    (a.merge b).fields.find? name = (a.fields.find? name).or (b.fields.find? name) := by
  rw [merge, SortedMap.find?_unionWith]
  cases a.fields.find? name <;> cases b.fields.find? name <;> rfl

theorem find?_attributes_merge (name : String) :
    (a.merge b).attributes.find? name = (a.attributes.find? name).or (b.attributes.find? name) := by
  rw [merge, SortedMap.find?_unionWith]
  cases a.attributes.find? name <;> cases b.attributes.find? name <;> rfl

end TypeSpec

namespace Schema

/-! ### What a document says of a type -/

/-- The field of that name that a document gives a type. -/
def field? (d : Schema) (id : TypeId) (name : String) : Option Field := (d.find? id).bind (·.fields.find? name)

/-- The attribute of that name that a document gives a type. -/
def attribute? (d : Schema) (id : TypeId) (name : String) : Option Attribute :=
  (d.find? id).bind (·.attributes.find? name)

/-- The documentation that a document gives a type. -/
def documentation? (d : Schema) (id : TypeId) : Option String := (d.find? id).bind (·.documentation)

/-- `x` is what the earliest of the documents gives that give anything. -/
def Earliest {β : Type} (documents : List Schema) (given : Schema → Option β) (x : β) : Prop :=
  ∃ before d after, documents = before ++ d :: after ∧ given d = some x ∧ ∀ e ∈ before, given e = none

/-- A merge gives something if one of the documents does, and then what the earliest of them gives. -/
def GivesEarliest {β : Type} (documents : List Schema) (merged : Schema) (given : Schema → Option β) : Prop :=
  ((given merged).isSome ↔ ∃ d ∈ documents, (given d).isSome) ∧
    ∀ x, given merged = some x ↔ Earliest documents given x

/-- What the merge of documents is. -/
structure FirstDefined (documents : List Schema) (merged : Schema) : Prop where
  declared : ∀ id, (merged.find? id).isSome ↔ ∃ d ∈ documents, (d.find? id).isSome
  fields : ∀ id name, GivesEarliest documents merged (·.field? id name)
  attributes : ∀ id name, GivesEarliest documents merged (·.attribute? id name)
  documentation : ∀ id, GivesEarliest documents merged (·.documentation? id)

/-! ### Merging two documents -/

section Step
variable (a b : Schema) (id : TypeId)

theorem sectionOf_merge (kind : TypeKind) :
    (merge a b).sectionOf kind = (a.sectionOf kind).unionWith TypeSpec.merge (b.sectionOf kind) := by
  cases kind <;> rfl

theorem find?_merge : (merge a b).find? id =
    match a.find? id, b.find? id with
    | some x, some y => some (x.merge y)
    | some x, none => some x
    | none, y => y := by
  rw [Catalogue.find?, sectionOf_merge, SortedMap.find?_unionWith, Catalogue.find?, Catalogue.find?]
  cases (a.sectionOf id.kind).find? id.name <;> cases (b.sectionOf id.kind).find? id.name <;> rfl

theorem isSome_find?_merge : ((merge a b).find? id).isSome = ((a.find? id).isSome || (b.find? id).isSome) := by
  rw [find?_merge]
  cases a.find? id <;> cases b.find? id <;> rfl

theorem bind_find?_merge {β : Type} {given : TypeSpec → Option β}
    (h : ∀ x y : TypeSpec, given (x.merge y) = (given x).or (given y)) :
    ((merge a b).find? id).bind given = ((a.find? id).bind given).or ((b.find? id).bind given) := by
  rw [find?_merge]
  cases a.find? id with
  | none => simp
  | some x =>
    cases b.find? id with
    | none => simp
    | some y => simp [h]

end Step

/-! ### Merging all of them -/

/-- What two documents give in this order, all documents give in theirs. -/
theorem foldl_merge_eq_findSome? {β : Type} {given : Schema → Option β}
    (h : ∀ a b, given (merge a b) = (given a).or (given b)) (rest : List Schema) :
    ∀ first, given (rest.foldl merge first) = (first :: rest).findSome? given := by
  -- The first document stands for the merge of all documents so far.
  induction rest with
  | nil =>
    intro first
    cases hfirst : given first with
    | none => simp [hfirst]
    | some x => simp [hfirst]
  | cons next rest ih =>
    intro first
    rw [List.foldl_cons, ih, List.findSome?_cons, h]
    cases hfirst : given first with
    | none => simp [List.findSome?_cons, hfirst]
    | some x => simp [hfirst]

theorem givesEarliest_foldl {β : Type} {given : Schema → Option β}
    (h : ∀ a b, given (merge a b) = (given a).or (given b)) (first : Schema) (rest : List Schema) :
    GivesEarliest (first :: rest) (rest.foldl merge first) given := by
  rw [GivesEarliest, foldl_merge_eq_findSome? h]
  refine ⟨List.findSome?_isSome_iff, fun x => ?_⟩
  rw [List.findSome?_eq_some_iff]
  rfl

theorem isSome_find?_foldl_merge (id : TypeId) (rest : List Schema) : ∀ first : Schema,
    ((rest.foldl merge first).find? id).isSome ↔ ∃ d ∈ first :: rest, (d.find? id).isSome := by
  induction rest with
  | nil => simp
  | cons next rest ih =>
    intro first
    rw [List.foldl_cons, ih]
    simp [isSome_find?_merge, or_assoc]

theorem sectionOf_foldl_merge (kind : TypeKind) (rest : List Schema) : ∀ first : Schema,
    (rest.foldl merge first).sectionOf kind =
      (rest.map (·.sectionOf kind)).foldl (SortedMap.unionWith TypeSpec.merge) (first.sectionOf kind) := by
  induction rest with
  | nil => exact fun _ => rfl
  | cons next rest ih =>
    intro first
    rw [List.foldl_cons, ih, sectionOf_merge]
    rfl

theorem firstDefined_foldl (first : Schema) (rest : List Schema) :
    FirstDefined (first :: rest) (rest.foldl merge first) where
  declared id := isSome_find?_foldl_merge id rest first
  fields id name := givesEarliest_foldl (fun a b => bind_find?_merge a b id fun _ _ =>
    TypeSpec.find?_fields_merge name) first rest
  attributes id name := givesEarliest_foldl (fun a b => bind_find?_merge a b id fun _ _ =>
    TypeSpec.find?_attributes_merge name) first rest
  documentation id := givesEarliest_foldl (fun a b => bind_find?_merge a b id fun _ _ => rfl) first rest

/-- No documents cannot be merged. Any others can; their merge takes everything from the earliest document that has it,
    and what it has in one section depends on that section of the documents only. -/
theorem mergeAll_first_definer : mergeAll [] = .error .noDocuments ∧
    ∀ documents ≠ [], ∃ merged, mergeAll documents = .ok merged ∧ FirstDefined documents merged ∧
      ∀ (kind : TypeKind) (others : List Schema) (merged' : Schema), mergeAll others = .ok merged' →
        others.map (·.sectionOf kind) = documents.map (·.sectionOf kind) →
          merged'.sectionOf kind = merged.sectionOf kind := by
  refine ⟨rfl, fun documents hne => ?_⟩
  cases documents with
  | nil => exact absurd rfl hne
  | cons first rest =>
    refine ⟨rest.foldl merge first, rfl, firstDefined_foldl first rest, ?_⟩
    intro kind others merged' hmerged hsections
    cases others with
    | nil => cases hmerged
    | cons first' rest' =>
      cases hmerged
      rw [List.map_cons, List.map_cons, List.cons.injEq] at hsections
      rw [sectionOf_foldl_merge, sectionOf_foldl_merge, hsections.1, hsections.2]

/-- Three documents about one property type, of which the last also has a resource type of that name. -/
def editions : List Schema := [
  ⟨.empty, .ofList [("P", { fields := .ofList [("x", .ofPrimitive "A")] })]⟩,
  ⟨.empty, .ofList [("P", {
    fields := .ofList [("x", .ofPrimitive "B"), ("y", .ofPrimitive "B")]
    documentation := some "http://b" })]⟩,
  ⟨.ofList [("P", {
    fields := .ofList [("x", .ofPrimitive "C")]
    attributes := .ofList [("Arn", .ofPrimitive "String")] })],
   .ofList [("P", {
    fields := .ofList [("y", .ofPrimitive "C")]
    documentation := some "http://c" })]⟩]

theorem mergeAll_first_definer_editions : editions ≠ [] ∧ ∃ merged, mergeAll editions = .ok merged ∧
    merged.field? ⟨.property, "P"⟩ "x" = some (.ofPrimitive "A") ∧
    merged.field? ⟨.property, "P"⟩ "y" = some (.ofPrimitive "B") ∧
    merged.documentation? ⟨.property, "P"⟩ = some "http://b" ∧
    merged.field? ⟨.resource, "P"⟩ "x" = some (.ofPrimitive "C") ∧
    merged.attribute? ⟨.resource, "P"⟩ "Arn" = some (.ofPrimitive "String") := by
  have hne : editions ≠ [] := List.cons_ne_nil _ _
  obtain ⟨merged, hmerged, hfirst, -⟩ := mergeAll_first_definer.2 editions hne
  refine ⟨hne, merged, hmerged, ?_, ?_, ?_, ?_, ?_⟩
  · exact ((hfirst.fields _ _).2 _).mpr ⟨[], _, _, rfl, by decide, by decide⟩
  · exact ((hfirst.fields _ _).2 _).mpr ⟨[_], _, _, rfl, by decide, by decide⟩
  · exact ((hfirst.documentation _).2 _).mpr ⟨[_], _, _, rfl, by decide, by decide⟩
  · exact ((hfirst.fields _ _).2 _).mpr ⟨[_, _], _, _, rfl, by decide, by decide⟩
  · exact ((hfirst.attributes _ _).2 _).mpr ⟨[_, _], _, _, rfl, by decide, by decide⟩

end Schema

end Typewright
