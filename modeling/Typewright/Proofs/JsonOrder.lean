import Typewright.Json.Reader
import Typewright.Proofs.ByteOrder
import Typewright.Proofs.Tables

/-! # Objects list their entries in order

In a value that has been read from a text, every object lists its entries in ascending order of the bytes of their
names, each name once. All containers that are open while a text is read keep to this (`State.Ordered`), so the value
does at the end. -/

namespace Typewright.Json

/-- All objects within a value list their entries in ascending order of bytes. -/
inductive Ordered : Json → Prop where
  | null : Ordered .null
  | bool (b : Bool) : Ordered (.bool b)
  | number (x : Number) : Ordered (.number x)
  | string (s : String) : Ordered (.string s)
  | array {items : List Json} : (∀ v ∈ items, Ordered v) → Ordered (.array items)
  | object {entries : List (String × Json)} : entries.Pairwise (fun a b => Text.utf8 a.1 < Text.utf8 b.1) →
      (∀ e ∈ entries, Ordered e.2) → Ordered (.object entries)

/-- The values of an object that is being read. -/
def OrderedValues (entries : SortedMap Json) : Prop := ∀ k v, entries.find? k = some v → Ordered v

theorem orderedValues_empty : OrderedValues .empty := nofun

theorem OrderedValues.insert {entries : SortedMap Json} (h : OrderedValues entries) {key : String} {value : Json}
    (hvalue : Ordered value) : OrderedValues (entries.insert key value) := by
  intro k v hv
  rw [SortedMap.find?_insert] at hv
  split at hv
  · cases hv
    exact hvalue
  · exact h k v hv

theorem OrderedValues.object {entries : SortedMap Json} (h : OrderedValues entries) :
    Ordered (.object entries.entries) :=
  .object (entries.ascending.imp Text.lt_iff_utf8_lt.mp) fun e he => h e.1 e.2 (SortedMap.find?_eq_some_iff.mpr he)

/-! ### States of the reader -/

def Frame.Ordered : Frame → Prop
  | .array items => ∀ v ∈ items, v.Ordered
  | .object entries _ => OrderedValues entries

def Due.Ordered : Due → Prop
  | .value | .firstItem | .nextItem => True
  | .firstKey entries | .nextKey entries | .colon entries _ | .entryEnd entries => OrderedValues entries
  | .itemEnd items => ∀ v ∈ items, v.Ordered
  | .nothing result => result.Ordered

/-- Every value that has been read so far is in order. -/
structure State.Ordered (s : State) : Prop where
  frames : ∀ f ∈ s.frames, f.Ordered
  due : s.due.Ordered

def Lexeme.Ordered : Lexeme → Prop
  | .scalar v => v.Ordered
  | _ => True

theorem lexeme_ordered (c : Char) (cs : List Char) : (lexeme c cs).1.Ordered := by
  unfold lexeme
  split
  · trivial
  · trivial
  · trivial
  · trivial
  · trivial
  · trivial
  · split <;> trivial
  · dsimp only
    split
    · trivial
    · exact .bool true
  · dsimp only
    split
    · trivial
    · exact .bool false
  · dsimp only
    split
    · trivial
    · exact .null
  · dsimp only
    split
    · trivial
    · exact .number _
  · dsimp only
    split
    · split
      · trivial
      · exact .number _
    · trivial

namespace State
variable {s s' : State} {frames : List Frame} {here : Reason → Fault} {l : Lexeme}

theorem ordered_complete (hframes : ∀ f ∈ frames, f.Ordered) {value : Json} (hvalue : value.Ordered) :
    (complete frames value).Ordered := by
  cases frames with
  | nil => exact ⟨hframes, hvalue⟩
  | cons f outer =>
    have hf := hframes f List.mem_cons_self
    have houter : ∀ f ∈ outer, f.Ordered := fun g hg => hframes g (List.mem_cons_of_mem _ hg)
    cases f with
    | array items =>
      refine ⟨houter, fun v hv => ?_⟩
      rcases List.mem_cons.mp hv with rfl | hv
      · exact hvalue
      · exact hf v hv
    | object entries key => exact ⟨houter, OrderedValues.insert hf hvalue⟩

theorem ordered_beginValue (hframes : ∀ f ∈ frames, f.Ordered) (hl : l.Ordered)
    (h : beginValue frames here l = .ok s') : s'.Ordered := by
  cases l with
  | openArray =>
    rw [beginValue] at h
    split at h
    · cases h
      refine ⟨fun f hf => ?_, trivial⟩
      rcases List.mem_cons.mp hf with rfl | hf
      · exact nofun
      · exact hframes f hf
    · cases h
  | openObject =>
    rw [beginValue] at h
    split at h
    · cases h
      exact ⟨hframes, orderedValues_empty⟩
    · cases h
  | text t =>
    cases h
    exact ordered_complete hframes (.string t)
  | scalar v =>
    cases h
    exact ordered_complete hframes hl
  | closeArray | closeObject | comma | colon | stray | brokenText | brokenScalar => cases h

theorem Ordered.step (hs : s.Ordered) (hl : l.Ordered) (h : s.step here l = .ok s') : s'.Ordered := by
  obtain ⟨frames, due⟩ := s
  have hframes : ∀ f ∈ frames, f.Ordered := hs.frames
  have hdue : due.Ordered := hs.due
  -- A value may begin in the first three cases; in the others only a few lexemes do not fail.
  cases due with
  | value => exact ordered_beginValue hframes hl h
  | firstItem =>
    unfold State.step at h
    dsimp only at h
    split at h
    · rename_i items outer
      cases h
      have hitems := hframes (.array items) List.mem_cons_self
      exact ordered_complete (fun f hf => hframes f (List.mem_cons_of_mem _ hf))
        (.array fun v hv => hitems v (List.mem_reverse.mp hv))
    · exact ordered_beginValue hframes hl h
  | nextItem =>
    unfold State.step at h
    dsimp only at h
    split at h
    · cases h
    · exact ordered_beginValue hframes hl h
  | firstKey entries =>
    cases l with
    | closeObject =>
      cases h
      exact ordered_complete hframes (OrderedValues.object hdue)
    | text key =>
      cases h
      exact ⟨hframes, hdue⟩
    | openArray | closeArray | openObject | comma | colon | scalar | brokenText | brokenScalar | stray => cases h
  | nextKey entries =>
    cases l with
    | text key =>
      cases h
      exact ⟨hframes, hdue⟩
    | openArray | closeArray | openObject | closeObject | comma | colon | scalar | brokenText | brokenScalar | stray =>
      cases h
  | colon entries key =>
    cases l with
    | colon =>
      cases h
      refine ⟨fun f hf => ?_, trivial⟩
      rcases List.mem_cons.mp hf with rfl | hf
      · exact hdue
      · exact hframes f hf
    | openArray | closeArray | openObject | closeObject | comma | text | scalar | brokenText | brokenScalar | stray =>
      cases h
  | itemEnd items =>
    cases l with
    | comma =>
      cases h
      refine ⟨fun f hf => ?_, trivial⟩
      rcases List.mem_cons.mp hf with rfl | hf
      · exact hdue
      · exact hframes f hf
    | closeArray =>
      cases h
      exact ordered_complete hframes (.array fun v hv => hdue v (List.mem_reverse.mp hv))
    | openArray | openObject | closeObject | colon | text | scalar | brokenText | brokenScalar | stray => cases h
  | entryEnd entries =>
    cases l with
    | comma =>
      cases h
      exact ⟨hframes, hdue⟩
    | closeObject =>
      cases h
      exact ordered_complete hframes (OrderedValues.object hdue)
    | openArray | closeArray | openObject | colon | text | scalar | brokenText | brokenScalar | stray => cases h
  | nothing result => cases h

theorem Ordered.run {cs : List Char} {value : Json} (hs : s.Ordered) (h : s.run cs = .ok value) : value.Ordered := by
  fun_induction State.run s cs with
  | case1 s =>
    obtain ⟨frames, due⟩ := s
    cases due with
    | nothing result =>
      cases h
      exact hs.due
    | value | firstItem | nextItem | firstKey | nextKey | colon | itemEnd | entryEnd => cases h
  | case2 s c rest hblank ih => exact ih hs h
  | case3 => cases h
  | case4 s c rest hblank l rest' hle hlexeme s' hstep ih =>
    have hl : l.Ordered := by
      have := lexeme_ordered c rest
      rwa [hlexeme] at this
    exact ih (hs.step hl hstep) h

end State

/-- A value that a text holds lists the entries of all its objects in ascending order of bytes. -/
theorem ordered_of_parse {text : String} {value : Json} (h : parse text = .ok value) : value.Ordered := by
  have hrun : State.start.run text.toList = .ok value := by
    unfold parse at h
    dsimp only at h
    split at h
    · rename_i v hv
      cases h
      exact hv
    · cases h
  have hstart : State.start.Ordered := ⟨nofun, trivial⟩
  exact hstart.run hrun

end Typewright.Json
