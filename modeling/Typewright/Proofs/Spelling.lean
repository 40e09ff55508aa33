import Typewright.Placement
import Typewright.Source.Identifier

/-! # How names are spelled

A name is plain if no character of it is a blank or could be part of a comment or a mark. As an identifier a plain
name is spelled as it is, at most with the mark of a raw form before it, so that plain names that are spelled alike
are equal. Lower case and snake case give plain names. -/

namespace Typewright

open Text Source

/-! ### Characters -/

namespace Text.Boundaries

/-- The code points of a set whose boundaries come in pairs. -/
def codes : Boundaries → List Nat
  | first :: next :: rest => List.range' first (next - first) ++ codes rest
  | _ => []

theorem foldl_of_lt {n : Nat} {bounds : Boundaries} (h : ∀ b ∈ bounds, n < b) (inside : Bool) :
    bounds.foldl (fun inside b => if b ≤ n then !inside else inside) inside = inside := by
  induction bounds with
  | nil => rfl
  | cons b bounds ih =>
    have hb : ¬ b ≤ n := Nat.not_le.mpr (h b List.mem_cons_self)
    rw [List.foldl_cons, if_neg hb, ih fun b' hb' => h b' (List.mem_cons_of_mem _ hb')]

theorem mem_codes {n : Nat} {bounds : Boundaries} (hascending : bounds.Pairwise (· < ·))
    (hpairs : bounds.length % 2 = 0) (h : bounds.contains n = true) : n ∈ bounds.codes := by
  fun_induction codes bounds with
  | case1 first next rest ih =>
    obtain ⟨hfirst, hnext, hrest⟩ := by simpa only [List.pairwise_cons] using hascending
    have hlt : first < next := hfirst next List.mem_cons_self
    rw [List.mem_append, List.mem_range'_1]
    by_cases hbehind : next ≤ n
    · rw [contains, List.foldl_cons, List.foldl_cons, if_pos hbehind, if_pos (by omega)] at h
      exact Or.inr (ih hrest (by simp only [List.length_cons] at hpairs; omega) h)
    · have hlater : ∀ b ∈ rest, n < b := fun b hb => by
        have := hnext b hb
        omega
      rw [contains, List.foldl_cons, List.foldl_cons, if_neg hbehind, foldl_of_lt hlater] at h
      by_cases hin : first ≤ n
      · exact Or.inl ⟨hin, by omega⟩
      · rw [if_neg hin] at h
        cases h
  | case2 bounds hshort =>
    match bounds, hshort with
    | [], _ => cases h
    | [_], _ => cases hpairs
    | first :: next :: rest, hshort => exact absurd rfl (hshort first next rest)

end Text.Boundaries

/-- A character that is no blank, and neither starts a comment nor stands in a mark. -/
def isPlain (c : Char) : Bool := !isBlank c && c != '/' && c != '#' && c != '\ufeff'

/-- The code points of all other characters. -/
def unplainCodes : List Nat :=
  [0x20, 0x23, 0x2f, 0x200e, 0x200f, 0xfeff] ++ List.range' 0x9 5 ++ whiteSpaceBounds.codes

theorem mem_unplainCodes {c : Char} (h : isPlain c = false) : c.toNat ∈ unplainCodes := by
  have hwhite : isWhiteSpace c = true → c.toNat ∈ unplainCodes := by
    intro hc
    rw [isWhiteSpace] at hc
    split at hc
    · rw [Bool.or_eq_true, beq_iff_eq, Bool.and_eq_true, decide_eq_true_eq, decide_eq_true_eq] at hc
      rcases hc with rfl | ⟨hlow, hhigh⟩
      · decide
      · have hlow : 9 ≤ c.toNat := hlow
        have hhigh : c.toNat ≤ 13 := hhigh
        exact List.mem_append_left _ (List.mem_append_right _ (List.mem_range'_1.mpr ⟨hlow, by omega⟩))
    · exact List.mem_append_right _ (Boundaries.mem_codes (by decide) (by decide) hc)
  simp only [isPlain, Bool.and_eq_false_iff, Bool.not_eq_false', bne_eq_false_iff_eq, isBlank, Bool.or_eq_true,
    beq_iff_eq] at h
  rcases h with ((((hc | rfl) | rfl) | rfl) | rfl) | rfl
  · exact hwhite hc
  all_goals decide

theorem isPlain_ofNat {n : Nat} (h : n ∉ unplainCodes) : isPlain (Char.ofNat n) = true := by
  by_cases hvalid : n.isValidChar
  · rw [Char.ofNat, dif_pos hvalid]
    cases hplain : isPlain (Char.ofNatAux n hvalid) with
    | true => rfl
    | false => exact absurd (mem_unplainCodes hplain) h
  · rw [Char.ofNat, dif_neg hvalid]
    decide

theorem isPlain_of_isAlphanumeric {c : Char} (h : isAlphanumeric c = true) : isPlain c = true := by
  have hnone : ∀ n ∈ unplainCodes, isAlphanumeric (Char.ofNat n) = false := by decide +kernel
  cases hplain : isPlain c with
  | true => rfl
  | false =>
    have hc := hnone c.toNat (mem_unplainCodes hplain)
    rw [Char.ofNat_toNat, h] at hc
    cases hc

theorem isPlain_lowerChar {c d : Char} (h : isPlain c = true) (hd : d ∈ lowerChar c) : isPlain d = true := by
  have hascii : ∀ c, isAscii c = true → isPlain c = true → isPlain c.toLower = true := forall_ascii (by decide)
  -- No run of small letters in the table meets a code point of the list.
  have hshifts : (unplainCodes.all fun n => caseShifts.all fun s =>
      Nat.blt n s.small || Nat.blt (s.small + (s.capitals.last - s.capitals.first)) n) = true := by decide +kernel
  rw [lowerChar] at hd
  split at hd
  · rename_i hc
    exact List.mem_singleton.mp hd ▸ hascii c hc h
  · split at hd
    · simp only [List.mem_cons, List.not_mem_nil, or_false] at hd
      rcases hd with rfl | rfl <;> decide
    · split at hd
      · rename_i s hs
        have hin := List.find?_some hs
        rw [Stride.contains, Bool.and_eq_true, Bool.and_eq_true, decide_eq_true_eq, decide_eq_true_eq] at hin
        rw [List.mem_singleton.mp hd]
        refine isPlain_ofNat fun hmem => ?_
        have hout := List.all_eq_true.mp (List.all_eq_true.mp hshifts _ hmem) s (List.mem_of_find?_eq_some hs)
        rw [Bool.or_eq_true, Nat.blt_eq, Nat.blt_eq] at hout
        omega
      · exact List.mem_singleton.mp hd ▸ h

/-! ### Names -/

/-- A name of plain characters only. -/
def Plain (name : String) : Prop := ∀ c ∈ name.toList, isPlain c = true

instance (name : String) : Decidable (Plain name) :=
  decidable_of_iff (name.toList.all isPlain = true) List.all_eq_true

theorem Plain.ofList {cs : List Char} (h : ∀ c ∈ cs, isPlain c = true) : Plain (String.ofList cs) := by
  rwa [Plain, String.toList_ofList]

theorem Plain.append {a b : String} (ha : Plain a) (hb : Plain b) : Plain (a ++ b) := by
  intro c hc
  rw [String.toList_append, List.mem_append] at hc
  exact hc.elim (ha c) (hb c)

section Words
variable {cs : List Char} {d : Char}

theorem mem_of_mem_splitColons (h : d ∈ (splitColons cs).flatten) : d ∈ cs := by
  fun_induction splitColons cs with
  | case1 => simp at h
  | case2 rest ih => exact List.mem_cons_of_mem _ (List.mem_cons_of_mem _ (ih (by simpa using h)))
  | case3 c rest _ ih =>
    rw [flatten_modifyHead (splitColons_ne_nil rest)] at h
    exact (List.mem_cons.mp h).elim (· ▸ List.mem_cons_self) fun hrest => List.mem_cons_of_mem _ (ih hrest)

theorem isPlain_lowerWord (h : ∀ c ∈ cs, isPlain c = true) (hd : d ∈ lowerWord cs) : isPlain d = true := by
  fun_induction lowerWord cs with
  | case1 => cases hd
  | case2 =>
    rw [List.mem_singleton.mp hd]
    decide
  | case3 c rest _ ih =>
    rcases List.mem_append.mp hd with hd | hd
    · exact isPlain_lowerChar (h c List.mem_cons_self) hd
    · exact ih (fun c hc => h c (List.mem_cons_of_mem _ hc)) hd

theorem isPlain_lowerAfter {before : List Char} (h : ∀ c ∈ cs, isPlain c = true) (hd : d ∈ lowerAfter before cs) :
    isPlain d = true := by
  fun_induction lowerAfter before cs with
  | case1 => cases hd
  | case2 before c rest ih =>
    rcases List.mem_append.mp hd with hd | hd
    · split at hd
      · split at hd
        all_goals
          rw [List.mem_singleton.mp hd]
          decide
      · exact isPlain_lowerChar (h c List.mem_cons_self) hd
    · exact ih (fun c hc => h c (List.mem_cons_of_mem _ hc)) hd

theorem mem_intercalate {separator : List Char} {pieces : List (List Char)}
    (h : d ∈ List.intercalate separator pieces) : d ∈ separator ∨ d ∈ pieces.flatten := by
  induction pieces with
  | nil => cases h
  | cons piece pieces ih =>
    by_cases hlast : pieces = []
    · subst hlast
      rw [List.intercalate_singleton] at h
      exact Or.inr (by simpa using h)
    · rw [List.intercalate_cons_of_ne_nil hlast, List.mem_append, List.mem_append] at h
      rcases h with (h | h) | h
      · exact Or.inr (List.mem_append_left _ h)
      · exact Or.inl h
      · exact (ih h).imp_right (List.mem_append_right _)

/-- Snake case has letters, digits and underscores only. -/
theorem plain_snakeName (name : String) : Plain (snakeName name) := by
  refine Plain.ofList fun d hd => ?_
  rcases mem_intercalate hd with hd | hd
  · rw [List.mem_singleton.mp hd]
    decide
  · obtain ⟨word, hword, hd⟩ := List.mem_flatten.mp hd
    obtain ⟨letters, hletters, rfl⟩ := List.mem_map.mp hword
    refine isPlain_lowerWord (fun c hc => isPlain_of_isAlphanumeric ?_) hd
    have hkept := List.mem_flatten.mpr ⟨letters, hletters, hc⟩
    rw [flatten_words] at hkept
    exact (List.mem_filter.mp hkept).2

theorem plain_memberName (name : String) : Plain (memberName name) := by
  rw [memberName]
  split
  · exact (plain_snakeName name).append (by decide)
  · exact plain_snakeName name

end Words

/-! ### Placements -/

theorem Plain.lowerText {name : String} (h : Plain name) : Plain (Text.lowerText name) :=
  Plain.ofList fun _ hc => isPlain_lowerAfter h hc

theorem Plain.segments {name segment : String} (h : Plain name) (hsegment : segment ∈ TypeName.segments name) :
    Plain segment := by
  obtain ⟨letters, hletters, rfl⟩ := List.mem_map.mp hsegment
  obtain ⟨piece, hpiece, hletters⟩ := List.mem_flatMap.mp hletters
  refine Plain.ofList fun c hc => h c ?_
  have hcut := List.mem_flatten.mpr ⟨letters, hletters, hc⟩
  rw [flatten_splitWhere] at hcut
  exact mem_of_mem_splitColons (List.mem_flatten.mpr ⟨piece, hpiece, (List.mem_filter.mp hcut).1⟩)

theorem mem_stripVendor {vendor : Option String} {namespaces : List String} {name : String}
    (h : name ∈ Placement.stripVendor vendor namespaces) : name ∈ namespaces := by
  unfold Placement.stripVendor at h
  split at h
  · split at h
    · exact List.mem_cons_of_mem _ h
    · exact h
  · exact h

/-- The settings give the two roots plain names. -/
def Config.PlainRoots (config : Config) : Prop := Plain config.resourceRoot ∧ Plain config.propertyRoot

instance (config : Config) : Decidable config.PlainRoots :=
  inferInstanceAs (Decidable (Plain config.resourceRoot ∧ Plain config.propertyRoot))

/-- All names of a placement are plain. -/
structure Placement.IsPlain (p : Placement) : Prop where
  modules : ∀ name ∈ p.modulePath, Plain name
  className : Plain p.className
  builderName : Plain p.builderName

theorem isPlain_ofType {id : TypeId} {config : Config} (hname : Plain id.name) (hroots : config.PlainRoots) :
    (Placement.ofType id config).IsPlain := by
  have hclass : Plain (Placement.ofType id config).className := by
    cases hlast : (TypeName.segments id.name).getLast? with
    | none => simpa only [Placement.ofType, hlast, Option.getD_none] using hname
    | some last =>
      have hsegment := hname.segments (List.mem_of_getLast? hlast)
      simpa only [Placement.ofType, hlast, Option.getD_some] using hsegment
  refine ⟨fun name hmem => ?_, hclass, hclass.append (by decide)⟩
  rcases List.mem_cons.mp hmem with rfl | hmem
  · obtain ⟨kind, _⟩ := id
    cases kind with
    | property => exact hroots.2
    | resource => exact hroots.1
  · have hlower : name ∈ (TypeName.segments id.name).dropLast.map Text.lowerText := by
      have hmem : name ∈ Placement.namespaceOf id.kind config (TypeName.segments id.name).dropLast := hmem
      unfold Placement.namespaceOf at hmem
      split at hmem
      · cases hmem
      · exact mem_stripVendor hmem
    obtain ⟨segment, hsegment, rfl⟩ := List.mem_map.mp hlower
    exact (hname.segments (List.dropLast_subset _ hsegment)).lowerText

/-! ### Identifiers -/

namespace Source
variable {cs : List Char} {name word : String}

/-- An identifier without the mark of a raw form. The language takes identifiers that are equal without it for the
    same. -/
def bare (word : String) : String :=
  match word.toList with
  | 'r' :: '#' :: letters => String.ofList letters
  | _ => word

theorem skipBlank_of_plain (h : ∀ c ∈ cs, isPlain c = true) : skipBlank cs = cs := by
  cases cs with
  | nil => rw [skipBlank]
  | cons c cs =>
    have hc := h c List.mem_cons_self
    simp only [isPlain, Bool.and_eq_true, Bool.not_eq_true', bne_iff_ne] at hc
    obtain ⟨⟨⟨hblank, hslash⟩, -⟩, -⟩ := hc
    have hcomment : afterComment c cs = none := by
      unfold afterComment
      split <;> first | exact absurd rfl hslash | rfl
    rw [skipBlank, if_neg (Bool.eq_false_iff.mp hblank), hcomment]

theorem name?_of_plain {c : Char} (h : ∀ d ∈ cs, isPlain d = true) : name? c cs = word? c cs := by
  have hsharp : '#' ∉ cs := fun hmem => absurd (h _ hmem) (by decide)
  unfold name?
  split
  · exact absurd List.mem_cons_self hsharp
  · exact absurd List.mem_cons_self hsharp
  · rfl

theorem withoutMark_of_plain (h : ∀ c ∈ cs, isPlain c = true) : withoutMark cs = cs := by
  unfold withoutMark
  split
  · exact absurd (h _ List.mem_cons_self) (by decide)
  · rfl

theorem soleName?_of_plain (h : ∀ c ∈ cs, isPlain c = true) (hword : soleName? cs = some word) :
    word = String.ofList cs := by
  rw [soleName?, withoutMark_of_plain h, skipBlank_of_plain h] at hword
  split at hword
  · cases hword
  · rename_i c cs
    have hrest : ∀ d ∈ cs, isPlain d = true := fun d hd => h d (List.mem_cons_of_mem _ hd)
    rw [name?_of_plain hrest, word?] at hword
    split at hword
    · rename_i rest _ hsplit
      split at hsplit
      · cases hsplit
        split at hword
        · rename_i hempty
          have hbehind : ∀ d ∈ cs.dropWhile isIdentifierContinue, isPlain d = true :=
            fun d hd => hrest d ((List.dropWhile_sublist _).subset hd)
          rw [skipBlank_of_plain hbehind, List.isEmpty_iff] at hempty
          have hall : cs.takeWhile isIdentifierContinue = cs := by
            have happend : cs.takeWhile isIdentifierContinue ++ cs.dropWhile isIdentifierContinue = cs :=
              List.takeWhile_append_dropWhile
            rwa [hempty, List.append_nil] at happend
          rw [hall] at hword
          exact (Option.some.inj hword).symm
        · cases hword
      · cases hsplit
    · cases hword

/-- A plain name is spelled as it is, at most as a raw form. -/
theorem bare_identifier (h : Plain name) (hword : identifier name = .ok word) : bare word = name := by
  rw [identifier] at hword
  split at hword
  · cases hword
  split at hword
  · cases hword
    rw [bare, String.toList_append]
    exact String.ofList_toList
  split at hword
  · rename_i sole hsole
    split at hword
    · cases hword
    · cases hword
      obtain rfl := soleName?_of_plain h hsole
      rw [String.ofList_toList, bare]
      split
      · rename_i hraw
        exact absurd (h '#' (by simp [hraw])) (by decide)
      · rfl
  · cases hword

theorem eq_invalidIdentifier {e : RenderError} (h : identifier name = .error e) : e = .invalidIdentifier name := by
  rw [identifier] at h
  split at h
  · exact (Except.error.inj h).symm
  split at h
  · cases h
  split at h
  · split at h
    · exact (Except.error.inj h).symm
    · cases h
  · exact (Except.error.inj h).symm

end Source

end Typewright
