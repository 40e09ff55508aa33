import Mathlib.Data.List.TakeWhile
import Typewright.Proofs.Refusals

/-! # Members in ASCII

Snake case cuts a name into words and loses none of its letters and digits. In ASCII the words are small letters and
digits, and snake case cuts what it has joined at the same places again, so a member is its own member. -/

namespace Typewright

open Text Source

namespace Text

/-! ### Words -/

section Words
variable {cs w : List Char} {c : Char} {pieces : List (List Char)}

theorem ne_nil_of_mem_modifyHead (h : ∀ w ∈ pieces.tail, w ≠ [])
    (hw : w ∈ pieces.modifyHead (c :: ·)) : w ≠ [] := by
  cases pieces with
  | nil => cases hw
  | cons piece pieces =>
    rcases List.mem_cons.mp hw with rfl | hw
    · exact List.cons_ne_nil _ _
    · exact h w hw

theorem ne_nil_of_mem_wordsOfPiece (mode : CaseMode) (cs : List Char) : (∀ w ∈ (wordsOfPiece mode cs).tail, w ≠ []) ∧
    (mode ≠ .capital → ∀ w ∈ wordsOfPiece mode cs, w ≠ []) := by
  -- Only where the scan has just seen a capital can the first word be empty; it then goes on the word that holds it.
  fun_induction wordsOfPiece mode cs with
  | case1 => simp
  | case2 => simp
  | case3 mode c next rest _ ih =>
    have hrest := ih.2 (by decide)
    exact ⟨hrest, fun _ => List.forall_mem_cons.mpr ⟨List.cons_ne_nil _ _, hrest⟩⟩
  | case4 mode c next rest _ h ih =>
    exact ⟨fun w hw => ne_nil_of_mem_modifyHead ih.1 hw, fun hmode => absurd h.1 hmode⟩
  | case5 mode c next rest _ _ ih =>
    have hall := fun w hw => ne_nil_of_mem_modifyHead (w := w) (c := c) ih.1 hw
    exact ⟨fun w hw => hall w (List.mem_of_mem_tail hw), fun _ => hall⟩

theorem ne_nil_of_mem_words (hw : w ∈ words cs) : w ≠ [] := by
  obtain ⟨piece, -, hw⟩ := List.mem_flatMap.mp hw
  exact (ne_nil_of_mem_wordsOfPiece .fresh piece).2 (by decide) w hw

end Words

/-! ### Words of small letters and digits -/

/-- A character of a word in snake case: a small letter or a digit. -/
def isSnakeChar (c : Char) : Bool := c.isLower || c.isDigit

theorem isAscii_of_isAlphanum (c : Char) (h : c.isAlphanum = true) : isAscii c = true := by
  have hle : ∀ last : Char, isAscii last = true → c.val ≤ last.val → isAscii c = true := fun last hlast hc =>
    decide_eq_true (Nat.lt_of_le_of_lt hc (of_decide_eq_true hlast))
  rcases Bool.or_eq_true_iff.mp h with hletter | hdigit
  · rcases Bool.or_eq_true_iff.mp hletter with hupper | hlower
    · exact hle 'Z' (by decide) (of_decide_eq_true hupper).2
    · exact hle 'z' (by decide) (of_decide_eq_true (Bool.and_eq_true_iff.mp hlower).2)
  · exact hle '9' (by decide) (of_decide_eq_true (Bool.and_eq_true_iff.mp hdigit).2)

theorem isAscii_of_isSnakeChar (c : Char) (h : isSnakeChar c = true) : isAscii c = true := by
  have hletters : (c.isUpper || c.isLower || c.isDigit) = true := by
    rw [Bool.or_assoc]
    exact Bool.or_eq_true_iff.mpr (.inr h)
  exact isAscii_of_isAlphanum c hletters

theorem isAlphanumeric_of_isSnakeChar : ∀ c, isSnakeChar c = true → isAlphanumeric c = true :=
  forall_of_isAscii isAscii_of_isSnakeChar (by decide)

theorem isIdentifierContinue_of_isSnakeChar : ∀ c, isSnakeChar c = true → isIdentifierContinue c = true :=
  forall_of_isAscii isAscii_of_isSnakeChar (by decide)

theorem isCapital_of_isSnakeChar : ∀ c, isSnakeChar c = true → isCapital c = false :=
  forall_of_isAscii isAscii_of_isSnakeChar (by decide)

theorem toLower_of_isSnakeChar : ∀ c, isSnakeChar c = true → c.toLower = c :=
  forall_of_isAscii isAscii_of_isSnakeChar (by decide)

theorem isSnakeChar_toLower : ∀ c, Char.isAlphanum c = true → isSnakeChar c.toLower = true :=
  forall_of_isAscii isAscii_of_isAlphanum (by decide)

theorem isIdentifierStart_toLower_iff :
    ∀ c, Char.isAlphanum c = true → (isIdentifierStart c.toLower = true ↔ c.isAlpha = true) :=
  forall_of_isAscii isAscii_of_isAlphanum (by decide)

/-- A word of snake case. -/
structure IsSnakeWord (word : List Char) : Prop where
  ne_nil : word ≠ []
  small : ∀ c ∈ word, isSnakeChar c = true

theorem lowerWord_ascii {cs : List Char} (h : ∀ c ∈ cs, isAscii c = true) : lowerWord cs = cs.map Char.toLower := by
  fun_induction lowerWord cs with
  | case1 => rfl
  | case2 => exact absurd (h 'Σ' List.mem_cons_self) (by decide)
  | case3 c rest _ ih =>
    rw [lowerChar, if_pos (h c List.mem_cons_self), ih fun d hd => h d (List.mem_cons_of_mem _ hd)]
    rfl

section SnakeWords
variable {mode : CaseMode} {cs word : List Char} {ws : List (List Char)}

theorem IsSnakeWord.lowerWord_eq (h : IsSnakeWord word) : lowerWord word = word := by
  rw [lowerWord_ascii fun c hc => isAscii_of_isSnakeChar c (h.small c hc)]
  exact (List.map_congr_left fun c hc => toLower_of_isSnakeChar c (h.small c hc)).trans (List.map_id' word)

theorem wordsOfPiece_of_small (hne : cs ≠ []) (h : ∀ c ∈ cs, isCapital c = false) : wordsOfPiece mode cs = [cs] := by
  fun_induction wordsOfPiece mode cs with
  | case1 => exact absurd rfl hne
  | case2 => rfl
  | case3 mode c next rest hcut => simp [h next (by simp)] at hcut
  | case4 mode c next rest _ hcut => simp [h c (by simp)] at hcut
  | case5 mode c next rest _ _ ih =>
    rw [ih (List.cons_ne_nil _ _) fun d hd => h d (List.mem_cons_of_mem _ hd)]
    rfl

theorem IsSnakeWord.wordsOfPiece (h : IsSnakeWord word) : wordsOfPiece .fresh word = [word] :=
  wordsOfPiece_of_small h.ne_nil fun c hc => isCapital_of_isSnakeChar c (h.small c hc)

theorem IsSnakeWord.uncut (h : IsSnakeWord word) : ∀ c ∈ word, (!isAlphanumeric c) = false :=
  fun c hc => by rw [isAlphanumeric_of_isSnakeChar c (h.small c hc), Bool.not_true]

theorem IsSnakeWord.words_eq (h : IsSnakeWord word) : words word = [word] := by
  rw [words, splitWhere_eq_splitOnP, List.splitOnP_eq_singleton h.uncut, List.flatMap_singleton, h.wordsOfPiece]

theorem IsSnakeWord.words_append (h : IsSnakeWord word) (rest : List Char) :
    words (word ++ '_' :: rest) = word :: words rest := by
  rw [words, splitWhere_eq_splitOnP, List.splitOnP_append_cons_of_forall_mem h.uncut '_' (by decide) rest,
    ← splitWhere_eq_splitOnP, List.flatMap_cons, h.wordsOfPiece, List.singleton_append, words]

/-- Joined words are cut where they have been joined. -/
theorem words_intercalate : ∀ {ws : List (List Char)}, (∀ w ∈ ws, IsSnakeWord w) →
    words (List.intercalate ['_'] ws) = ws
  | [], _ => rfl
  | [w], h => by rw [List.intercalate_singleton, (h w List.mem_cons_self).words_eq]
  | w :: w' :: ws, h => by
    rw [List.forall_mem_cons] at h
    rw [List.intercalate_cons_of_ne_nil (List.cons_ne_nil _ _), List.append_assoc, List.singleton_append,
      h.1.words_append, words_intercalate h.2]

/-- An underscore at the end begins no word. -/
theorem words_concat (cs : List Char) : words (cs ++ ['_']) = words cs := by
  rw [words, splitWhere_eq_splitOnP, List.splitOnP_append_cons cs [] (by decide), List.splitOnP_nil,
    List.flatMap_append, ← splitWhere_eq_splitOnP, ← words, List.flatMap_singleton, wordsOfPiece, List.append_nil]

theorem snakeCase_intercalate (h : ∀ w ∈ ws, IsSnakeWord w) :
    snakeCase (List.intercalate ['_'] ws) = List.intercalate ['_'] ws := by
  rw [snakeCase, words_intercalate h, List.map_congr_left fun w hw => (h w hw).lowerWord_eq, List.map_id']

theorem snakeCase_concat (cs : List Char) : snakeCase (cs ++ ['_']) = snakeCase cs := by
  rw [snakeCase, words_concat, snakeCase]

theorem filter_intercalate : ∀ {ws : List (List Char)}, (∀ w ∈ ws, IsSnakeWord w) →
    (List.intercalate ['_'] ws).filter (· != '_') = ws.flatten
  | [], _ => rfl
  | w :: ws, h => by
    rw [List.forall_mem_cons] at h
    have hword : w.filter (· != '_') = w := List.filter_eq_self.mpr fun c hc => by
      rw [bne_iff_ne]
      rintro rfl
      exact absurd (h.1.small _ hc) (by decide)
    by_cases hlast : ws = []
    · subst hlast
      rw [List.intercalate_singleton, hword, List.flatten_singleton]
    · rw [List.intercalate_cons_of_ne_nil hlast, List.filter_append, List.filter_append, hword, filter_intercalate h.2]
      simp

theorem head?_intercalate (h : ∀ w ∈ ws, w ≠ []) : (List.intercalate ['_'] ws).head? = ws.flatten.head? := by
  cases ws with
  | nil => rfl
  | cons w ws =>
    obtain ⟨c, w, rfl⟩ := List.exists_cons_of_ne_nil (h w List.mem_cons_self)
    by_cases hlast : ws = []
    · subst hlast
      simp
    · simp [List.intercalate_cons_of_ne_nil hlast]

theorem exists_snakeWords (h : ∀ c ∈ cs, isAscii c = true) : ∃ ws, (∀ w ∈ ws, IsSnakeWord w) ∧
    ws.flatten = (cs.filter Char.isAlphanum).map Char.toLower ∧ snakeCase cs = List.intercalate ['_'] ws := by
  have hkept : cs.filter isAlphanumeric = cs.filter Char.isAlphanum :=
    List.filter_congr fun c hc => by rw [isAlphanumeric, if_pos (h c hc)]
  have hflatten : (words cs).flatten = cs.filter Char.isAlphanum := (flatten_words cs).trans hkept
  have hmem : ∀ w ∈ words cs, ∀ c ∈ w, c.isAlphanum = true := fun w hw c hc => by
    have hc : c ∈ (words cs).flatten := List.mem_flatten.mpr ⟨w, hw, hc⟩
    rw [hflatten] at hc
    exact (List.mem_filter.mp hc).2
  have hlower : (words cs).map lowerWord = (words cs).map (List.map Char.toLower) :=
    List.map_congr_left fun w hw => lowerWord_ascii fun c hc => isAscii_of_isAlphanum c (hmem w hw c hc)
  refine ⟨(words cs).map (List.map Char.toLower), fun w hw => ?_, ?_, by rw [snakeCase, hlower]⟩
  · obtain ⟨letters, hletters, rfl⟩ := List.mem_map.mp hw
    refine ⟨fun hnil => ne_nil_of_mem_words hletters (List.map_eq_nil_iff.mp hnil), fun c hc => ?_⟩
    obtain ⟨d, hd, rfl⟩ := List.mem_map.mp hc
    exact isSnakeChar_toLower d (hmem letters hletters d hd)
  · rw [← List.map_flatten, hflatten]

end SnakeWords

end Text

/-! ### Members -/

/-- A name of small letters, digits and underscores. -/
def InSnakeCase (name : String) : Prop := ∀ c ∈ name.toList, c = '_' ∨ isSnakeChar c = true

instance (name : String) : Decidable (InSnakeCase name) :=
  decidable_of_iff ((name.toList.all fun c => c == '_' || isSnakeChar c) = true) (by simp [InSnakeCase])

theorem InSnakeCase.append {a b : String} (ha : InSnakeCase a) (hb : InSnakeCase b) : InSnakeCase (a ++ b) := by
  intro c hc
  rw [String.toList_append, List.mem_append] at hc
  exact hc.elim (ha c) (hb c)

section Members
variable {name : String} {ws : List (List Char)}

/-- The name is the words, joined. -/
structure Joins (ws : List (List Char)) (name : String) : Prop where
  words : ∀ w ∈ ws, IsSnakeWord w
  name_eq : name = String.ofList (List.intercalate ['_'] ws)

namespace Joins

theorem toList_eq (h : Joins ws name) : name.toList = List.intercalate ['_'] ws := by
  rw [h.name_eq, String.toList_ofList]

theorem inSnakeCase (h : Joins ws name) : InSnakeCase name := by
  intro c hc
  rw [h.toList_eq] at hc
  refine (mem_intercalate hc).imp List.mem_singleton.mp fun hc => ?_
  obtain ⟨w, hw, hc⟩ := List.mem_flatten.mp hc
  exact (h.words w hw).small c hc

theorem eq_intercalate (h : Joins ws name) : name = "_".intercalate (ws.map String.ofList) := by
  refine String.toList_inj.mp ?_
  rw [h.toList_eq, String.toList_intercalate, List.map_map]
  simp [Function.comp_def]

theorem snakeName_eq (h : Joins ws name) : snakeName name = name := by
  have hdots : name.toList.filter (· != '.') = name.toList := List.filter_eq_self.mpr fun c hc => by
    rcases h.inSnakeCase c hc with rfl | hsmall
    · rfl
    · rw [bne_iff_ne]
      rintro rfl
      exact absurd hsmall (by decide)
  rw [snakeName, hdots, h.toList_eq, snakeCase_intercalate h.words, ← h.name_eq]

end Joins

/-- An underscore at the end of a name is not in its snake case. -/
theorem snakeName_concat (name : String) : snakeName (name ++ "_") = snakeName name := by
  have hdots : (name ++ "_").toList.filter (· != '.') = name.toList.filter (· != '.') ++ ['_'] := by
    rw [String.toList_append, List.filter_append]
    rfl
  rw [snakeName, hdots, snakeCase_concat, snakeName]

theorem exists_joins (h : ∀ c ∈ name.toList, isAscii c = true) : ∃ ws, Joins ws (snakeName name) ∧
    ws.flatten = (name.toList.filter Char.isAlphanum).map Char.toLower := by
  obtain ⟨ws, hws, hflatten, hsnake⟩ := exists_snakeWords fun c hc => h c (List.mem_filter.mp hc).1
  refine ⟨ws, ⟨hws, by rw [snakeName, hsnake]⟩, ?_⟩
  have hdots : (name.toList.filter (· != '.')).filter Char.isAlphanum = name.toList.filter Char.isAlphanum := by
    rw [List.filter_filter]
    refine List.filter_congr fun c _ => ?_
    cases hc : c.isAlphanum with
    | false => rw [Bool.false_and]
    | true =>
      rw [Bool.true_and, bne_iff_ne]
      rintro rfl
      cases hc
  rw [hflatten, hdots]

theorem isPathKeyword_of_underscore (h : '_' ∈ name.toList) : isPathKeyword name = false := by
  have hnone : ∀ word ∈ pathKeywords, '_' ∉ word.toList := by decide
  rw [isPathKeyword, ← Bool.not_eq_true, List.contains_iff_mem]
  exact fun hmem => hnone name hmem h

theorem isPathKeyword_iff (h : InSnakeCase name) : isPathKeyword name = true ↔ name ∈ ["self", "super", "crate"] := by
  have hall : ∀ word ∈ pathKeywords, InSnakeCase word → word ∈ ["self", "super", "crate"] := by decide
  have hsubset : ["self", "super", "crate"] ⊆ pathKeywords := by decide
  rw [isPathKeyword, List.contains_iff_mem]
  exact ⟨fun hmem => hall name hmem h, fun hmem => hsubset hmem⟩

theorem isPathKeyword_memberName (name : String) : isPathKeyword (memberName name) = false := by
  rw [memberName]
  split
  · exact isPathKeyword_of_underscore (by simp)
  · exact Bool.eq_false_iff.mpr ‹_›

theorem head?_memberName (name : String) : (memberName name).toList.head? = (snakeName name).toList.head? := by
  have hall : ∀ word ∈ pathKeywords, (word ++ "_").toList.head? = word.toList.head? := by decide
  rw [memberName]
  split
  · exact hall _ (List.contains_iff_mem.mp ‹_›)
  · rfl

theorem setterName_ne (member : String) : setterName member ≠ "new" ∧ setterName member ≠ "build" := by
  have hall : ∀ method ∈ builderMethods, method ++ "_" ≠ "new" ∧ method ++ "_" ≠ "build" := by decide
  rw [setterName]
  split
  · exact hall _ (List.contains_iff_mem.mp ‹_›)
  · refine ⟨?_, ?_⟩
    all_goals
      rintro rfl
      exact absurd rfl ‹_›

section Ascii
variable (h : ∀ c ∈ name.toList, isAscii c = true)

include h

theorem inSnakeCase_memberName : InSnakeCase (memberName name) := by
  obtain ⟨ws, hws, -⟩ := exists_joins h
  rw [memberName]
  split
  · exact hws.inSnakeCase.append (by decide)
  · exact hws.inSnakeCase

/-- A member has the letters and digits of its name. -/
theorem letters_memberName :
    (memberName name).toList.filter (· != '_') = (name.toList.filter Char.isAlphanum).map Char.toLower := by
  obtain ⟨ws, hws, hletters⟩ := exists_joins h
  have hsnake : (snakeName name).toList.filter (· != '_') = (name.toList.filter Char.isAlphanum).map Char.toLower := by
    rw [hws.toList_eq, filter_intercalate hws.words, hletters]
  rw [memberName]
  split
  · rw [String.toList_append, List.filter_append, hsnake]
    exact List.append_nil _
  · exact hsnake

/-- Only the words that cannot be names get an underscore behind them. -/
theorem exists_words_memberName : ∃ words : List String,
    (∀ w ∈ words, w ≠ "" ∧ ∀ c ∈ w.toList, c.isLower = true ∨ c.isDigit = true) ∧ memberName name =
      "_".intercalate words ++ if "_".intercalate words ∈ ["self", "super", "crate"] then "_" else "" := by
  obtain ⟨ws, hws, -⟩ := exists_joins h
  refine ⟨ws.map String.ofList, fun w hw => ?_, ?_⟩
  · obtain ⟨letters, hletters, rfl⟩ := List.mem_map.mp hw
    obtain ⟨hne, hsmall⟩ := hws.words letters hletters
    rw [String.toList_ofList]
    exact ⟨fun hempty => hne (by simpa using hempty), fun c hc => Bool.or_eq_true_iff.mp (hsmall c hc)⟩
  · rw [← hws.eq_intercalate, memberName]
    simp only [isPathKeyword_iff hws.inSnakeCase]
    split
    · rfl
    · rw [String.append_empty]

theorem snakeName_memberName : snakeName (memberName name) = snakeName name := by
  obtain ⟨ws, hws, -⟩ := exists_joins h
  rw [memberName]
  split
  · rw [snakeName_concat, hws.snakeName_eq]
  · exact hws.snakeName_eq

theorem memberName_memberName : memberName (memberName name) = memberName name := by
  rw [memberName, snakeName_memberName h, memberName]

theorem head?_snakeName :
    (snakeName name).toList.head? = (name.toList.find? Char.isAlphanum).map Char.toLower := by
  obtain ⟨ws, hws, hletters⟩ := exists_joins h
  rw [hws.toList_eq, head?_intercalate fun w hw => (hws.words w hw).ne_nil, hletters, List.head?_map, List.head?_filter]

theorem memberName_ne_underscore : memberName name ≠ "_" := by
  intro hname
  have hhead := (head?_memberName name).symm.trans (congrArg (fun s => s.toList.head?) hname)
  rw [head?_snakeName h] at hhead
  obtain ⟨c, hc, hlower⟩ := Option.map_eq_some_iff.mp hhead
  have hsnake := isSnakeChar_toLower c (List.find?_some hc)
  rw [hlower] at hsnake
  exact absurd hsnake (by decide)

end Ascii

end Members

/-! ### Members as identifiers -/

namespace Source
variable {cs : List Char} {name suffix : String}

theorem soleName?_eq (hplain : ∀ c ∈ cs, isPlain c = true) (hcontinue : ∀ c ∈ cs, isIdentifierContinue c = true) :
    soleName? cs = if cs.head?.any isIdentifierStart then some (String.ofList cs) else none := by
  rw [soleName?, withoutMark_of_plain hplain, skipBlank_of_plain hplain]
  cases cs with
  | nil => rfl
  | cons c cs =>
    rw [List.forall_mem_cons] at hplain hcontinue
    have htake : cs.takeWhile isIdentifierContinue = cs := List.takeWhile_eq_self_iff.mpr hcontinue.2
    have hdrop : cs.dropWhile isIdentifierContinue = [] := List.dropWhile_eq_nil_iff.mpr hcontinue.2
    by_cases hstart : isIdentifierStart c = true
    · simp [name?_of_plain hplain.2, word?, hstart, htake, Rest.dropWhile, hdrop, skipBlank]
    · simp [name?_of_plain hplain.2, word?, hstart]

/-- Small letters, digits and underscores are an identifier if they do not start with a digit. -/
theorem accepted_iff_of_inSnakeCase (h : InSnakeCase name) (hpath : isPathKeyword name = false) (hne : name ≠ "_") :
    Accepted name ↔ name.toList.head?.any isIdentifierStart = true := by
  have hplain : ∀ c ∈ name.toList, isPlain c = true := fun c hc => by
    rcases h c hc with rfl | hsmall
    · decide
    · exact isPlain_of_isAlphanumeric (isAlphanumeric_of_isSnakeChar c hsmall)
  have hcontinue : ∀ c ∈ name.toList, isIdentifierContinue c = true := fun c hc => by
    rcases h c hc with rfl | hsmall
    · decide
    · exact isIdentifierContinue_of_isSnakeChar c hsmall
  rw [Accepted, identifier, if_neg (Bool.eq_false_iff.mp hpath)]
  by_cases hkeyword : isKeyword name = true
  · have hstart : ∀ word ∈ keywords, word.toList.head?.any isIdentifierStart = true := by decide
    rw [if_pos hkeyword]
    exact ⟨fun _ => hstart name (List.contains_iff_mem.mp hkeyword), fun _ => ⟨_, rfl⟩⟩
  · rw [if_neg hkeyword, soleName?_eq hplain hcontinue, String.ofList_toList]
    by_cases hstart : name.toList.head?.any isIdentifierStart = true
    · have hfree : isReserved name = false := by simp [isReserved, hne, hkeyword, hpath]
      simp [hstart, hfree]
    · simp [hstart]

/-- What is put behind a member with an underscore does not change whether it is an identifier. -/
theorem accepted_append (h : InSnakeCase name) (hsuffix : InSnakeCase suffix) (hunderscore : '_' ∈ suffix.toList)
    (hstart : name.toList.head?.any isIdentifierStart = true) : Accepted (name ++ suffix) := by
  obtain ⟨c, hhead, hc⟩ := (Option.any_eq_true _ _).mp hstart
  have hjoined : (name ++ suffix).toList.head? = some c := by
    rw [String.toList_append, List.head?_append, hhead, Option.some_or]
  refine (accepted_iff_of_inSnakeCase (h.append hsuffix) ?_ fun hname => ?_).mpr (by rw [hjoined]; exact hc)
  · exact isPathKeyword_of_underscore (by rw [String.toList_append]; exact List.mem_append_right _ hunderscore)
  · have hlength := congrArg (fun s => s.toList.length) hname
    have hname := List.length_pos_of_ne_nil fun hnil : name.toList = [] => by simp [hnil] at hhead
    have hsuffix := List.length_pos_of_mem hunderscore
    simp only [String.toList_append, List.length_append] at hlength
    have : "_".toList.length = 1 := rfl
    omega

section Ascii
variable (h : ∀ c ∈ name.toList, isAscii c = true)

include h

theorem accepted_memberName_iff_starts :
    Accepted (memberName name) ↔ (memberName name).toList.head?.any isIdentifierStart = true :=
  accepted_iff_of_inSnakeCase (inSnakeCase_memberName h) (isPathKeyword_memberName name) (memberName_ne_underscore h)

theorem accepted_memberName_iff :
    Accepted (memberName name) ↔ ∃ c, name.toList.find? Char.isAlphanum = some c ∧ c.isAlpha = true := by
  rw [accepted_memberName_iff_starts h, head?_memberName, head?_snakeName h, Option.any_map, Option.any_eq_true]
  refine exists_congr fun c => and_congr_right fun hc => ?_
  exact isIdentifierStart_toLower_iff c (List.find?_some hc)

theorem accepted_memberName_append (haccepted : Accepted (memberName name)) (hsuffix : InSnakeCase suffix)
    (hunderscore : '_' ∈ suffix.toList) : Accepted (memberName name ++ suffix) :=
  accepted_append (inSnakeCase_memberName h) hsuffix hunderscore ((accepted_memberName_iff_starts h).mp haccepted)

theorem accepted_setterName (haccepted : Accepted (memberName name)) : Accepted (setterName (memberName name)) := by
  rw [setterName]
  split
  · exact accepted_memberName_append h haccepted (by decide) (by decide)
  · exact haccepted

end Ascii

/-- In ASCII the member of a name is its letters and digits in lower case, as words with single underscores between
    them, and is its own member. It is an identifier, and with it the names of all its setters, if and only if the
    first letter or digit of the name is a letter. -/
theorem memberName_ascii {name : String} (h : ∀ c ∈ name.toList, isAscii c = true) :
    (memberName name).toList.filter (· != '_') = (name.toList.filter Char.isAlphanum).map Char.toLower ∧
      (∃ words : List String, (∀ w ∈ words, w ≠ "" ∧ ∀ c ∈ w.toList, c.isLower = true ∨ c.isDigit = true) ∧
        memberName name =
          "_".intercalate words ++ if "_".intercalate words ∈ ["self", "super", "crate"] then "_" else "") ∧
        memberName (memberName name) = memberName name ∧
          (setterName (memberName name) ≠ "new" ∧ setterName (memberName name) ≠ "build") ∧
            (Accepted (memberName name) ↔ ∃ c, name.toList.find? Char.isAlphanum = some c ∧ c.isAlpha = true) ∧
              (Accepted (memberName name) → Accepted (setterName (memberName name)) ∧
                Accepted (memberName name ++ "_value") ∧ Accepted (memberName name ++ "_with")) := by
  refine ⟨letters_memberName h, exists_words_memberName h, memberName_memberName h, setterName_ne _,
    accepted_memberName_iff h, fun haccepted => ⟨accepted_setterName h haccepted, ?_, ?_⟩⟩
  · exact accepted_memberName_append h haccepted (by decide) (by decide)
  · exact accepted_memberName_append h haccepted (by decide) (by decide)

theorem memberName_ascii_self : (∀ c ∈ "Self".toList, isAscii c = true) ∧ memberName "Self" = "self_" ∧
    memberName "self_" = "self_" ∧ Accepted "self__value" := by
  have hascii : ∀ c ∈ "Self".toList, isAscii c = true := List.all_eq_true.mp (by decide)
  have hself : memberName "Self" = "self_" := by decide
  obtain ⟨-, -, hagain, -, haccepted, hsetters⟩ := memberName_ascii hascii
  rw [hself] at hagain haccepted hsetters
  exact ⟨hascii, hself, hagain, (hsetters (haccepted.mpr ⟨'S', by decide, by decide⟩)).2.1⟩

end Source

end Typewright
