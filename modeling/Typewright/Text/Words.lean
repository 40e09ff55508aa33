import Typewright.Text.LowerCase
import Typewright.Text.Split

/-!
# Words of a name

Names such as `VPCId` or `enableDns-hostnames` are cut into words at every character that is neither letter nor
digit, and inside such a piece where the case says so: after a small letter that a capital follows, and before
the last capital of a run that a small letter follows (`VPC`, `Id`). `snakeCase` writes the words in lower case,
joined by underscores.
-/

namespace Typewright.Text

/-- The case that the scan of a piece has last seen since the last cut. -/
inductive CaseMode where
  | fresh
  | small
  | capital
  deriving DecidableEq, Repr

/-- The mode after `c`: a character without case changes nothing. -/
def CaseMode.after (mode : CaseMode) (c : Char) : CaseMode :=
  if isSmall c then .small else if isCapital c then .capital else mode

/-- The words of a piece of letters and digits. The first word of the result goes on the word that is being
    read, which lies to the left. -/
def wordsOfPiece : CaseMode → List Char → List (List Char)
  | _, [] => []
  | _, [c] => [[c]]
  | mode, c :: next :: rest =>
    if mode.after c = .small ∧ isCapital next then [c] :: wordsOfPiece .fresh (next :: rest)
    else if mode = .capital ∧ isCapital c ∧ isSmall next then
      [] :: (wordsOfPiece .fresh (next :: rest)).modifyHead (c :: ·)
    else (wordsOfPiece (mode.after c) (next :: rest)).modifyHead (c :: ·)

/-- The words of a name, in order. -/
def words (cs : List Char) : List (List Char) :=
  (splitWhere (fun c => !isAlphanumeric c) cs).flatMap (wordsOfPiece .fresh)

theorem wordsOfPiece_ne_nil {mode : CaseMode} {cs : List Char} (h : cs ≠ []) : wordsOfPiece mode cs ≠ [] := by
  fun_induction wordsOfPiece mode cs with
  | case1 => exact absurd rfl h
  | case2 | case3 | case4 => exact List.cons_ne_nil _ _
  | case5 mode c next rest _ _ ih => simpa [List.modifyHead_eq_nil_iff] using ih (List.cons_ne_nil _ _)

theorem flatten_wordsOfPiece (mode : CaseMode) (cs : List Char) : (wordsOfPiece mode cs).flatten = cs := by
  fun_induction wordsOfPiece mode cs with
  | case1 => rfl
  | case2 => rfl
  | case3 mode c next rest _ ih => simp [ih]
  | case4 mode c next rest _ _ ih =>
    rw [List.flatten_cons, List.nil_append, flatten_modifyHead (wordsOfPiece_ne_nil (List.cons_ne_nil _ _)), ih]
  | case5 mode c next rest _ _ ih => rw [flatten_modifyHead (wordsOfPiece_ne_nil (List.cons_ne_nil _ _)), ih]

/-- The letters and digits of a name are in its words, in their order. -/
theorem flatten_words (cs : List Char) : (words cs).flatten = cs.filter isAlphanumeric := by
  have hpieces : ∀ pieces : List (List Char), (pieces.flatMap (wordsOfPiece .fresh)).flatten = pieces.flatten := by
    intro pieces
    induction pieces with
    | nil => rfl
    | cons piece pieces ih => simp [flatten_wordsOfPiece, ih]
  rw [words, hpieces, flatten_splitWhere]
  simp

/-- The words in lower case, joined by underscores. -/
def snakeCase (cs : List Char) : List Char := List.intercalate ['_'] ((words cs).map lowerWord)

end Typewright.Text
