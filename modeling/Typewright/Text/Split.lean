/-!
# Cutting texts at separators

`splitWhere` cuts at single characters, `splitColons` at the separator `::`, searching from the left, so three
colons in a row are a separator and a colon. `afterColons` finds the last place where `::` stands, as a search
from the right does: of three colons in a row it takes the last two. A text without separators is one piece,
and there is always at least one (`splitWhere_ne_nil`, `splitColons_ne_nil`). `lines` cuts at the ends of lines,
behind which no further line begins unless something stands there.
-/

namespace Typewright.Text

/-- The pieces between the characters that satisfy `p`. -/
def splitWhere (p : Char → Bool) : List Char → List (List Char)
  | [] => [[]]
  | c :: rest => if p c then [] :: splitWhere p rest else (splitWhere p rest).modifyHead (c :: ·)

/-- The pieces between the separators `::`, found from the left. -/
def splitColons : List Char → List (List Char)
  | [] => [[]]
  | ':' :: ':' :: rest => [] :: splitColons rest
  | c :: rest => (splitColons rest).modifyHead (c :: ·)

/-- What follows the last `::` in the text, if there is one. -/
def afterColons : List Char → Option (List Char)
  | [] => none
  | c :: rest =>
    match afterColons rest with
    | some tail => some tail
    | none =>
      match rest with
      | ':' :: tail => if c = ':' then some tail else none
      | _ => none

/-- What stands before the first character that satisfies `p`: everything if there is none. -/
def before (p : Char → Bool) (cs : List Char) : List Char := cs.takeWhile fun c => !p c

/-- A line without the carriage return at its end. -/
def dropReturn (line : List Char) : List Char := if line.getLast? = some '\r' then line.dropLast else line

/-- The lines of a text. A line feed ends a line, alone or after a carriage return. -/
def lines (cs : List Char) : List (List Char) :=
  let pieces := splitWhere (· == '\n') cs
  pieces.dropLast.map dropReturn ++ (pieces.getLast?.filter fun last => !last.isEmpty).toList

theorem splitWhere_ne_nil (p : Char → Bool) : ∀ cs : List Char, splitWhere p cs ≠ []
  | [] => by simp [splitWhere]
  | c :: rest => by
    rw [splitWhere]
    split
    · simp
    · simpa [List.modifyHead_eq_nil_iff] using splitWhere_ne_nil p rest

theorem splitWhere_eq_splitOnP (p : Char → Bool) (cs : List Char) : splitWhere p cs = cs.splitOnP p := by
  fun_induction splitWhere p cs with
  | case1 => rw [List.splitOnP_nil]
  | case2 c rest hc ih => rw [List.splitOnP_cons_eq_if_modifyHead, if_pos hc, ih]
  | case3 c rest hc ih => rw [List.splitOnP_cons_eq_if_modifyHead, if_neg hc, ih]

theorem flatten_modifyHead {c : Char} {pieces : List (List Char)} (h : pieces ≠ []) :
    (pieces.modifyHead (c :: ·)).flatten = c :: pieces.flatten := by
  cases pieces with
  | nil => exact absurd rfl h
  | cons piece pieces => rfl

/-- Only the separators are lost. -/
theorem flatten_splitWhere (p : Char → Bool) (cs : List Char) :
    (splitWhere p cs).flatten = cs.filter fun c => !p c := by
  fun_induction splitWhere p cs with
  | case1 => rfl
  | case2 c rest hc ih => simp [hc, ih]
  | case3 c rest hc ih => simp [hc, ih, flatten_modifyHead (splitWhere_ne_nil p rest)]

theorem splitColons_ne_nil (cs : List Char) : splitColons cs ≠ [] := by
  fun_induction splitColons cs with
  | case1 => simp
  | case2 rest => simp
  | case3 c rest _ ih => simpa [List.modifyHead_eq_nil_iff] using ih

end Typewright.Text
