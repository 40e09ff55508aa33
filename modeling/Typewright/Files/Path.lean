import Typewright.Text.Split

/-!
# File paths

A path is a text whose parts stand between slashes. Empty parts and single dots change nothing, but for a dot at the
start; a path that ends in a slash can only mean a directory.
-/

namespace Typewright.FilePath

/-- Every part of a path, as it is written. -/
def parts (path : String) : List String :=
  (Text.splitWhere (· == '/') path.toList).map String.ofList

/-- Whether a part that is not the first changes nothing. -/
def isIdle (part : String) : Bool := part == "" || part == "."

/-- The parts without those at the end that change nothing. -/
def withoutIdleEnd : List String → List String
  | [] => []
  | first :: rest => first :: (rest.reverse.dropWhile isIdle).reverse

/-- The parts of the directory that the file or directory with these parts is in. Between them they stay as they are
    written. -/
def above (parts : List String) : List String := withoutIdleEnd (withoutIdleEnd parts).dropLast

theorem length_withoutIdleEnd_le : ∀ parts : List String, (withoutIdleEnd parts).length ≤ parts.length
  | [] => Nat.le_refl _
  | first :: rest => by
    have := (List.dropWhile_suffix (l := rest.reverse) isIdle).length_le
    simpa [withoutIdleEnd] using this

theorem length_above_lt {parts : List String} (h : parts ≠ []) : (above parts).length < parts.length := by
  have hpos := List.length_pos_iff.mpr h
  have hdir := length_withoutIdleEnd_le (withoutIdleEnd parts).dropLast
  have hpath := length_withoutIdleEnd_le parts
  rw [List.length_dropLast] at hdir
  unfold above
  omega

/-- `path` below the directory `dir`. -/
def join (dir path : String) : String :=
  if path.startsWith "/" then path
  else if dir.isEmpty || dir.endsWith "/" then dir ++ path
  else dir ++ "/" ++ path

end Typewright.FilePath
