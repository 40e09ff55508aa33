import Typewright.Text.Split

/-!
# Names of types

A type is named by segments, separated by `::` or `.`, such as `AWS::EC2::Instance.Ebs`. `segments` cuts a name from
the left, `short` finds the last segment from the right; the two differ only where three or more colons meet.
`owner` is everything before the first dot: a property type is named after the resource type that owns it, and
a resource type owns itself.
-/

namespace Typewright.TypeName

open Text

/-- The segments of a name, as lists of characters. -/
def segmentChars (cs : List Char) : List (List Char) := (splitColons cs).flatMap (splitWhere (· == '.'))

def segments (name : String) : List String := (segmentChars name.toList).map String.ofList

theorem segments_ne_nil (name : String) : segments name ≠ [] := by
  rw [segments, segmentChars, ne_eq, List.map_eq_nil_iff, List.flatMap_eq_nil_iff]
  obtain ⟨part, rest, hsplit⟩ := List.exists_cons_of_ne_nil (splitColons_ne_nil name.toList)
  intro hnil
  exact splitWhere_ne_nil _ part (hnil part (hsplit ▸ List.mem_cons_self))

/-- What follows the last dot of a text: all of it if there is none. -/
def afterDot (cs : List Char) : List Char := ((splitWhere (· == '.') cs).getLast?).getD cs

def shortChars (cs : List Char) : List Char := afterDot ((afterColons cs).getD cs)

def short (name : String) : String := String.ofList (shortChars name.toList)

def owner (name : String) : String := String.ofList (before (· == '.') name.toList)

/-- Whether a name has a separator, so that it can only mean itself. -/
def isQualified (name : String) : Bool := name.toList.contains '.' || (afterColons name.toList).isSome

end Typewright.TypeName
