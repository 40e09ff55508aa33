/-!
# Classes of characters

Two compact ways to write a set of characters down. Boundaries list, in ascending order, where membership
changes: characters from the first boundary on belong, from the second on they do not, and so on. Strides
list runs of characters at equal distances, which suits alphabets whose capital and small letters alternate.
Every table of this library starts at `0x80`; the ASCII part of a class is a rule in words beside its table.
-/

namespace Typewright.Text

/-- The boundaries of a set of code points, in ascending order. -/
abbrev Boundaries := List Nat

namespace Boundaries

/-- A code point belongs if an odd number of boundaries has been passed. -/
def contains (bounds : Boundaries) (n : Nat) : Bool :=
  bounds.foldl (fun inside b => if b ≤ n then !inside else inside) false

end Boundaries

/-- The code points `first`, `first + step`, and so on up to `last`. -/
structure Stride where
  first : Nat
  last : Nat
  step : Nat

namespace Stride

def contains (s : Stride) (n : Nat) : Bool :=
  s.first ≤ n && n ≤ s.last && (n - s.first) % s.step == 0

end Stride

/-- Whether one of `strides` holds the code point `n`. -/
def inStrides (strides : List Stride) (n : Nat) : Bool := strides.any (·.contains n)

/-- Whether `c` is an ASCII character. -/
def isAscii (c : Char) : Bool := c.toNat < 0x80

/-- What holds of the first 128 characters holds of every ASCII character. -/
theorem forall_ascii {P : Char → Prop} (h : ∀ n < 0x80, P (Char.ofNat n)) (c : Char) (hc : isAscii c = true) : P c :=
  Char.ofNat_toNat c ▸ h c.toNat (of_decide_eq_true hc)

/-- What holds of the members of an ASCII class among the first 128 characters holds of all its members. -/
theorem forall_of_isAscii {p : Char → Bool} {P : Char → Prop} (hascii : ∀ c, p c = true → isAscii c = true)
    (h : ∀ n < 0x80, p (Char.ofNat n) = true → P (Char.ofNat n)) (c : Char) (hc : p c = true) : P c :=
  forall_ascii (P := fun c => p c = true → P c) h c (hascii c hc) hc

end Typewright.Text
