/-!
# What is left of a text

A reader takes some characters from the start of a text and returns the others. Their type carries the proof that
there are no more of them than before, by which repeated reading ends.
-/

namespace Typewright.Text

/-- What is left of a text after any number of characters. -/
abbrev Rest (cs : List Char) := { rest : List Char // rest.length ≤ cs.length }

theorem length_dropWhile_le (p : Char → Bool) (cs : List Char) : (cs.dropWhile p).length ≤ cs.length :=
  (List.dropWhile_sublist p).length_le

namespace Rest

variable {cs : List Char}

/-- Nothing is taken. -/
def whole (cs : List Char) : Rest cs := ⟨cs, Nat.le_refl _⟩

/-- Everything is taken. -/
def nothing (cs : List Char) : Rest cs := ⟨[], Nat.zero_le _⟩

/-- What is left after the leading characters that satisfy `p`. -/
def dropWhile (p : Char → Bool) (cs : List Char) : Rest cs := ⟨cs.dropWhile p, length_dropWhile_le p cs⟩

/-- What is left after `n` characters. -/
def drop (n : Nat) (cs : List Char) : Rest cs := ⟨cs.drop n, by simp⟩

/-- What is left of a rest. -/
def trans (r : Rest cs) (s : Rest r.1) : Rest cs := ⟨s.1, Nat.le_trans s.2 r.2⟩

/-- What is left of a text of which one more character had been taken. -/
def behind (c : Char) (r : Rest cs) : Rest (c :: cs) := ⟨r.1, Nat.le_succ_of_le r.2⟩

end Rest

end Typewright.Text
