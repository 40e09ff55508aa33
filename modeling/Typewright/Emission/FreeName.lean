import Typewright.Fresh

/-!
# Names that no parameter has

A parameter that is added to others gets a name of its own: as many underscores are put behind the usual name as it
takes to make it different from all others.
-/

namespace Typewright.Emission

/-- `base` with `n` underscores behind it. -/
def underscored (base : String) (n : Nat) : String := base ++ String.ofList (List.replicate n '_')

/-- `base` with the fewest underscores behind it that make it different from every name in `taken`. -/
def freeName (base : String) (taken : List String) : String :=
  underscored base (leastFree (underscored base) taken 0)

end Typewright.Emission
