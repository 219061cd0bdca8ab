/-!
# Rounding a quotient

A quotient of natural numbers is rounded to a natural number in two ways here:
binary numbers send a half to the even neighbour, decimals send it up.
-/

namespace Colonnade.Number

/-- `num / den` rounded to the nearest integer, a half to the even neighbour. -/
def roundHalfEven (num den : Nat) : Nat :=
  let q := num / den
  let twice := 2 * (num % den)
  if twice < den then q
  else if den < twice then q + 1
  else if q % 2 = 0 then q else q + 1

/-- `num / den` rounded to the nearest integer, a half to the greater neighbour. -/
def roundHalfUp (num den : Nat) : Nat :=
  let q := num / den
  if 2 * (num % den) < den then q else q + 1

end Colonnade.Number
