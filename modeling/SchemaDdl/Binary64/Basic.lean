/-!
# Binary floating-point numbers

The IEEE 754 double-precision numbers.  A finite number is its sign and the
*rank* of its magnitude: magnitudes are counted upwards from zero, so rank and
value have the same order, and the parity of the rank is that of the
significand.  Every magnitude is a whole number of units of `2 ^ -1074`, which
lets all statements about values be made over natural numbers.

Rounding takes a quotient of natural numbers to the nearest magnitude, a tie going to
the even significand.  Products and quotients of magnitudes are exact quotients rounded
once.
-/

namespace SchemaDdl

/-- How many finite magnitudes there are. -/
def Binary64.magnitudeCount : Nat := 2047 * Nat.pow 2 52

inductive Binary64
  /-- A finite number: its sign and the rank of its magnitude. -/
  | finite (negative : Bool) (rank : Fin Binary64.magnitudeCount)
  | infinite (negative : Bool)
  | nan
deriving DecidableEq, Repr

namespace Binary64

/-- Infinities and not-a-number have no decimal form. -/
def isFinite : Binary64 → Bool
  | finite .. => true
  | infinite _ | nan => false

/-- The significand of the magnitude of a rank. -/
def significand (rank : Nat) : Nat :=
  if rank < Nat.pow 2 52 then rank else Nat.pow 2 52 + rank % Nat.pow 2 52

/-- The power of two that scales the significand of a rank, counted from the
smallest, `2 ^ -1074`. -/
def scale (rank : Nat) : Nat := rank / Nat.pow 2 52 - 1

/-- The magnitude of a rank in units of `2 ^ -1074`. -/
def units (rank : Nat) : Nat := significand rank * Nat.pow 2 (scale rank)

/-! ## Rounding -/

/-- The quotient rounded to the nearest natural number, a tie to the even one. -/
def divideToNearest (num den : Nat) : Nat :=
  let floor := num / den
  let double := 2 * (num % den)
  if double < den ∨ (double = den ∧ floor % 2 = 0) then floor else floor + 1

/-- The rank of the magnitude nearest to `num / den`; it may lie past the last
finite magnitude.  A significand rounded up to `2 ^ 53` carries into the scale
by itself, since ranks are consecutive across scales. -/
def nearestRank (num den : Nat) : Nat :=
  let shifted := num * Nat.pow 2 1074
  let scale := (shifted / den).log2 - 52
  scale * Nat.pow 2 52 + divideToNearest shifted (den * Nat.pow 2 scale)

/-- The rank of the finite magnitude nearest to `num / den`, if there is one. -/
def ofQuotient? (num den : Nat) : Option (Fin magnitudeCount) :=
  let rank := nearestRank num den
  if h : rank < magnitudeCount then some ⟨rank, h⟩ else none

/-- The product of two magnitudes, rounded. -/
def multiply? (x y : Fin magnitudeCount) : Option (Fin magnitudeCount) :=
  ofQuotient? (units x * units y) (Nat.pow 2 1074 * Nat.pow 2 1074)

/-- The quotient of two magnitudes, rounded. -/
def divide? (x y : Fin magnitudeCount) : Option (Fin magnitudeCount) :=
  ofQuotient? (units x) (units y)

def zeroRank : Fin magnitudeCount := ⟨0, by decide⟩

/-- The number nearest to an integer, if it is in range. -/
def ofInt? (n : Int) : Option Binary64 :=
  (ofQuotient? n.natAbs 1).map (finite (n < 0))

end Binary64

end SchemaDdl
