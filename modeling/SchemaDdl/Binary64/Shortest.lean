import SchemaDdl.Binary64.Basic

/-!
# Decimal forms

An integer is written as its decimal digits, a minus sign before them when it is
negative.

A finite number is written with the fewest decimal digits that read back as the
same number; of the decimals with that many digits the nearest is taken, and of
two equally near the larger.  The digits are written positionally, without an
exponent.

A decimal reads back as a magnitude when it lies between the midpoints to the
two neighbouring magnitudes, the midpoints included when the rank is even.  The
coarsest power of ten of which a multiple lies there gives the fewest digits.
-/

namespace SchemaDdl

namespace Decimal

/-- The decimal digits of a natural number, without leading zeros. -/
def ofNat (n : Nat) : List Char := Nat.toDigits 10 n

/-- The decimal digits of an integer, after its sign. -/
def ofInt : Int → List Char
  | .ofNat n => ofNat n
  | .negSucc n => '-' :: ofNat (n + 1)

end Decimal

namespace Binary64

/-- A decimal magnitude: `digits * 10 ^ exponent`. -/
structure DecimalMagnitude where
  digits : Nat
  exponent : Int
deriving DecidableEq, Repr

/-- `10 ^ exponent` as a numerator and a denominator. -/
def powerOfTen (exponent : Int) : Nat × Nat :=
  match exponent with
  | .ofNat e => (Nat.pow 10 e, 1)
  | .negSucc e => (1, Nat.pow 10 (e + 1))

/-- Whether `digits * 10 ^ exponent` reads back as the magnitude of `rank`. -/
def readsBack (rank : Nat) (digits : Nat) (exponent : Int) : Bool :=
  let (num, den) := powerOfTen exponent
  let value := 2 * digits * num * Nat.pow 2 1074
  let low := (units (rank - 1) + units rank) * den
  let high := (units rank + units (rank + 1)) * den
  if rank % 2 = 0 then low ≤ value ∧ value ≤ high else low < value ∧ value < high

/-- The multiple of `10 ^ exponent` that stands for the magnitude of `rank`, if
one reads back: of the neighbours below and above the nearer, the upper one in a
tie. -/
def onGrid? (exponent : Int) (rank : Nat) : Option DecimalMagnitude :=
  let (num, den) := powerOfTen exponent
  let value := units rank * den
  let step := num * Nat.pow 2 1074
  let below := value / step
  let candidates := [below, below + 1].filter (readsBack rank · exponent)
  match candidates with
  | [] => none
  | [digits] => some ⟨digits, exponent⟩
  | _ =>
    let digits := if 2 * (value % step) < step then below else below + 1
    some ⟨digits, exponent⟩

/-- The powers of ten to try, the coarsest first.  On the last one every
magnitude is exact. -/
def gridExponents : List Int :=
  (List.range 1384).map fun (n : Nat) => 309 - (n : Int)

/-- The shortest decimal that reads back as the magnitude of `rank`. -/
def shortest (rank : Nat) : DecimalMagnitude :=
  (gridExponents.findSome? (onGrid? · rank)).getD ⟨0, 0⟩

namespace DecimalMagnitude

/-- The digits of a decimal magnitude around its point; nothing is written after
the point unless a digit stands there. -/
def positional (x : DecimalMagnitude) : List Char :=
  match x.exponent with
  | .ofNat e => Decimal.ofNat (x.digits * Nat.pow 10 e)
  | .negSucc e =>
    let places := e + 1
    let fraction := Decimal.ofNat (x.digits % Nat.pow 10 places)
    Decimal.ofNat (x.digits / Nat.pow 10 places) ++
      '.' :: List.replicate (places - fraction.length) '0' ++ fraction

end DecimalMagnitude

/-- The written form of a number.  Zero keeps its sign; the two infinities and
not-a-number are written as words. -/
def chars : Binary64 → List Char
  | finite negative rank =>
    let magnitude := if rank.val = 0 then ['0'] else (shortest rank).positional
    if negative then '-' :: magnitude else magnitude
  | infinite negative => (if negative then "-inf" else "inf").toList
  | nan => "NaN".toList

end Binary64

end SchemaDdl
