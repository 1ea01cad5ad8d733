import SchemaDdl.Binary64.Basic
import SchemaDdl.Json.Basic

/-!
# Number literals

A literal without fraction and exponent is an integer if it fits 64 bits.  Any
other is read as a double in two steps: its leading digits, as many as fit 64
bits, are rounded to a double, and that is scaled by the remaining power of ten
and rounded again.  For literals of up to 15 digits and small exponents both
steps together are the correctly rounded value.
-/

namespace SchemaDdl

/-- The parts of a number literal. -/
structure NumberLiteral where
  negative : Bool
  /-- The digits before the point. -/
  whole : List Char
  /-- The digits after the point, if there is one. -/
  fraction : Option (List Char)
  /-- Whether the exponent is negative, and its digits, if there is one. -/
  exponent : Option (Bool × List Char)

namespace NumberLiteral

def digit (c : Char) : Nat := c.toNat - '0'.toNat

/-- The number that digits denote. -/
def natural (digits : List Char) : Nat :=
  digits.foldl (fun n c => 10 * n + digit c) 0

/-- Appends digits to a significand as long as it fits 64 bits; gives the
significand and the digits that are left. -/
def accumulate (significand : Nat) : List Char → Nat × List Char
  | [] => (significand, [])
  | c :: rest =>
    let next := 10 * significand + digit c
    if next < UInt64.size then accumulate next rest else (significand, c :: rest)

/-- The significand of a literal and the power of ten that scales it.  Digits
before the point that do not fit still count as places; digits after it that do
not fit are dropped. -/
def decimal (literal : NumberLiteral) : Nat × Int :=
  let (significand, unread) := accumulate 0 literal.whole
  let fraction := literal.fraction.getD []
  let (significand, dropped) := accumulate significand fraction
  let places := (fraction.length : Int) - dropped.length
  let exponent : Int :=
    match literal.exponent with
    | some (true, digits) => -(natural digits : Int)
    | some (false, digits) => natural digits
    | none => 0
  (significand, unread.length - places + exponent)

/-- The power of ten of an exponent, for exponents in its range. -/
def power? (exponent : Nat) : Option (Fin Binary64.magnitudeCount) :=
  Binary64.ofQuotient? (Nat.pow 10 exponent) 1

/-- A magnitude scaled down by a power of ten.  Below the range of exponents the
scaling takes two steps, and further down nothing is left. -/
def scaleDown (x : Fin Binary64.magnitudeCount) (exponent : Nat) :
    Option (Fin Binary64.magnitudeCount) :=
  if exponent ≤ 308 then do Binary64.divide? x (← power? exponent)
  else if exponent ≤ 616 then do
    let part ← Binary64.divide? x (← power? 308)
    Binary64.divide? part (← power? (exponent - 308))
  else some Binary64.zeroRank

/-- A significand scaled by a power of ten, if it stays in range. -/
def scaled? (significand : Nat) (exponent : Int) : Option (Fin Binary64.magnitudeCount) := do
  let x ← Binary64.ofQuotient? significand 1
  match exponent with
  | .ofNat e =>
    if significand = 0 then some x
    else if e ≤ 308 then Binary64.multiply? x (← power? e)
    else none
  | .negSucc e => scaleDown x (e + 1)

/-- The double that a literal denotes. -/
def real (literal : NumberLiteral) : JsonNumber :=
  let (significand, exponent) := literal.decimal
  match scaled? significand exponent with
  | some rank => .real (.finite literal.negative rank)
  | none => .outOfRange

/-- What a literal denotes.  A minus sign before zero makes it a double, since
no integer keeps that sign. -/
def value (literal : NumberLiteral) : JsonNumber :=
  if literal.fraction.isSome || literal.exponent.isSome then literal.real
  else
    let n := natural literal.whole
    if literal.negative then
      if 0 < n ∧ n ≤ Nat.pow 2 63 then .integer (-n) else literal.real
    else if n < UInt64.size then .integer n else literal.real

end NumberLiteral

end SchemaDdl
