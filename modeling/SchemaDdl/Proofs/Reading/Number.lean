import SchemaDdl.Proofs.Reading.Form

/-!
# Reading integers

Integers in a text are read back from their digits, as far as those go, and clauses
that state an integer are read back to it (`Reading.readSetting_tokens`).
-/

namespace SchemaDdl

namespace Reading

/-- The digits that some tokens begin with, and what stands behind them. -/
def readDigits : List Token → List Char × List Token
  | .bare c :: tokens =>
    if c.isDigit then (readDigits tokens).map (c :: ·) id else ([], .bare c :: tokens)
  | tokens => ([], tokens)

/-- Reads a natural number, which has at least one digit. -/
def readNat (tokens : List Token) : Option (Nat × List Token) :=
  match readDigits tokens with
  | ([], _) => none
  | (digits, rest) => some (Nat.ofDigitChars 10 digits 0, rest)

/-- Reads an integer. -/
def readInt : List Token → Option (Int × List Token)
  | .bare '-' :: tokens => (readNat tokens).map fun (n, rest) => (-n, rest)
  | tokens => (readNat tokens).map fun (n, rest) => (n, rest)

/-- Reads words that state an integer. -/
def readSetting (words : String) (tokens : List Token) : Option (Int × List Token) :=
  (readWords words.toList tokens).bind readInt

/-- Reads something that may be left out. -/
def optionally {α : Type} (read : List Token → Option (α × List Token)) (tokens : List Token) :
    Option α × List Token :=
  match read tokens with
  | some (found, rest) => (some found, rest)
  | none => (none, tokens)

theorem optionally_of_some {α : Type} {read : List Token → Option (α × List Token)} {found : α}
    {tokens rest : List Token} (h : read tokens = some (found, rest)) :
    optionally read tokens = (some found, rest) := by
  rw [optionally, h]

theorem optionally_of_none {α : Type} {read : List Token → Option (α × List Token)}
    {tokens : List Token} (h : read tokens = none) : optionally read tokens = (none, tokens) := by
  rw [optionally, h]

/-- The tokens do not go on with a number that has begun before them. -/
def EndsNumber (tokens : List Token) : Prop :=
  ∀ c, tokens.head? = some (.bare c) → c.isDigit = false

theorem readDigits_append {digits : List Char} (hdigits : ∀ c ∈ digits, c.isDigit = true)
    {rest : List Token} (hrest : EndsNumber rest) :
    readDigits (digits.map .bare ++ rest) = (digits, rest) := by
  induction digits with
  | nil =>
      cases rest with
      | nil => rfl
      | cons token rest =>
          cases token with
          | bare c => simp [readDigits, hrest c rfl]
          | quoted quote content | unclosed quote content => rfl
  | cons c digits ih =>
      obtain ⟨hc, hdigits⟩ := List.forall_mem_cons.mp hdigits
      simp [readDigits, hc, ih hdigits]

theorem readNat_ofNat (n : Nat) {rest : List Token} (hrest : EndsNumber rest) :
    readNat ((Decimal.ofNat n).map .bare ++ rest) = some (n, rest) := by
  have hread := readDigits_append (fun c => isDigit_of_mem_ofNat (n := n)) hrest
  have hvalue : Nat.ofDigitChars 10 (Decimal.ofNat n) 0 = n :=
    Nat.ofDigitChars_toDigits (by decide) (by decide)
  cases hdigits : Decimal.ofNat n with
  | nil => exact absurd hdigits Nat.toDigits_ne_nil
  | cons c digits =>
      rw [hdigits] at hread hvalue
      rw [readNat, hread]
      simp only [hvalue]

/-- An integer is read back. -/
theorem readInt_ofInt (n : Int) {rest : List Token} (hrest : EndsNumber rest) :
    readInt ((Decimal.ofInt n).map .bare ++ rest) = some (n, rest) := by
  cases n with
  | ofNat n =>
      have hread := readNat_ofNat n hrest
      cases hdigits : Decimal.ofNat n with
      | nil => exact absurd hdigits Nat.toDigits_ne_nil
      | cons c digits =>
          have hc : c ≠ '-' := by
            rintro rfl
            exact absurd (isDigit_of_mem_ofNat (hdigits ▸ List.mem_cons_self)) (by decide)
          rw [hdigits, List.map_cons, List.cons_append] at hread
          simp [Decimal.ofInt, hdigits, readInt, hc, hread]
  | negSucc n =>
      have hread := readNat_ofNat (n + 1) hrest
      rw [Decimal.ofInt, List.map_cons, List.cons_append, readInt, hread]
      rfl

/-- Words that state an integer are read back to it. -/
theorem readSetting_tokens (words : String) (n : Int) {sql : Sql}
    (hsql : EndsNumber (Sql.tokens sql)) :
    readSetting words (Sql.tokens (.plain words :: .integer n :: sql)) =
      some (n, Sql.tokens sql) := by
  have hwords := readWords_bare words.toList (Sql.tokens (.integer n :: sql))
  exact (congrArg (Option.bind · readInt) hwords).trans (readInt_ofInt n hsql)

end Reading

end SchemaDdl
