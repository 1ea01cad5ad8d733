import SchemaDdl.Proofs.Reading.Scan
import SchemaDdl.Statement

/-!
# The pieces of SQL text as a reader meets them

What a quote-aware reader meets in each piece of a text, taken by itself: a name
shows its parts, a literal its value, everything else its characters.  Numbers
and the words for infinities hold no character that needs care (`Inert`).

The module also picks out of a text its names and the texts of the model that it
passes through.
-/

namespace SchemaDdl

open Reading

/-! ## Characters that need no care -/

/-- A character that neither opens a quoted region nor ends a statement of a
script. -/
def Inert (c : Char) : Prop := ¬IsQuote c ∧ c ≠ Script.terminator

instance : DecidablePred Inert :=
  fun c => inferInstanceAs (Decidable (¬IsQuote c ∧ c ≠ Script.terminator))

/-- A text that a reader passes over without a change of state. -/
def InertText (text : String) : Prop := ∀ c ∈ text.toList, Inert c

instance : DecidablePred InertText :=
  fun text => List.decidableBAll Inert text.toList

/-- A text in which nothing opens a quoted region. -/
def QuoteFree (text : String) : Prop := ∀ c ∈ text.toList, ¬IsQuote c

instance : DecidablePred QuoteFree :=
  fun text => List.decidableBAll (¬IsQuote ·) text.toList

theorem InertText.quoteFree {text : String} (h : InertText text) : QuoteFree text :=
  fun c hc => (h c hc).1

/-- A character of a written number; infinities and not-a-number are words. -/
def IsNumeral (c : Char) : Prop := c.isDigit = true ∨ c ∈ "-.infNa".toList

instance : DecidablePred IsNumeral :=
  fun c => inferInstanceAs (Decidable (c.isDigit = true ∨ c ∈ "-.infNa".toList))

theorem IsNumeral.inert {c : Char} (h : IsNumeral c) : Inert c := by
  rcases h with hdigit | hmark
  · refine ⟨?_, ?_⟩
    · rintro (rfl | rfl)
      · exact absurd hdigit (by decide)
      · exact absurd hdigit (by decide)
    · rintro rfl
      exact absurd hdigit (by decide)
  · have hmarks : InertText "-.infNa" := by decide
    exact hmarks c hmark

theorem isDigit_of_mem_ofNat {n : Nat} {c : Char} (h : c ∈ Decimal.ofNat n) :
    c.isDigit = true :=
  Nat.isDigit_of_mem_toDigits (by decide) (by decide) h

theorem isNumeral_of_mem_ofNat {n : Nat} {c : Char} (h : c ∈ Decimal.ofNat n) : IsNumeral c :=
  .inl (isDigit_of_mem_ofNat h)

theorem isNumeral_of_mem_ofInt {n : Int} {c : Char} (h : c ∈ Decimal.ofInt n) : IsNumeral c := by
  cases n with
  | ofNat n => exact isNumeral_of_mem_ofNat h
  | negSucc n =>
      rcases List.mem_cons.mp h with rfl | h
      · exact .inr (by decide)
      · exact isNumeral_of_mem_ofNat h

theorem isNumeral_of_mem_positional {x : Binary64.DecimalMagnitude} {c : Char}
    (h : c ∈ x.positional) : IsNumeral c := by
  unfold Binary64.DecimalMagnitude.positional at h
  split at h
  · exact isNumeral_of_mem_ofNat h
  · simp only [List.mem_append, List.mem_cons, List.mem_replicate] at h
    rcases h with (h | rfl | ⟨-, rfl⟩) | h
    · exact isNumeral_of_mem_ofNat h
    · exact .inr (by decide)
    · exact .inl (by decide)
    · exact isNumeral_of_mem_ofNat h

theorem isNumeral_of_mem_real {x : Binary64} {c : Char} (h : c ∈ x.chars) : IsNumeral c := by
  have hmagnitude : ∀ rank : Nat,
      c ∈ (if rank = 0 then ['0'] else (Binary64.shortest rank).positional) → IsNumeral c := by
    intro rank hc
    split at hc
    · rw [List.mem_singleton] at hc
      subst hc
      exact .inl (by decide)
    · exact isNumeral_of_mem_positional hc
  cases x with
  | finite negative rank =>
      cases negative with
      | false => exact hmagnitude rank.val h
      | true =>
          rcases List.mem_cons.mp h with rfl | h
          · exact .inr (by decide)
          · exact hmagnitude rank.val h
  | infinite negative =>
      have hwords : ∀ b : Bool, (if b then "-inf" else "inf").toList ⊆ "-.infNa".toList := by
        decide
      exact .inr (hwords negative h)
  | nan =>
      have hword : "NaN".toList ⊆ "-.infNa".toList := by decide
      exact .inr (hword h)

theorem inert_of_mem_ofInt {n : Int} {c : Char} (h : c ∈ Decimal.ofInt n) : Inert c :=
  (isNumeral_of_mem_ofInt h).inert

/-- The digits, signs, points and words of a number are inert. -/
theorem inert_of_mem_real {x : Binary64} {c : Char} (h : c ∈ x.chars) : Inert c :=
  (isNumeral_of_mem_real h).inert

/-! ## What is met in the pieces -/

/-- What a reader meets in one part of a name. -/
def NamePart.token : NamePart → Token
  | star => .bare '*'
  | delimited content => .quoted '"' content

/-- What a reader meets in a name. -/
def Name.tokens (name : Name) : List Token :=
  [Token.bare '.'].intercalate (name.map fun part => [part.token])

namespace Name

/-- The contents of the delimited parts. -/
def contents (name : Name) : List (List Char) :=
  name.filterMap fun
    | .star => none
    | .delimited content => some content

theorem mem_contents_iff {name : Name} {content : List Char} :
    content ∈ name.contents ↔ .delimited content ∈ name := by
  rw [contents, List.mem_filterMap]
  constructor
  · rintro ⟨part, hpart, hcontent⟩
    cases part with
    | star => exact absurd hcontent (by simp)
    | delimited written =>
        obtain rfl := Option.some.inj hcontent
        exact hpart
  · intro hpart
    exact ⟨_, hpart, rfl⟩

theorem tokens_cons_of_ne_nil (part : NamePart) {name : Name} (h : name ≠ []) :
    Name.tokens (part :: name) = part.token :: .bare '.' :: Name.tokens name := by
  have hmap : name.map (fun part => [part.token]) ≠ [] := by simpa using h
  simp [Name.tokens, List.intercalate_cons_of_ne_nil hmap]

theorem chars_cons_of_ne_nil (part : NamePart) {name : Name} (h : name ≠ []) :
    Name.chars (part :: name) = part.chars ++ '.' :: Name.chars name := by
  have hmap : name.map NamePart.chars ≠ [] := by simpa using h
  simp [Name.chars, List.intercalate_cons_of_ne_nil hmap]

@[simp]
theorem tokens_singleton (part : NamePart) : Name.tokens [part] = [part.token] := by
  simp [Name.tokens]

@[simp]
theorem chars_singleton (part : NamePart) : Name.chars [part] = part.chars := by
  simp [Name.chars]

theorem scan_part (part : NamePart) {rest : List Char} (h : rest.head? ≠ some '"') :
    scan (part.chars ++ rest) = part.token :: scan rest := by
  cases part with
  | star => exact scan_cons (by decide) rest
  | delimited content => exact scan_enclose (Or.inr rfl) content h

/-- A name is read part by part. -/
theorem scan_chars {name : Name} (hname : name ≠ []) {rest : List Char}
    (h : rest.head? ≠ some '"') :
    scan (Name.chars name ++ rest) = Name.tokens name ++ scan rest := by
  induction name with
  | nil => exact absurd rfl hname
  | cons part name ih =>
      by_cases hnil : name = []
      · subst hnil
        simpa using scan_part part h
      · rw [chars_cons_of_ne_nil part hnil, tokens_cons_of_ne_nil part hnil,
          List.append_assoc, scan_part part (by simp), List.cons_append,
          scan_cons (by decide), ih hnil]
        rfl

theorem mem_tokens {name : Name} {token : Token} (h : token ∈ Name.tokens name) :
    token = .bare '.' ∨ ∃ part ∈ name, token = part.token := by
  induction name with
  | nil => simp [Name.tokens] at h
  | cons part name ih =>
      by_cases hnil : name = []
      · subst hnil
        rw [tokens_singleton, List.mem_singleton] at h
        exact Or.inr ⟨part, List.mem_cons_self, h⟩
      · rw [tokens_cons_of_ne_nil part hnil, List.mem_cons, List.mem_cons] at h
        rcases h with h | h | h
        · exact Or.inr ⟨part, List.mem_cons_self, h⟩
        · exact Or.inl h
        · rcases ih h with h | ⟨other, hother, h⟩
          · exact Or.inl h
          · exact Or.inr ⟨other, List.mem_cons_of_mem _ hother, h⟩

theorem delimited_tokens (name : Name) :
    delimited (Name.tokens name) = Name.contents name := by
  induction name with
  | nil => rfl
  | cons part name ih =>
      by_cases hnil : name = []
      · subst hnil
        cases part <;> simp [NamePart.token, delimited, contents]
      · rw [tokens_cons_of_ne_nil part hnil]
        cases part <;> simp [NamePart.token, delimited, contents, ih]

end Name

/-- What a reader meets in a piece. -/
def SqlPiece.tokens : SqlPiece → List Token
  | .name parts => Name.tokens parts
  | .literal value => [.quoted '\'' value.toList]
  | piece => piece.chars.map .bare

namespace SqlPiece

/-- The text of the model that is passed through. -/
@[simp]
def verbatim? : SqlPiece → Option String
  | .verbatim text => some text
  | _ => none

/-- The name that is written. -/
@[simp]
def name? : SqlPiece → Option Name
  | .name parts => some parts
  | _ => none

/-- The value of a literal. -/
@[simp]
def literal? : SqlPiece → Option String
  | .literal value => some value
  | _ => none

end SqlPiece

namespace Sql

/-- What a reader meets in the pieces of a text. -/
def tokens (sql : Sql) : List Token := sql.flatMap SqlPiece.tokens

@[simp]
theorem tokens_nil : tokens [] = [] := rfl

@[simp]
theorem tokens_cons (piece : SqlPiece) (sql : Sql) :
    tokens (piece :: sql) = piece.tokens ++ tokens sql := rfl

@[simp]
theorem tokens_append (a b : Sql) : tokens (a ++ b) = tokens a ++ tokens b :=
  List.flatMap_append

/-- The texts of the model that are passed through. -/
def verbatims (sql : Sql) : List String := sql.filterMap SqlPiece.verbatim?

/-- The names that are written. -/
def names (sql : Sql) : List Name := sql.filterMap SqlPiece.name?

@[simp]
theorem verbatims_nil : verbatims [] = [] := rfl

@[simp]
theorem verbatims_cons (piece : SqlPiece) (sql : Sql) :
    verbatims (piece :: sql) = piece.verbatim?.toList ++ verbatims sql := by
  cases piece <;> rfl

@[simp]
theorem verbatims_append (a b : Sql) :
    verbatims (a ++ b) = verbatims a ++ verbatims b := List.filterMap_append

@[simp]
theorem names_nil : names [] = [] := rfl

@[simp]
theorem names_cons (piece : SqlPiece) (sql : Sql) :
    names (piece :: sql) = piece.name?.toList ++ names sql := by
  cases piece <;> rfl

@[simp]
theorem names_append (a b : Sql) : names (a ++ b) = names a ++ names b :=
  List.filterMap_append

@[simp]
theorem separated_singleton (separator : String) (part : Sql) :
    separated separator [part] = part := by
  simp [separated]

theorem separated_cons_cons (separator : String) (part next : Sql) (parts : List Sql) :
    separated separator (part :: next :: parts) =
      part ++ .plain separator :: separated separator (next :: parts) := by
  simp [separated]

end Sql

end SchemaDdl
