import SchemaDdl.Proofs.Reading.Regular

/-!
# Statement forms

A form is a statement with gaps: fixed words, names and literals in a given
order.  Reading a text by a form checks the words and gives back, decoded, what
fills the gaps.

The main fact is `Form.read_scan`: a regular text that fills a form is read back
by it to exactly what it was filled with, whatever characters occur in names and
literals.
-/

namespace SchemaDdl

open Reading

/-- One item of a statement form. -/
inductive FormItem
  /-- Words of the dialect. -/
  | words (text : String)
  /-- A gap for a dotted name. -/
  | name
  /-- A gap for a string literal. -/
  | literal
deriving DecidableEq, Repr

/-- What stands in a gap of a form. -/
inductive FormValue
  | name (parts : Name)
  | literal (value : String)
deriving DecidableEq, Repr

/-- Neither text begins with the other, so no text begins with both. -/
def Apart (words other : String) : Prop :=
  ¬words.toList <+: other.toList ∧ ¬other.toList <+: words.toList

instance (words other : String) : Decidable (Apart words other) :=
  inferInstanceAs
    (Decidable (¬words.toList <+: other.toList ∧ ¬other.toList <+: words.toList))

theorem Apart.not_prefix {words other : String} (h : Apart words other) {text : List Char}
    (htext : other.toList <+: text) : ¬words.toList <+: text := by
  intro hwords
  rcases List.prefix_or_prefix_of_prefix hwords htext with hprefix | hprefix
  · exact h.1 hprefix
  · exact h.2 hprefix

namespace Reading

/-- Reads some words. -/
def readWords : List Char → List Token → Option (List Token)
  | [], tokens => some tokens
  | c :: words, .bare d :: tokens => if c = d then readWords words tokens else none
  | _ :: _, _ => none

/-- Reads one part of a name. -/
def readPart : Token → Option NamePart
  | .bare c => if c = '*' then some .star else none
  | .quoted quote content => if quote = '"' then some (.delimited content) else none
  | .unclosed _ _ => none

/-- Reads a dotted name, as far as it goes. -/
def readName : List Token → Option (Name × List Token)
  | [] => none
  | [token] => (readPart token).map fun part => ([part], [])
  | token :: next :: tokens =>
    (readPart token).bind fun part =>
      if next = .bare '.' then
        (readName tokens).map fun (name, rest) => (part :: name, rest)
      else some ([part], next :: tokens)

/-- Reads a string literal. -/
def readLiteral : List Token → Option (String × List Token)
  | .quoted quote content :: tokens =>
    if quote = '\'' then some (String.ofList content, tokens) else none
  | _ => none

theorem readWords_bare (words : List Char) (tokens : List Token) :
    readWords words (words.map .bare ++ tokens) = some tokens := by
  induction words with
  | nil => rfl
  | cons c words ih => simpa [readWords] using ih

theorem eq_append_of_readWords {words : List Char} {tokens rest : List Token}
    (h : readWords words tokens = some rest) : tokens = words.map .bare ++ rest := by
  induction words generalizing tokens with
  | nil => exact Option.some.inj h
  | cons c words ih =>
      cases tokens with
      | nil => exact absurd h (by simp [readWords])
      | cons token tokens =>
          cases token with
          | bare d =>
              rw [readWords] at h
              split at h
              · subst d
                rw [ih h]
                rfl
              · exact absurd h (by simp)
          | quoted quote content | unclosed quote content =>
              exact absurd h (by simp [readWords])

theorem readPart_token (part : NamePart) : readPart part.token = some part := by
  cases part <;> simp [NamePart.token, readPart]

theorem readName_tokens {name : Name} (hname : name ≠ []) {rest : List Token}
    (h : rest.head? ≠ some (.bare '.')) :
    readName (Name.tokens name ++ rest) = some (name, rest) := by
  induction name with
  | nil => exact absurd rfl hname
  | cons part name ih =>
      by_cases hnil : name = []
      · subst hnil
        cases rest with
        | nil => simp [readName, readPart_token]
        | cons next rest =>
            have hnext : next ≠ .bare '.' := by simpa using h
            simp [readName, readPart_token, hnext]
      · rw [Name.tokens_cons_of_ne_nil part hnil, List.cons_append, List.cons_append]
        simp [readName, readPart_token, ih hnil]

end Reading

/-- A statement with gaps. -/
abbrev Form := List FormItem

namespace Form

/-- Reads what fills the gaps; what is left behind the form is given back. -/
def read : Form → List Token → Option (List FormValue × List Token)
  | [], tokens => some ([], tokens)
  | .words text :: form, tokens => (readWords text.toList tokens).bind (read form)
  | .name :: form, tokens =>
    (readName tokens).bind fun (parts, tokens) =>
      (read form tokens).map fun (values, tokens) => (.name parts :: values, tokens)
  | .literal :: form, tokens =>
    (readLiteral tokens).bind fun (value, tokens) =>
      (read form tokens).map fun (values, tokens) => (.literal value :: values, tokens)

/-- The text that fills a form with some values. -/
inductive Fills : Form → List FormValue → Sql → Prop
  | nil : Fills [] [] []
  | words {form values sql} (text : String) (h : Fills form values sql) :
      Fills (.words text :: form) values (.plain text :: sql)
  | name {form values sql} (parts : Name) (h : Fills form values sql) :
      Fills (.name :: form) (.name parts :: values) (.name parts :: sql)
  | literal {form values sql} (value : String) (h : Fills form values sql) :
      Fills (.literal :: form) (.literal value :: values) (.literal value :: sql)

theorem Fills.verbatims_eq_nil {form : Form} {values : List FormValue} {sql : Sql}
    (h : Fills form values sql) : Sql.verbatims sql = [] := by
  induction h with
  | nil => rfl
  | words text _ ih => exact ih
  | name parts _ ih => exact ih
  | literal value _ ih => exact ih

/-- Text of the dialect behind a name does not extend the name. -/
theorem head_tokens_ne_dot {sql : Sql} (hopen : Sql.OpensPlain sql)
    {rest : List Token} (hrest : rest.head? ≠ some (.bare '.')) :
    (Sql.tokens sql ++ rest).head? ≠ some (.bare '.') := by
  cases sql with
  | nil => exact hrest
  | cons piece sql =>
      cases piece with
      | plain text =>
          cases htext : text.toList with
          | nil => simp [Sql.OpensPlain, htext] at hopen
          | cons c tail =>
              have hc : c ≠ '.' := by simpa [Sql.OpensPlain, htext] using hopen
              simpa [SqlPiece.tokens, SqlPiece.chars, htext] using hc
      | _ => exact hopen.elim

theorem read_tokens {form : Form} {values : List FormValue} {sql : Sql}
    (h : Fills form values sql) (hregular : Sql.Regular sql)
    {rest : List Token} (hrest : rest.head? ≠ some (.bare '.')) :
    read form (Sql.tokens sql ++ rest) = some (values, rest) := by
  induction h with
  | nil => rfl
  | @words form values sql text _ ih =>
      have hwords := readWords_bare text.toList (Sql.tokens sql ++ rest)
      rw [Sql.tokens_cons, List.append_assoc, read]
      exact (congrArg (Option.bind · (read form)) hwords).trans (ih hregular.2.2)
  | @name form values sql parts _ ih =>
      obtain ⟨hparts, hopen, hsql⟩ := hregular
      have hname := readName_tokens hparts (head_tokens_ne_dot hopen hrest)
      rw [Sql.tokens_cons, List.append_assoc, read, SqlPiece.tokens, hname]
      simp [ih hsql]
  | @literal form values sql value _ ih =>
      obtain ⟨-, hsql⟩ := hregular
      simp [SqlPiece.tokens, read, readLiteral, ih hsql]

/-- A regular text that fills a form is read back to what fills it. -/
theorem read_scan_append {form : Form} {values : List FormValue} {sql : Sql}
    (h : Fills form values sql) (hregular : Sql.Regular sql) {rest : List Char}
    (hrest : ∀ c ∈ rest.head?, Inert c ∧ c ≠ '.') :
    read form (scan (Sql.chars sql ++ rest)) = some (values, scan rest) := by
  have hverbatim : ∀ text ∈ Sql.verbatims sql, QuoteFree text := by
    simp [h.verbatims_eq_nil]
  have hdot : (scan rest).head? ≠ some (.bare '.') := by
    cases rest with
    | nil => simp
    | cons c rest =>
        obtain ⟨hinert, hc⟩ := hrest c rfl
        simpa [scan_cons hinert.1] using hc
  rw [Sql.scan_chars_append hregular hverbatim fun c hc => (hrest c hc).1.1]
  exact read_tokens h hregular hdot

theorem read_scan {form : Form} {values : List FormValue} {sql : Sql}
    (h : Fills form values sql) (hregular : Sql.Regular sql) :
    read form (scan (Sql.chars sql)) = some (values, []) := by
  have hread : read form (scan (Sql.chars sql ++ [])) = some (values, scan []) :=
    read_scan_append h hregular (by simp)
  simpa using hread

end Form

end SchemaDdl
