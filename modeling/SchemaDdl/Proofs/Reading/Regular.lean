import SchemaDdl.Proofs.Reading.Pieces

/-!
# Regular SQL text

In a regular text every piece that the dialect does not fix has text of the
dialect behind it.  Then no two quoted regions touch, and a reader meets exactly
what each piece shows by itself (`Sql.scan_chars`).

In a regular text the piece before a literal also decides whether the literal is
executed (`Sql.executed_tokens`).
-/

namespace SchemaDdl

open Reading

/-- Whether the end of `text` tells by itself if it ends in the execution words. -/
def Introduces (text : String) : Prop :=
  executionWords <:+ text.toList ∨ ¬text.toList <:+ executionWords

instance : DecidablePred Introduces :=
  fun text => inferInstanceAs
    (Decidable (executionWords <:+ text.toList ∨ ¬text.toList <:+ executionWords))

/-- What stands further back does not matter behind such a text. -/
theorem Introduces.isSuffix_append_iff {text : String} (h : Introduces text)
    (before : List Char) :
    executionWords <:+ before ++ text.toList ↔ executionWords <:+ text.toList := by
  constructor
  · intro hwords
    have htext : text.toList <:+ before ++ text.toList := List.suffix_append _ _
    rcases h with h | h
    · exact h
    · by_cases hlen : executionWords.length ≤ text.toList.length
      · exact List.suffix_of_suffix_length_le hwords htext hlen
      · exact absurd (List.suffix_of_suffix_length_le htext hwords (by omega)) h
  · intro hwords
    exact hwords.trans (List.suffix_append _ _)

namespace Sql

/-- Whether the text is empty or opens with text of the dialect that no reader
could take for a part of what stands before it. -/
def OpensPlain : Sql → Prop
  | [] => True
  | .plain text :: _ => text.toList.head?.any (· ≠ '.')
  | _ => False

/-- The literal that the text opens with. -/
def leadingLiteral? : Sql → Option String
  | [] => none
  | piece :: _ => piece.literal?

@[simp]
theorem leadingLiteral?_cons (piece : SqlPiece) (sql : Sql) :
    leadingLiteral? (piece :: sql) = piece.literal? := rfl

/-- Text of the dialect stands behind every other piece. -/
def Regular : Sql → Prop
  | [] => True
  | .plain text :: sql =>
    InertText text ∧ (leadingLiteral? sql ≠ none → Introduces text) ∧ Regular sql
  | .name parts :: sql => parts ≠ [] ∧ OpensPlain sql ∧ Regular sql
  | _ :: sql => OpensPlain sql ∧ Regular sql

/-- The literals that are executed, as the pieces before them tell. -/
def executed : Sql → List String
  | [] => []
  | .plain text :: sql =>
    (if executionWords <:+ text.toList then (leadingLiteral? sql).toList else []) ++
      executed sql
  | _ :: sql => executed sql

/-! ## Putting regular texts together -/

theorem leadingLiteral?_eq_none {sql : Sql} (h : OpensPlain sql) :
    leadingLiteral? sql = none := by
  cases sql with
  | nil => rfl
  | cons piece sql =>
      cases piece with
      | plain text => rfl
      | _ => exact h.elim

theorem opensPlain_append {a b : Sql} (ha : OpensPlain a) (hb : OpensPlain b) :
    OpensPlain (a ++ b) := by
  cases a with
  | nil => exact hb
  | cons piece a => cases piece <;> exact ha

theorem regular_append {a b : Sql} (ha : Regular a) (hb : Regular b)
    (h : OpensPlain b) : Regular (a ++ b) := by
  induction a with
  | nil => exact hb
  | cons piece a ih =>
      cases piece with
      | plain text =>
          obtain ⟨hinert, hliteral, ha⟩ := ha
          refine ⟨hinert, ?_, ih ha⟩
          intro hlead
          apply hliteral
          cases a with
          | nil => exact absurd (leadingLiteral?_eq_none h) hlead
          | cons piece a => exact hlead
      | name parts =>
          obtain ⟨hparts, hopen, ha⟩ := ha
          exact ⟨hparts, opensPlain_append hopen h, ih ha⟩
      | literal value | integer value | real value | verbatim text =>
          obtain ⟨hopen, ha⟩ := ha
          exact ⟨opensPlain_append hopen h, ih ha⟩

theorem executed_append (a : Sql) {b : Sql} (h : OpensPlain b) :
    executed (a ++ b) = executed a ++ executed b := by
  induction a with
  | nil => rfl
  | cons piece a ih =>
      cases piece with
      | plain text =>
          have hlead : leadingLiteral? (a ++ b) = leadingLiteral? a := by
            cases a with
            | nil => exact leadingLiteral?_eq_none h
            | cons piece a => rfl
          simp [executed, hlead, ih]
      | _ => exact ih

/-! ## Reading a regular text -/

/-- The first character behind a piece that needs care shows where it ends. -/
theorem head_of_opensPlain {p : Char → Prop} (hp : ∀ c, Inert c → c ≠ '.' → p c) {sql : Sql}
    (hregular : Regular sql) (hopen : OpensPlain sql) {rest : List Char}
    (hrest : ∀ c ∈ rest.head?, p c) : ∀ c ∈ (chars sql ++ rest).head?, p c := by
  cases sql with
  | nil => exact hrest
  | cons piece sql =>
      cases piece with
      | plain text =>
          obtain ⟨hinert, -, -⟩ := hregular
          intro c hc
          cases htext : text.toList with
          | nil => simp [OpensPlain, htext] at hopen
          | cons first tail =>
              have hfirst : first = c := by
                simpa [SqlPiece.chars, htext] using hc
              have hdot : first ≠ '.' := by simpa [OpensPlain, htext] using hopen
              subst hfirst
              exact hp first (hinert first (by simp [htext])) hdot
      | _ => exact hopen.elim

/-- A regular text is read piece by piece. -/
theorem scan_chars_append {sql : Sql} (hregular : Regular sql)
    (hverbatim : ∀ text ∈ verbatims sql, QuoteFree text)
    {rest : List Char} (hrest : ∀ c ∈ rest.head?, ¬IsQuote c) :
    scan (chars sql ++ rest) = tokens sql ++ scan rest := by
  have hquote : ∀ c, Inert c → c ≠ '.' → ¬IsQuote c := fun _ hc _ => hc.1
  induction sql with
  | nil => rfl
  | cons piece sql ih =>
      rw [chars_cons, tokens_cons, List.append_assoc, List.append_assoc]
      cases piece with
      | plain text =>
          obtain ⟨hinert, -, hsql⟩ := hregular
          have hplain := scan_bare hinert.quoteFree (chars sql ++ rest)
          exact hplain.trans (congrArg _ (ih hsql hverbatim))
      | name parts =>
          obtain ⟨hparts, hopen, hsql⟩ := hregular
          have hhead : (chars sql ++ rest).head? ≠ some '"' := fun h =>
            head_of_opensPlain hquote hsql hopen hrest '"' h (Or.inr rfl)
          have hname := Name.scan_chars hparts hhead
          exact hname.trans (congrArg _ (ih hsql hverbatim))
      | literal value =>
          obtain ⟨hopen, hsql⟩ := hregular
          have hhead : (chars sql ++ rest).head? ≠ some '\'' := fun h =>
            head_of_opensPlain hquote hsql hopen hrest '\'' h (Or.inl rfl)
          have hliteral := scan_enclose (Or.inl rfl) value.toList hhead
          exact hliteral.trans (congrArg _ (ih hsql hverbatim))
      | integer value =>
          obtain ⟨-, hsql⟩ := hregular
          have hdigits : ∀ c ∈ Decimal.ofInt value, ¬IsQuote c :=
            fun c hc => (inert_of_mem_ofInt hc).1
          have hbare := scan_bare hdigits (chars sql ++ rest)
          exact hbare.trans (congrArg _ (ih hsql hverbatim))
      | real value =>
          obtain ⟨-, hsql⟩ := hregular
          have hdigits : ∀ c ∈ value.chars, ¬IsQuote c :=
            fun c hc => (inert_of_mem_real hc).1
          have hbare := scan_bare hdigits (chars sql ++ rest)
          exact hbare.trans (congrArg _ (ih hsql hverbatim))
      | verbatim text =>
          obtain ⟨-, hsql⟩ := hregular
          obtain ⟨htext, hverbatim⟩ := List.forall_mem_cons.mp hverbatim
          have hbare := scan_bare htext (chars sql ++ rest)
          exact hbare.trans (congrArg _ (ih hsql hverbatim))

/-- What a reader meets in a regular text. -/
theorem scan_chars {sql : Sql} (hregular : Regular sql)
    (hverbatim : ∀ text ∈ verbatims sql, QuoteFree text) :
    scan (chars sql) = tokens sql := by
  have h : scan (chars sql ++ []) = tokens sql ++ scan [] :=
    scan_chars_append hregular hverbatim (by simp)
  simpa using h

/-! ## What is found in a regular text -/

theorem delimited_tokens (sql : Sql) :
    delimited (tokens sql) = (names sql).flatMap Name.contents := by
  induction sql with
  | nil => rfl
  | cons piece sql ih =>
      rw [tokens_cons, delimited_append, ih]
      cases piece with
      | name parts => simp [SqlPiece.tokens, Name.delimited_tokens]
      | literal value => simp [SqlPiece.tokens, delimited]
      | plain text | integer value | real value | verbatim text =>
          simp [SqlPiece.tokens]

/-- No piece leaves a region open. -/
theorem closed_tokens (sql : Sql) : Closed (tokens sql) := by
  intro quote content hmem
  obtain ⟨piece, -, hpiece⟩ := List.mem_flatMap.mp hmem
  cases piece with
  | name parts =>
      rcases Name.mem_tokens hpiece with h | ⟨part, -, h⟩
      · exact Token.noConfusion h
      · cases part <;> exact Token.noConfusion h
  | literal value => simp [SqlPiece.tokens] at hpiece
  | plain text | integer value | real value | verbatim text =>
      simp [SqlPiece.tokens] at hpiece

/-- The reader finds the executed literals that the pieces tell.  In front of a
literal only the piece before it counts, so the reader may have met anything
before the text. -/
theorem executedAfter_tokens {sql : Sql} (hregular : Regular sql) (before : List Char) :
    executedAfter before (tokens sql) =
      ((if executionWords <:+ before then (leadingLiteral? sql).toList else []) ++
        executed sql).map String.toList := by
  induction sql generalizing before with
  | nil => simp [executedAfter, leadingLiteral?, executed]
  | cons piece sql ih =>
      cases piece with
      | plain text =>
          obtain ⟨-, hliteral, hsql⟩ := hregular
          have hbare := executedAfter_map_bare before text.toList (tokens sql)
          rw [tokens_cons, show SqlPiece.tokens (.plain text) =
            text.toList.map .bare from rfl, hbare, ih hsql]
          by_cases hlead : leadingLiteral? sql = none
          · simp [executed, hlead]
          · have hiff := (hliteral hlead).isSuffix_append_iff before
            simp [executed, hiff]
      | name parts =>
          obtain ⟨-, hopen, hsql⟩ := hregular
          have hskip : ∀ content, Token.quoted '\'' content ∉ Name.tokens parts := by
            intro content hmem
            rcases Name.mem_tokens hmem with h | ⟨part, -, h⟩
            · exact Token.noConfusion h
            · cases part <;> simp [NamePart.token] at h
          obtain ⟨after, hafter⟩ :=
            executedAfter_append_of_forall_ne hskip before (tokens sql)
          have hname := hafter.trans (ih hsql after)
          simpa [SqlPiece.tokens, executed,
            leadingLiteral?_eq_none hopen] using hname
      | literal value =>
          obtain ⟨hopen, hsql⟩ := hregular
          have hrest := ih hsql []
          rw [leadingLiteral?_eq_none hopen] at hrest
          by_cases hwords : executionWords <:+ before <;>
            simpa [SqlPiece.tokens, executedAfter, executed,
              hwords] using hrest
      | integer value | real value | verbatim text =>
          obtain ⟨hopen, hsql⟩ := hregular
          have hrest : ∀ plain : List Char,
              executedAfter before (plain.map .bare ++ tokens sql) =
                (executed sql).map String.toList := by
            intro plain
            rw [executedAfter_map_bare, ih hsql, leadingLiteral?_eq_none hopen]
            simp
          simpa [SqlPiece.tokens, executed] using hrest _

theorem executed_tokens {sql : Sql} (hregular : Regular sql) :
    Reading.executed (tokens sql) = (executed sql).map String.toList := by
  have hempty : ¬executionWords <:+ [] := by decide
  simpa [Reading.executed, hempty] using executedAfter_tokens hregular []

end Sql

end SchemaDdl
