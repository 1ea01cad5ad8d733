import SchemaDdl.Proofs.Emulation.Mode
import SchemaDdl.Proofs.Reading.Form

/-!
# The modifiers of a column read back

The modifiers of a column follow its type without anything between them.  Character set
and collation are words of the model, and a default may hold anything, the openings of
other clauses included.

A reader takes the clauses one after another all the same (`readContents`).  No opening
begins another one, so what is written at any place begins with one of them at most.
Words end at a blank, which every opening begins with, and a default goes to the end of
the text.  So the text tells everything that is written in it
(`Column.modifiers_text_eq_iff`).
-/

namespace SchemaDdl

/-- A clause that may be written: the words that open it, and what is said behind them if
it is written. -/
structure SuffixClause where
  opening : String
  content : Option String
deriving DecidableEq

namespace SuffixClause

/-- A clause that says nothing behind its opening. -/
def flag (opening : String) (written : Bool) : SuffixClause :=
  ⟨opening, if written then some "" else none⟩

def chars (clause : SuffixClause) : List Char :=
  match clause.content with
  | some content => clause.opening.toList ++ content.toList
  | none => []

@[simp]
theorem flag_inj {opening : String} {written written' : Bool} :
    flag opening written = flag opening written' ↔ written = written' := by
  cases written <;> cases written' <;> simp [flag]

end SuffixClause

/-- The clauses one after another. -/
def writeSuffix (clauses : List SuffixClause) : List Char := clauses.flatMap SuffixClause.chars

namespace Reading

/-- What stands behind an opening, if the text begins with it. -/
def behind? (opening : String) (text : List Char) : Option (List Char) :=
  if opening.toList <+: text then some (text.drop opening.toList.length) else none

/-- What is said in the clauses with the given openings.  All but the last say one word
at most. -/
def readContents : List String → List Char → List (Option String)
  | [], _ => []
  | [opening], text => [(behind? opening text).map String.ofList]
  | opening :: next :: openings, text =>
    match behind? opening text with
    | some rest =>
      some (String.ofList (rest.takeWhile (· ≠ ' '))) ::
        readContents (next :: openings) (rest.dropWhile (· ≠ ' '))
    | none => none :: readContents (next :: openings) text

theorem behind?_append (opening : String) (rest : List Char) :
    behind? opening (opening.toList ++ rest) = some rest := by
  rw [behind?, if_pos (List.prefix_append _ _), List.drop_left]

theorem behind?_eq_none_of_apart {opening opening' : String} (h : Apart opening opening')
    {text : List Char} (htext : opening'.toList <+: text) : behind? opening text = none := by
  rw [behind?, if_neg (h.not_prefix htext)]

theorem behind?_nil {opening : String} (h : opening.toList ≠ []) : behind? opening [] = none := by
  rw [behind?, if_neg]
  intro hprefix
  exact h (List.prefix_nil.mp hprefix)

/-- A word ends where a blank or nothing stands behind it. -/
theorem takeWhile_word {word rest : List Char} (hword : ' ' ∉ word)
    (hrest : ∀ c ∈ rest.head?, c = ' ') :
    (word ++ rest).takeWhile (· ≠ ' ') = word ∧ (word ++ rest).dropWhile (· ≠ ' ') = rest := by
  have hletters : ∀ c ∈ word, decide (c ≠ ' ') = true := by
    intro c hc
    rw [decide_eq_true_eq]
    rintro rfl
    exact hword hc
  rw [List.takeWhile_append_of_pos hletters, List.dropWhile_append_of_pos hletters]
  cases rest with
  | nil => simp
  | cons c rest =>
      obtain rfl : c = ' ' := hrest c rfl
      simp

end Reading

open Reading

@[simp]
theorem writeSuffix_cons (clause : SuffixClause) (clauses : List SuffixClause) :
    writeSuffix (clause :: clauses) = clause.chars ++ writeSuffix clauses := rfl

theorem writeSuffix_eq_nil_or (clauses : List SuffixClause) :
    writeSuffix clauses = [] ∨
      ∃ clause ∈ clauses, clause.opening.toList <+: writeSuffix clauses := by
  induction clauses with
  | nil => exact .inl rfl
  | cons clause clauses ih =>
      obtain ⟨opening, content⟩ := clause
      cases content with
      | some content =>
          refine .inr ⟨_, List.mem_cons_self, content.toList ++ writeSuffix clauses, ?_⟩
          simp [SuffixClause.chars]
      | none =>
          rcases ih with hnil | ⟨clause, hclause, hopening⟩
          · exact .inl hnil
          · exact .inr ⟨clause, List.mem_cons_of_mem _ hclause, hopening⟩

section

variable {opening : String} {clauses : List SuffixClause}

theorem behind?_writeSuffix_eq_none (hopening : opening.toList ≠ [])
    (hclash : ∀ clause ∈ clauses, Apart opening clause.opening) :
    behind? opening (writeSuffix clauses) = none := by
  rcases writeSuffix_eq_nil_or clauses with hnil | ⟨clause, hclause, hbegins⟩
  · rw [hnil, behind?_nil hopening]
  · exact behind?_eq_none_of_apart (hclash clause hclause) hbegins

/-- The text of some clauses ends a word before it. -/
theorem head?_writeSuffix
    (hblank : ∀ clause ∈ clauses, clause.opening.toList.head? = some ' ') :
    ∀ c ∈ (writeSuffix clauses).head?, c = ' ' := by
  intro c hc
  rcases writeSuffix_eq_nil_or clauses with hnil | ⟨clause, hclause, rest, hrest⟩
  · simp [hnil] at hc
  · rw [← hrest, List.head?_append, hblank clause hclause] at hc
    exact (Option.some.inj hc).symm

/-- Clauses whose openings are apart are read back. -/
theorem readContents_writeSuffix
    (hblank : ∀ clause ∈ clauses, clause.opening.toList.head? = some ' ')
    (hapart : (clauses.map SuffixClause.opening).Pairwise Apart)
    (hwords : ∀ clause ∈ clauses.dropLast, ∀ word ∈ clause.content, ' ' ∉ word.toList) :
    readContents (clauses.map SuffixClause.opening) (writeSuffix clauses) =
      clauses.map SuffixClause.content := by
  induction clauses with
  | nil => rfl
  | cons clause clauses ih =>
      obtain ⟨opening, content⟩ := clause
      obtain ⟨hfirst, hblanks⟩ := List.forall_mem_cons.mp hblank
      obtain ⟨hclash, hclashes⟩ := List.pairwise_cons.mp hapart
      have hopening : opening.toList ≠ [] := by
        rintro hempty
        simp [hempty] at hfirst
      -- If the clause is not written, the text begins with a later opening or is at its end.
      have hnone : behind? opening (writeSuffix clauses) = none :=
        behind?_writeSuffix_eq_none hopening fun clause hclause =>
          hclash _ (List.mem_map_of_mem hclause)
      -- The last clause goes to the end of the text, and may hold blanks.
      cases clauses with
      | nil =>
          cases content with
          | none => simpa [readContents, SuffixClause.chars] using hnone
          | some content => simp [readContents, writeSuffix, SuffixClause.chars, behind?_append]
      | cons next clauses =>
          obtain ⟨hword, hwords⟩ := List.forall_mem_cons.mp hwords
          have hrest := ih hblanks hclashes hwords
          cases content with
          | none =>
              rw [List.map_cons] at hrest
              simp only [List.map_cons, readContents, writeSuffix_cons ⟨opening, none⟩,
                SuffixClause.chars, List.nil_append, hnone, hrest]
          | some word =>
              obtain ⟨htake, hdrop⟩ := takeWhile_word (hword word rfl) (head?_writeSuffix hblanks)
              rw [List.map_cons] at hrest
              simp only [List.map_cons, readContents, writeSuffix_cons ⟨opening, some word⟩,
                SuffixClause.chars, List.append_assoc, behind?_append, htake, hdrop,
                String.ofList_toList, hrest]

end

namespace Column

/-- The clauses that a modifier may write; the key clause of a serial column is a clause of
its own for each mode. -/
def suffixClauses (mode : IdentityMode) (column : Column) : Modifier → List SuffixClause
  | .charset => [⟨" CHARACTER SET ", column.charset⟩]
  | .collate => [⟨" COLLATE ", column.collation⟩]
  | .increment =>
    [.flag " GENERATED BY DEFAULT AS IDENTITY PRIMARY KEY" (column.isSerial && mode = .native),
      .flag " PRIMARY KEY" (column.isSerial && mode = .emulated)]
  | .nullable => [.flag " NOT NULL" (!column.nullable)]
  | .default => [⟨" DEFAULT ", column.defaultValue.map (Sql.text ∘ DefaultValue.sql)⟩]

def suffix (mode : IdentityMode) (column : Column) : List SuffixClause :=
  Modifier.inOrder.flatMap (column.suffixClauses mode)

variable {mode mode' : IdentityMode} {column column' : Column}

theorem chars_clause (mode : IdentityMode) (column : Column) (modifier : Modifier) :
    Sql.chars (clause mode column modifier) = writeSuffix (column.suffixClauses mode modifier) := by
  cases modifier with
  | charset =>
      cases hcharset : column.charset <;>
        simp [clause, Modifier.sql?, suffixClauses, hcharset, writeSuffix, SuffixClause.chars,
          SqlPiece.chars]
  | collate =>
      cases hcollation : column.collation <;>
        simp [clause, Modifier.sql?, suffixClauses, hcollation, writeSuffix, SuffixClause.chars,
          SqlPiece.chars]
  | increment =>
      cases hserial : column.isSerial <;> cases mode <;>
        simp [clause, Modifier.sql?, suffixClauses, hserial, writeSuffix, SuffixClause.chars,
          SuffixClause.flag, SqlPiece.chars]
  | nullable =>
      cases hnullable : column.nullable <;>
        simp [clause, Modifier.sql?, suffixClauses, hnullable, writeSuffix, SuffixClause.chars,
          SuffixClause.flag, SqlPiece.chars]
  | default =>
      cases hdefault : column.defaultValue <;>
        simp [clause, Modifier.sql?, suffixClauses, hdefault, writeSuffix, SuffixClause.chars,
          SqlPiece.chars, Sql.text]

/-- The modifiers are written as the clauses one after another. -/
theorem chars_modifiers (mode : IdentityMode) (column : Column) :
    Sql.chars (column.modifiers mode) = writeSuffix (column.suffix mode) := by
  rw [modifiers_eq_flatMap, Sql.chars, List.flatMap_assoc, suffix, writeSuffix, List.flatMap_assoc]
  exact congrArg (List.flatMap · Modifier.inOrder) (funext (chars_clause mode column))

/-- Character set and collation, where the column has them, hold no blank. -/
def SaysWords (column : Column) : Prop :=
  ∀ word ∈ column.charset.toList ++ column.collation.toList, ' ' ∉ word.toList

instance : DecidablePred SaysWords := fun column => inferInstanceAs
  (Decidable (∀ word ∈ column.charset.toList ++ column.collation.toList, ' ' ∉ word.toList))

/-- The words that may open a clause behind the type. -/
def suffixOpenings : List String :=
  [" CHARACTER SET ", " COLLATE ", " GENERATED BY DEFAULT AS IDENTITY PRIMARY KEY",
    " PRIMARY KEY", " NOT NULL", " DEFAULT "]

theorem map_opening_suffix (mode : IdentityMode) (column : Column) :
    (column.suffix mode).map SuffixClause.opening = suffixOpenings := rfl

/-- A reader that knows the openings only gets from the text what each clause says. -/
theorem readContents_modifiers (h : column.SaysWords) (mode : IdentityMode) :
    readContents suffixOpenings (column.modifiers mode).text.toList =
      (column.suffix mode).map SuffixClause.content := by
  have hblank : ∀ opening ∈ suffixOpenings, opening.toList.head? = some ' ' := by decide
  have hapart : suffixOpenings.Pairwise Apart := by decide
  rw [Sql.text, String.toList_ofList, chars_modifiers, ← map_opening_suffix mode column]
  refine readContents_writeSuffix ?_ hapart ?_
  · intro clause hclause
    exact hblank clause.opening (List.mem_map_of_mem hclause)
  · have hcharset : ∀ charset, column.charset = some charset → ' ' ∉ charset.toList := by
      rintro charset hcharset
      exact h charset (by simp [hcharset])
    have hcollation : ∀ collation, column.collation = some collation → ' ' ∉ collation.toList := by
      rintro collation hcollation
      exact h collation (by simp [hcollation])
    simpa +contextual [suffix, Modifier.inOrder, suffixClauses, SuffixClause.flag] using
      And.intro hcharset hcollation

theorem suffix_eq_of_map_content
    (h : (column.suffix mode).map SuffixClause.content =
      (column'.suffix mode').map SuffixClause.content) :
    column.suffix mode = column'.suffix mode' := by
  simpa [suffix, Modifier.inOrder, suffixClauses, SuffixClause.flag] using h

/-- The clauses tell the fields they are written for and, if the column is serial, the mode. -/
theorem suffix_eq_iff :
    column.suffix mode = column'.suffix mode' ↔
      column.charset = column'.charset ∧ column.collation = column'.collation ∧
        column.isSerial = column'.isSerial ∧ (column.isSerial = true → mode = mode') ∧
        column.nullable = column'.nullable ∧
        column.defaultValue.map (Sql.text ∘ DefaultValue.sql) =
          column'.defaultValue.map (Sql.text ∘ DefaultValue.sql) := by
  have hkey : ∀ serial serial' : Bool, ∀ rest : Prop,
      (serial && mode = .native) = (serial' && mode' = .native) ∧
          (serial && mode = .emulated) = (serial' && mode' = .emulated) ∧ rest ↔
        serial = serial' ∧ (serial = true → mode = mode') ∧ rest := by
    intro serial serial' rest
    cases serial <;> cases serial' <;> cases mode <;> cases mode' <;> simp
  simp only [suffix, Modifier.inOrder, suffixClauses, List.flatMap_cons, List.flatMap_nil,
    List.cons_append, List.nil_append, List.cons.injEq, SuffixClause.mk.injEq,
    SuffixClause.flag_inj, Bool.not_inj_iff, true_and, and_true, hkey]

/-- The modifiers of two columns are the same text just if the columns agree on what is
written in them.  The mode counts for serial columns only, of a default its literal, and
a blank in the name of a character set or collation is all that could blur a clause. -/
theorem modifiers_text_eq_iff {settings settings' : Settings} {plan plan' : TablePlan}
    (h : column.SaysWords) (h' : column'.SaysWords) :
    (column.modifiers (plan.mode settings)).text =
        (column'.modifiers (plan'.mode settings')).text ↔
      column.charset = column'.charset ∧ column.collation = column'.collation ∧
        column.isSerial = column'.isSerial ∧
        (column.isSerial = true → plan.mode settings = plan'.mode settings') ∧
        column.nullable = column'.nullable ∧
        column.defaultValue.map (Sql.text ∘ DefaultValue.sql) =
          column'.defaultValue.map (Sql.text ∘ DefaultValue.sql) := by
  rw [← suffix_eq_iff]
  constructor
  · intro htext
    have hcontents := readContents_modifiers h (plan.mode settings)
    rw [htext, readContents_modifiers h'] at hcontents
    exact suffix_eq_of_map_content hcontents.symm
  · intro hsuffix
    rw [Sql.text, Sql.text, chars_modifiers, chars_modifiers, hsuffix]

/-- A default that spells other clauses, as a string and as an expression, and a key in
both modes. -/
theorem modifiers_text_eq_iff_of_spelled_clauses :
    let settings : Settings := {}
    let emulating : TablePlan := { table := "notes" }
    let native : TablePlan := { table := "notes", identity := some .native }
    let value : Column :=
      { name := "body", type := .text, charset := some "UTF8",
        defaultValue := some (.string "it's NOT NULL DEFAULT 0") }
    let value' : Column :=
      { name := "note", type := .json, charset := some "UTF8",
        defaultValue := some (.expression "'it''s NOT NULL DEFAULT 0'") }
    let key : Column := .increments "id"
    value.SaysWords ∧ value'.SaysWords ∧ key.SaysWords ∧
      (value.modifiers (emulating.mode settings)).text =
        (value'.modifiers (native.mode settings)).text ∧
      (key.modifiers (emulating.mode settings)).text ≠
        (key.modifiers (native.mode settings)).text := by
  intro settings emulating native value value' key
  have hvalue : value.SaysWords := by decide
  have hvalue' : value'.SaysWords := by decide
  have hkey : key.SaysWords := by decide
  refine ⟨hvalue, hvalue', hkey, ?_, ?_⟩
  · have hliteral : value.defaultValue.map (Sql.text ∘ DefaultValue.sql) =
        value'.defaultValue.map (Sql.text ∘ DefaultValue.sql) := by decide
    exact (modifiers_text_eq_iff hvalue hvalue').mpr
      ⟨rfl, rfl, rfl, fun hserial => absurd hserial (by decide), rfl, hliteral⟩
  · intro htext
    obtain ⟨-, -, -, hmodes, -⟩ := (modifiers_text_eq_iff hkey hkey).mp htext
    have hmodes : emulating.mode settings = native.mode settings := hmodes rfl
    exact absurd hmodes (by decide)

/-- A character set with a blank may be taken for one with a collation behind it. -/
example :
    let collated : Column :=
      { name := "a", type := .text, charset := some "UTF8", collation := some "UNICODE" }
    let spelled : Column := { name := "a", type := .text, charset := some "UTF8 COLLATE UNICODE" }
    (collated.modifiers .native).text = (spelled.modifiers .native).text ∧
      ¬spelled.SaysWords := by decide

end Column

end SchemaDdl
