import SchemaDdl.Proofs.Emulation.Mode
import SchemaDdl.Proofs.Reading.Words

/-!
# The clauses of a column definition

The clauses of a definition come from two places: the modifiers of the column, in their
fixed order, and its type, which may bring a clause of the same kind along.
`readClauses` finds the clauses in the text of a definition by their keywords, outside
quotes and brackets, and `Column.readClauses_definition` tells which it finds.

A type that brings a default along brings it before the modifiers.  Otherwise the
clauses stand in the order of the modifiers, and no clause stands twice unless the
column asks by a modifier for what its type already brings.
-/

namespace SchemaDdl

open Reading
open scoped List

/-! ## Finding clauses -/

/-- The clause that a word completes, behind the words before it, the last one first.
A key may be generated by default, which is not the clause for defaults. -/
def clauseAt : List String → String → Option Column.Modifier
  | "CHARACTER" :: _, "SET" => some .charset
  | _, "COLLATE" => some .collate
  | "PRIMARY" :: _, "KEY" => some .increment
  | "NOT" :: _, "NULL" => some .nullable
  | "BY" :: "GENERATED" :: _, "DEFAULT" => none
  | _, "DEFAULT" => some .default
  | _, _ => none

/-- The clauses among some words, behind the words before them. -/
def clausesAfter (before : List String) : List String → List Column.Modifier
  | [] => []
  | word :: rest => (clauseAt before word).toList ++ clausesAfter (word :: before) rest

/-- The clauses that a reader finds in a text outside quotes and brackets, in their
order. -/
def readClauses (text : String) : List Column.Modifier :=
  clausesAfter [] (words (surface 0 (scan text.toList)))

/-- The words that open the clause of a modifier. -/
def Column.Modifier.opening : Column.Modifier → List String
  | .charset => ["CHARACTER", "SET"]
  | .collate => ["COLLATE"]
  | .increment => ["PRIMARY", "KEY"]
  | .nullable => ["NOT", "NULL"]
  | .default => ["DEFAULT"]

/-- The text opens the clause of a modifier for a word that stands directly behind it. -/
def Column.Modifier.OpenedBy (modifier : Column.Modifier) (text : String) : Prop :=
  QuietText text ∧ Breaks text.toList ∧ text.toList.getLast? = some ' ' ∧
    words text.toList = modifier.opening

instance (modifier : Column.Modifier) (text : String) : Decidable (modifier.OpenedBy text) :=
  inferInstanceAs (Decidable (QuietText text ∧ Breaks text.toList ∧
    text.toList.getLast? = some ' ' ∧ words text.toList = modifier.opening))

/-- The words that clauses are known by, and those of a generated key. -/
def clauseWords : List String :=
  Column.Modifier.inOrder.flatMap Column.Modifier.opening ++ ["GENERATED", "BY"]

/-- A text in which a reader finds neither quotes nor brackets, nor words of clauses. -/
def Wordlike (text : String) : Prop :=
  QuoteFree text ∧ QuietText text ∧ ∀ word ∈ words text.toList, word ∉ clauseWords

instance : DecidablePred Wordlike := fun text => inferInstanceAs
  (Decidable (QuoteFree text ∧ QuietText text ∧ ∀ word ∈ words text.toList, word ∉ clauseWords))

theorem clausesAfter_append (before a b : List String) :
    clausesAfter before (a ++ b) = clausesAfter before a ++ clausesAfter (a.reverse ++ before) b := by
  induction a generalizing before with
  | nil => rfl
  | cons word a ih => simp [clausesAfter, ih]

/-- The words carry the clauses wherever they stand, except where a default would be that
of a generated key. -/
def Carries (shown : List String) (clauses : List Column.Modifier) : Prop :=
  ∀ before, before.head? ≠ some "BY" →
    clausesAfter before shown = clauses ∧ (shown.reverse ++ before).head? ≠ some "BY"

namespace Carries

variable {shown shown' : List String} {clauses clauses' : List Column.Modifier}

theorem nil : Carries [] [] := fun _ hbefore => ⟨rfl, hbefore⟩

theorem append (h : Carries shown clauses) (h' : Carries shown' clauses') :
    Carries (shown ++ shown') (clauses ++ clauses') := by
  intro before hbefore
  obtain ⟨hclauses, hbefore⟩ := h before hbefore
  obtain ⟨hclauses', hbefore⟩ := h' _ hbefore
  refine ⟨?_, by simpa using hbefore⟩
  rw [clausesAfter_append, hclauses, hclauses']

theorem clauseAt_of_not_mem {word : String} (hword : word ∉ clauseWords) (before : List String) :
    clauseAt before word = none := by
  unfold clauseAt
  split <;> first | rfl | exact absurd (by decide) hword

/-- Words that no clause is known by carry none. -/
theorem none (h : ∀ word ∈ shown, word ∉ clauseWords) : Carries shown [] := by
  induction shown with
  | nil => exact .nil
  | cons word shown ih =>
      obtain ⟨hword, hshown⟩ := List.forall_mem_cons.mp h
      intro before _
      have hby : (word :: before).head? ≠ some "BY" := by
        rintro ⟨⟩
        exact hword (by decide)
      obtain ⟨hclauses, hlast⟩ := ih hshown (word :: before) hby
      refine ⟨?_, by simpa using hlast⟩
      rw [clausesAfter, clauseAt_of_not_mem hword, hclauses]
      rfl

/-- A clause is found by its opening. -/
theorem opening (modifier : Column.Modifier) : Carries modifier.opening [modifier] := by
  intro before hbefore
  cases modifier with
  | default =>
      have hclause : clauseAt before "DEFAULT" = some .default := by
        cases before with
        | nil => rfl
        | cons word before =>
            have hby : word ≠ "BY" := by simpa using hbefore
            unfold clauseAt
            split <;> simp_all
      simp [Column.Modifier.opening, clausesAfter, hclause]
  | _ => simp [Column.Modifier.opening, clausesAfter, clauseAt]

/-- The words that say how a key is generated carry no clause. -/
theorem generated : Carries ["GENERATED", "BY", "DEFAULT", "AS", "IDENTITY"] [] := by
  intro before _
  simp [clausesAfter, clauseAt]

end Carries

/-! ## The clauses of the pieces -/

/-- No word of a written number opens a clause: each of those has a letter that no number
has. -/
theorem not_mem_clauseWords_of_numeral {text : List Char} (htext : ∀ c ∈ text, IsNumeral c) :
    ∀ word ∈ words text, word ∉ clauseWords := by
  intro word hword hclause
  have hletters : ∀ word ∈ clauseWords, (word.toList.any ("TYL".toList.contains ·)) = true := by
    decide
  obtain ⟨letter, hletter, hspecial⟩ := List.any_eq_true.mp (hletters word hclause)
  obtain ⟨c, hc, rfl⟩ := exists_of_mem_words hword hletter
  rcases htext c hc with hdigit | hmark
  · have hdigits : ("TYL".toList.all (!·.isDigit)) = true := by decide
    rw [toUpper_of_isDigit hdigit, List.contains_iff_mem] at hspecial
    simpa [hdigit] using List.all_eq_true.mp hdigits c hspecial
  · have hmarks : ("-.infNa".toList.all (!"TYL".toList.contains ·.toUpper)) = true := by decide
    have hnone : (!"TYL".toList.contains c.toUpper) = true :=
      List.all_eq_true.mp hmarks c hmark
    rw [hspecial] at hnone
    exact absurd hnone (by decide)

/-- A reader finds the clauses in the text, which begins and ends outside brackets. -/
def Sql.ShowsClauses (sql : Sql) (clauses : List Column.Modifier) : Prop :=
  ∃ shown, Sql.Shows 0 sql shown 0 ∧ Carries shown clauses

namespace Sql.ShowsClauses

variable {sql sql' : Sql} {clauses clauses' : List Column.Modifier}

theorem nil : ShowsClauses [] [] := ⟨[], .nil, .nil⟩

theorem append (h : ShowsClauses sql clauses) (h' : ShowsClauses sql' clauses') :
    ShowsClauses (sql ++ sql') (clauses ++ clauses') := by
  obtain ⟨shown, hshown, hcarries⟩ := h
  obtain ⟨shown', hshown', hcarries'⟩ := h'
  exact ⟨shown ++ shown', hshown.append hshown', hcarries.append hcarries'⟩

theorem flatMap {α : Type} {clause : α → Sql} {clauses : α → List Column.Modifier}
    {items : List α} (h : ∀ item ∈ items, ShowsClauses (clause item) (clauses item)) :
    ShowsClauses (items.flatMap clause) (items.flatMap clauses) := by
  induction items with
  | nil => exact .nil
  | cons item items ih =>
      obtain ⟨hitem, hitems⟩ := List.forall_mem_cons.mp h
      exact hitem.append (ih hitems)

/-- Text without brackets and without words of clauses. -/
theorem free (hquiet : ∀ token ∈ tokens sql, token.Quiet)
    (hbreaks : Breaks ((tokens sql).map Token.face))
    (hwords : ∀ word ∈ words ((tokens sql).map Token.face), word ∉ clauseWords) :
    ShowsClauses sql [] :=
  ⟨_, .quiet hquiet hbreaks, .none hwords⟩

/-- Text without words outside brackets. -/
theorem hidden (h : Shows 0 sql [] 0) : ShowsClauses sql [] := ⟨[], h, .nil⟩

theorem name (parts : Name) : ShowsClauses [.name parts] [] := by
  have htokens : tokens [.name parts] = parts.tokens := by simp [SqlPiece.tokens]
  have hface : ∀ c ∈ (tokens [.name parts]).map Token.face, isWordChar c = false := by
    intro c hc
    obtain ⟨token, htoken, rfl⟩ := List.mem_map.mp hc
    rw [htokens] at htoken
    rcases Name.mem_tokens htoken with rfl | ⟨part, -, rfl⟩
    · decide
    · cases part <;> rfl
  refine free ?_ (breaks_of_forall hface) ?_
  · rw [htokens]
    exact fun token => Name.quiet_of_mem_tokens
  · rw [words_eq_nil hface]
    exact fun word hword => absurd hword List.not_mem_nil

/-- Words of the dialect that carry clauses by themselves. -/
theorem words {text : String} (shown : List String)
    (htext : QuietText text ∧ Breaks text.toList ∧ Reading.words text.toList = shown)
    (hcarries : Carries shown clauses) : ShowsClauses [.plain text] clauses := by
  obtain ⟨hquiet, hbreaks, rfl⟩ := htext
  have hface : (tokens [.plain text]).map Token.face = text.toList := by
    simp [SqlPiece.tokens, SqlPiece.chars, Token.face, Function.comp_def]
  have hshows : Shows 0 [.plain text] (Reading.words ((tokens [.plain text]).map Token.face)) 0 :=
    .quiet (by simpa [SqlPiece.tokens, SqlPiece.chars] using fun c hc => hquiet c hc)
      (hface ▸ hbreaks)
  rw [hface] at hshows
  exact ⟨_, hshows, hcarries⟩

/-- Words that open a clause, and what they are said of. -/
theorem clause {modifier : Column.Modifier} {opening : String}
    (hopening : modifier.OpenedBy opening) {piece : SqlPiece}
    (hpiece : ∀ token ∈ piece.tokens, token.Quiet)
    (hfree : ∀ word ∈ Reading.words (piece.tokens.map Token.face), word ∉ clauseWords) :
    ShowsClauses [.plain opening, piece] [modifier] := by
  obtain ⟨hquiet, hbreaks, hlast, hwords⟩ := hopening
  have htokens : tokens [.plain opening, piece] =
      opening.toList.map .bare ++ piece.tokens := by simp [SqlPiece.tokens, SqlPiece.chars]
  have hface : (tokens [.plain opening, piece]).map Token.face =
      opening.toList ++ piece.tokens.map Token.face := by
    simp [htokens, Token.face, Function.comp_def]
  have hshows : Shows 0 [.plain opening, piece]
      (Reading.words (opening.toList ++ piece.tokens.map Token.face)) 0 := by
    rw [← hface]
    refine .quiet ?_ ?_
    · rw [htokens]
      simpa [or_imp, forall_and] using ⟨hquiet, hpiece⟩
    · rw [hface]
      cases htext : opening.toList with
      | nil => simp [htext] at hlast
      | cons c text =>
          rw [htext] at hbreaks
          exact hbreaks
  refine ⟨_, hshows, ?_⟩
  rw [words_append_of_getLast? hlast, hwords]
  exact (Carries.opening modifier).append (.none hfree)

end Sql.ShowsClauses

/-! ## The clauses of a definition -/

namespace Sql

theorem shows_bracketed {inner : Sql} (h : Shows 1 inner [] 1) :
    Shows 0 (.plain "(" :: (inner ++ [.plain ")"])) [] 0 := by
  have hopen : Shows 0 [.plain "("] [] 1 := ⟨['('], fun _ => rfl, by decide, rfl⟩
  have hclose : Shows 1 [.plain ")"] [] 0 := ⟨[' '], fun _ => rfl, by decide, rfl⟩
  exact hopen.append (h.append hclose)

end Sql

theorem flatMap_ite_eq_filter {α : Type} (p : α → Bool) (items : List α) :
    (items.flatMap fun item => if p item then [item] else []) = items.filter p := by
  induction items with
  | nil => rfl
  | cons item items ih => cases hitem : p item <;> simp [hitem, ih]

namespace Column

variable {column : Column}

/-- The words that types of the dialect begin with. -/
def typeWords : List String := ["CHAR", "VARCHAR", "DECIMAL", "NUMERIC"] ++ bareTypeWords

theorem showsClauses_typeWords {words : String} (hwords : words ∈ typeWords) :
    Sql.ShowsClauses [.plain " ", .plain words] [] := by
  have hall : ∀ words ∈ typeWords,
      (∀ token ∈ Sql.tokens [.plain " ", .plain words], token.Quiet) ∧
        Breaks ((Sql.tokens [.plain " ", .plain words]).map Token.face) ∧
        ∀ word ∈ Reading.words ((Sql.tokens [.plain " ", .plain words]).map Token.face),
          word ∉ clauseWords := by decide
  obtain ⟨hquiet, hbreaks, hfree⟩ := hall words hwords
  exact .free hquiet hbreaks hfree

theorem showsClauses_sized {type : String} (htype : type ∈ typeWords) (length : Nat) :
    Sql.ShowsClauses (.plain " " :: sized type length) [] := by
  have hlength : Sql.Shows 1 [.integer length] [] 1 := .hiddenValue trivial
  exact (showsClauses_typeWords htype).append (.hidden (Sql.shows_bracketed hlength))

theorem showsClauses_scaled {type : String} (htype : type ∈ typeWords) (total places : Nat) :
    Sql.ShowsClauses (.plain " " :: scaled type total places) [] := by
  have htotal : Sql.Shows 1 [.integer total] [] 1 := .hiddenValue trivial
  have hcomma : Sql.Shows 1 [.plain ", "] [] 1 := .hidden (by decide)
  have hplaces : Sql.Shows 1 [.integer places] [] 1 := .hiddenValue trivial
  exact (showsClauses_typeWords htype).append
    (.hidden (Sql.shows_bracketed (htotal.append (hcomma.append hplaces))))

/-- The check shows its first word only. -/
theorem showsClauses_checked (name : String) (allowed : List String) :
    Sql.ShowsClauses (.plain " " :: checked name allowed) [] := by
  have hcheck : Sql.Shows 0 [.plain " CHECK ("] ["CHECK"] 1 :=
    ⟨" CHECK (".toList, fun _ => rfl, by decide, by decide⟩
  have hname : Sql.Shows 1 [.name (.ofString name)] [] 1 := by
    refine .hidden fun token htoken => ?_
    have hquiet : token.Quiet := Name.quiet_of_mem_tokens (by simpa [SqlPiece.tokens] using htoken)
    exact ⟨hquiet.1, hquiet.2.1⟩
  have hlist : Sql.Shows 1 [.plain " IN ("] [] 2 :=
    ⟨List.replicate 5 ' ', fun _ => rfl, by decide, by decide⟩
  have hcomma : Sql.Shows 2 [.plain ", "] [] 2 := .hidden (by decide)
  have hvalues : Sql.Shows 2 (Sql.separated ", " (allowed.map fun value => [.literal value]))
      [] 2 := by
    refine .separated hcomma fun part hpart => ?_
    obtain ⟨value, -, rfl⟩ := List.mem_map.mp hpart
    exact .hiddenValue trivial
  have hclose : Sql.Shows 2 [.plain "))"] [] 0 :=
    ⟨List.replicate 2 ' ', fun _ => rfl, by decide, by decide⟩
  have hopening := hcheck.append (hname.append hlist)
  have hword : Carries ["CHECK"] [] := .none (by decide)
  have hsized : Sql.ShowsClauses (.plain " " :: sized "VARCHAR" 255) [] :=
    showsClauses_sized (by decide) 255
  have hbracketed : Sql.ShowsClauses
      (([.plain " CHECK ("] ++ ([.name (.ofString name)] ++ [.plain " IN ("])) ++
        (Sql.separated ", " (allowed.map fun value => [.literal value]) ++ [.plain "))"])) [] :=
    ⟨_, hopening.append (hvalues.append hclose), hword⟩
  have hchecked := hsized.append hbracketed
  simpa [checked] using hchecked

/-- The type of a column shows the clauses that it brings along. -/
theorem showsClauses_typeSql {type : Sql} (h : column.typeSql = .ok type) :
    Sql.ShowsClauses (.plain " " :: type) column.typeClauses := by
  have hform := typeForm_of_typeSql h
  generalize column.typeClauses = clauses at hform ⊢
  cases hform with
  | bare hwords => exact showsClauses_typeWords (List.mem_append_right _ hwords)
  | sized hwords length =>
      have htype : ∀ words ∈ ["CHAR", "VARCHAR"], words ∈ typeWords := by decide
      exact showsClauses_sized (htype _ hwords) length
  | scaled hwords total places =>
      have htype : ∀ words ∈ ["DECIMAL", "NUMERIC"], words ∈ typeWords := by decide
      exact showsClauses_scaled (htype _ hwords) total places
  | checked => exact showsClauses_checked column.name _
  | octets =>
      have hfree : Carries ["OCTETS"] [] := .none (by decide)
      have hclause : Sql.ShowsClauses [.plain " CHARACTER SET OCTETS"] [.charset] :=
        .words ["CHARACTER", "SET", "OCTETS"] (by decide) ((Carries.opening .charset).append hfree)
      exact (showsClauses_sized (by decide) 8191).append hclause
  | current =>
      have hfree : Carries ["CURRENT_TIMESTAMP"] [] := .none (by decide)
      have hclause : Sql.ShowsClauses [.plain " DEFAULT CURRENT_TIMESTAMP"] [.default] :=
        .words ["DEFAULT", "CURRENT_TIMESTAMP"] (by decide) ((Carries.opening .default).append hfree)
      exact (showsClauses_typeWords (by decide)).append hclause

/-- Whether the column asks for the clause by a modifier. -/
def asks (column : Column) : Modifier → Bool
  | .charset => column.charset.isSome
  | .collate => column.collation.isSome
  | .increment => column.isSerial
  | .nullable => !column.nullable
  | .default => column.defaultValue.isSome

theorem showsClauses_verbatim {modifier : Modifier} {opening : String}
    (hopening : modifier.OpenedBy opening) {text : String} (htext : Wordlike text) :
    Sql.ShowsClauses [.plain opening, .verbatim text] [modifier] := by
  obtain ⟨-, hquiet, hfree⟩ := htext
  refine .clause hopening ?_ ?_
  · simpa [SqlPiece.tokens, SqlPiece.chars] using fun c hc => hquiet c hc
  · simpa [SqlPiece.tokens, SqlPiece.chars, Token.face, Function.comp_def] using hfree

/-- No value holds words of clauses outside quotes. -/
theorem not_mem_clauseWords_of_value {piece : SqlPiece} (hvalue : piece.IsValue) :
    ∀ word ∈ words (piece.tokens.map Token.face), word ∉ clauseWords := by
  cases piece with
  | literal value =>
      have hnone : words [' '] = [] := rfl
      simp [SqlPiece.tokens, Token.face, hnone]
  | integer value =>
      simpa [SqlPiece.tokens, SqlPiece.chars, Token.face, Function.comp_def] using
        not_mem_clauseWords_of_numeral fun c hc => isNumeral_of_mem_ofInt hc
  | real value =>
      simpa [SqlPiece.tokens, SqlPiece.chars, Token.face, Function.comp_def] using
        not_mem_clauseWords_of_numeral fun c hc => isNumeral_of_mem_real hc
  | _ => exact hvalue.elim

variable {mode : IdentityMode}

theorem isSome_sql? (mode : IdentityMode) (modifier : Modifier) :
    (modifier.sql? mode column).isSome = column.asks modifier := by
  cases modifier with
  | increment => cases hserial : column.isSerial <;> cases mode <;> simp [Modifier.sql?, asks, hserial]
  | nullable => cases hnullable : column.nullable <;> simp [Modifier.sql?, asks, hnullable]
  | _ => simp [Modifier.sql?, asks]

theorem showsClauses_keyWords {words : String} (hwords : words ∈ keyWords) :
    Sql.ShowsClauses [.plain words] [.increment] := by
  simp only [keyWords, List.mem_cons, List.not_mem_nil, or_false] at hwords
  rcases hwords with rfl | rfl
  · exact .words (["GENERATED", "BY", "DEFAULT", "AS", "IDENTITY"] ++ ["PRIMARY", "KEY"]) (by decide)
      (Carries.generated.append (.opening .increment))
  · exact .words ["PRIMARY", "KEY"] (by decide) (.opening .increment)

/-- A modifier shows its clause if the column asks for it. -/
theorem showsClauses_clause
    (hwords : ∀ text ∈ column.charset.toList ++ column.collation.toList, Wordlike text)
    (hdefault : column.defaultValue.bind DefaultValue.expression? = none) (modifier : Modifier) :
    Sql.ShowsClauses (clause mode column modifier)
      (if column.asks modifier then [modifier] else []) := by
  have hform := clauseForm mode column modifier
  rw [clause, ← isSome_sql? mode]
  generalize modifier.sql? mode column = written at hform ⊢
  cases hform with
  | absent => exact .nil
  | charset htext =>
      exact showsClauses_verbatim (by decide) (hwords _ (by simp [htext]))
  | collate htext =>
      exact showsClauses_verbatim (by decide) (hwords _ (by simp [htext]))
  | increment hkey => exact showsClauses_keyWords hkey
  | nullable => exact .words ["NOT", "NULL"] (by decide) (.opening .nullable)
  | @default value hvalue =>
      have hclause {piece : SqlPiece} (hpiece : piece.IsValue) :
          Sql.ShowsClauses [.plain " DEFAULT ", piece] [.default] :=
        .clause (by decide) hpiece.quiet (not_mem_clauseWords_of_value hpiece)
      cases value with
      | expression sql => exact absurd hdefault (by simp [hvalue, DefaultValue.expression?])
      | bool | integer | real | string => exact hclause trivial

/-- A reader finds the clauses that the type brings along, and behind them those of the
modifiers in their order. -/
theorem readClauses_definition {definition : Sql} (h : column.definition mode = .ok definition)
    (hwords : ∀ text ∈ column.charset.toList ++ column.collation.toList, Wordlike text)
    (hdefault : column.defaultValue.bind DefaultValue.expression? = none) :
    readClauses definition.text =
      column.typeClauses ++ Modifier.inOrder.filter column.asks := by
  have hverbatims : ∀ text ∈ column.verbatims, QuoteFree text := by
    intro text htext
    rw [verbatims, hdefault] at htext
    exact (hwords text (by simpa using htext)).1
  have hscan := (content_definition h).scan_chars hverbatims
  obtain ⟨-, type, htype, rfl⟩ := definition_eq_ok_iff.mp h
  have hmodifiers : Sql.ShowsClauses (column.modifiers mode)
      (Modifier.inOrder.flatMap fun modifier => if column.asks modifier then [modifier] else []) := by
    rw [modifiers_eq_flatMap]
    exact .flatMap fun modifier _ => showsClauses_clause hwords hdefault modifier
  obtain ⟨shown, ⟨text, hsurface, -, rfl⟩, hcarries⟩ :=
    (Sql.ShowsClauses.name (.ofString column.name)).append
      ((showsClauses_typeSql htype).append hmodifiers)
  have htext := hsurface []
  rw [List.append_nil, surface, List.append_nil] at htext
  rw [readClauses, Sql.toList_text, hscan]
  rw [← flatMap_ite_eq_filter]
  exact (congrArg (fun text => clausesAfter [] (words text)) htext).trans
    (hcarries [] (by simp)).1

/-- Whether the type of the column makes the current time its default. -/
def isStamped (column : Column) : Bool :=
  (column.type = .timestamp || column.type = .timestampTz) && column.useCurrent

/-- Whether the type of the column brings the clause along. -/
def brings (column : Column) : Modifier → Bool
  | .charset => column.type = .jsonb
  | .default => column.isStamped
  | _ => false

/-- Whether the column asks by a modifier for a clause that its type brings along. -/
def repeats (column : Column) (modifier : Modifier) : Bool :=
  column.asks modifier && column.brings modifier

/-- The order in which clauses can stand: that of the modifiers, except that the default
of a type stands before them. -/
def clauseOrder (column : Column) : List Modifier :=
  if column.isStamped then [.default, .charset, .collate, .increment, .nullable]
  else Modifier.inOrder

theorem typeClauses_eq (column : Column) :
    column.typeClauses = Modifier.inOrder.filter column.brings := by
  have htype : column.typeClauses =
      if column.type = .jsonb then [.charset] else if column.isStamped then [.default] else [] := by
    unfold typeClauses isStamped
    cases column.type <;> simp
  rw [htype]
  by_cases hjsonb : column.type = .jsonb
  · have hstamped : column.isStamped = false := by simp [isStamped, hjsonb]
    simp [Modifier.inOrder, brings, hjsonb, hstamped, List.filter]
  · cases hstamped : column.isStamped <;>
      simp [Modifier.inOrder, brings, hjsonb, hstamped, List.filter]

theorem brings_charset_of_isStamped (h : column.isStamped = true) :
    column.brings .charset = false := by
  cases htype : column.type <;> simp_all [isStamped, brings]

end Column

/-- A definition has the clauses that its column asks for or its type brings along.  Those
for which not both is true stand in it once, and in their order. -/
theorem clauses_in_order {mode : IdentityMode} {column : Column} {definition : Sql}
    (h : column.definition mode = .ok definition)
    (hwords : ∀ text ∈ column.charset.toList ++ column.collation.toList, Wordlike text)
    (hdefault : column.defaultValue.bind DefaultValue.expression? = none) :
    column.clauseOrder.Nodup ∧
      (readClauses definition.text).filter (!column.repeats ·) =
        column.clauseOrder.filter fun modifier =>
          (column.asks modifier || column.brings modifier) && !column.repeats modifier := by
  constructor
  · unfold Column.clauseOrder
    split <;> decide
  · rw [Column.readClauses_definition h hwords hdefault, Column.typeClauses_eq,
      List.filter_append, List.filter_filter, List.filter_filter]
    have hcollate : column.brings .collate = false := rfl
    have hincrement : column.brings .increment = false := rfl
    have hnullable : column.brings .nullable = false := rfl
    have hstamp : column.brings .default = column.isStamped := rfl
    cases hstamped : column.isStamped with
    | true =>
        -- The type brings the default along, and the modifier may only repeat it.
        have hcharset := column.brings_charset_of_isStamped hstamped
        cases hasks : column.asks .default <;>
          simp [Column.clauseOrder, Column.Modifier.inOrder, Column.repeats, List.filter_cons,
            hcharset, hcollate, hincrement, hnullable, hstamp, hstamped, hasks]
    | false =>
        cases hasks : column.asks .charset <;> cases hcharset : column.brings .charset <;>
          simp [Column.clauseOrder, Column.Modifier.inOrder, Column.repeats, List.filter_cons,
            hcharset, hcollate, hincrement, hnullable, hstamp, hstamped, hasks]

/-- Names and values that look like clauses, and a default that the type brings along. -/
theorem clauses_in_order_of_hostile_columns :
    let checked : Column :=
      { name := "a\" NOT NULL", type := .enumeration ["DEFAULT", ") COLLATE ("],
        charset := some "UTF8", collation := some "UNICODE_CI",
        defaultValue := some (.string " PRIMARY KEY") }
    let stamped : Column :=
      { name := "b", type := .timestampTz, useCurrent := true, collation := some "PT_BR" }
    (∃ definition : Sql, checked.definition .native = .ok definition ∧
      (readClauses definition.text).filter (!checked.repeats ·) =
        [.charset, .collate, .nullable, .default]) ∧
    ∃ definition : Sql, stamped.definition .native = .ok definition ∧
      (readClauses definition.text).filter (!stamped.repeats ·) =
        [.default, .collate, .nullable] := by
  intro checked stamped
  have hcompiles : ∀ column ∈ [checked, stamped],
      ∃ definition, column.definition .native = .ok definition :=
    List.forall_mem_cons.mpr ⟨⟨_, rfl⟩, List.forall_mem_singleton.mpr ⟨_, rfl⟩⟩
  have hwords : ∀ column ∈ [checked, stamped],
      (∀ text ∈ column.charset.toList ++ column.collation.toList, Wordlike text) ∧
        column.defaultValue.bind DefaultValue.expression? = none := by decide
  have hread : ∀ column ∈ [checked, stamped], ∃ definition : Sql,
      column.definition .native = .ok definition ∧
      (readClauses definition.text).filter (!column.repeats ·) =
        column.clauseOrder.filter fun modifier =>
          (column.asks modifier || column.brings modifier) && !column.repeats modifier := by
    intro column hcolumn
    obtain ⟨definition, hdefinition⟩ := hcompiles column hcolumn
    obtain ⟨hverbatims, hdefault⟩ := hwords column hcolumn
    exact ⟨definition, hdefinition, (clauses_in_order hdefinition hverbatims hdefault).2⟩
  obtain ⟨definition, hdefinition, hclauses⟩ := hread checked (by simp)
  obtain ⟨definition', hdefinition', hclauses'⟩ := hread stamped (by simp)
  exact ⟨⟨definition, hdefinition, hclauses.trans (by decide)⟩,
    ⟨definition', hdefinition', hclauses'.trans (by decide)⟩⟩

/-- The default of a type stands before the other clauses, and a clause that the type
brings along is written again for the modifier. -/
theorem clauses_out_of_order :
    let stamped : Column := { name := "c", type := .timestamp, useCurrent := true }
    let given : Column := { stamped with defaultValue := some (.string "now") }
    let octets : Column := { name := "c", type := .jsonb, charset := some "UTF8" }
    ∀ column ∈ [stamped, given, octets],
      (∀ text ∈ column.charset.toList ++ column.collation.toList, Wordlike text) ∧
      column.defaultValue.bind DefaultValue.expression? = none ∧
      ∃ definition : Sql, column.definition .emulated = .ok definition ∧
        ¬readClauses definition.text <+ Column.Modifier.inOrder := by
  intro stamped given octets
  have hstamped : ∃ definition : Sql, stamped.definition .emulated = .ok definition ∧
      ¬readClauses definition.text <+ Column.Modifier.inOrder := ⟨_, rfl, by decide⟩
  have hgiven : ∃ definition : Sql, given.definition .emulated = .ok definition ∧
      ¬readClauses definition.text <+ Column.Modifier.inOrder := ⟨_, rfl, by decide⟩
  have hoctets : ∃ definition : Sql, octets.definition .emulated = .ok definition ∧
      ¬readClauses definition.text <+ Column.Modifier.inOrder := ⟨_, rfl, by decide⟩
  exact List.forall_mem_cons.mpr ⟨⟨by decide, rfl, hstamped⟩, List.forall_mem_cons.mpr
    ⟨⟨by decide, rfl, hgiven⟩, List.forall_mem_singleton.mpr ⟨by decide, rfl, hoctets⟩⟩⟩

end SchemaDdl
