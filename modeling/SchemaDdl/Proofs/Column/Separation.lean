import SchemaDdl.Proofs.Compilation.Forms
import SchemaDdl.Proofs.Emulation.Completeness
import SchemaDdl.Proofs.Emulation.Mode
import SchemaDdl.Proofs.Reading.Brackets
import SchemaDdl.Proofs.Reading.Unique

/-!
# Column definitions stand apart

The statements that create a table and that add columns to it list the definitions
of the plan's columns with commas between them, and the definitions hold commas and
brackets themselves.  Every definition closes the brackets that it opens
(`Column.nests_definition`), so a reader that knows quotes and brackets takes the
list apart again: `readCreation` and `readAddition` give back the definitions, one
for each column and in their order.
-/

namespace SchemaDdl

open Reading
open Sql (Nests)

/-! ## Definitions close their brackets -/

namespace Column

variable {column : Column}

theorem nests_sized {type : String} (htype : Nested type) (length : Nat) :
    Nests 0 (sized type length) 0 := by
  have hopen : depthAfter 0 ("(".toList.map .bare) = some 1 := rfl
  have hclose : depthAfter 1 (")".toList.map .bare) = some 0 := rfl
  exact .words htype (.plain hopen (.value trivial (.plain hclose .nil)))

theorem nests_scaled {type : String} (htype : Nested type) (total places : Nat) :
    Nests 0 (scaled type total places) 0 := by
  have hopen : depthAfter 0 ("(".toList.map .bare) = some 1 := rfl
  have hcomma : depthAfter 1 (", ".toList.map .bare) = some 1 := rfl
  have hclose : depthAfter 1 (")".toList.map .bare) = some 0 := rfl
  exact .words htype (.plain hopen (.value trivial
    (.plain hcomma (.value trivial (.plain hclose .nil)))))

/-- The allowed values stand in two pairs of brackets. -/
theorem nests_checked (name : String) (allowed : List String) :
    Nests 0 (checked name allowed) 0 := by
  have hcheck : depthAfter 0 (" CHECK (".toList.map .bare) = some 1 := rfl
  have hlist : depthAfter 1 (" IN (".toList.map .bare) = some 2 := rfl
  have hcomma : depthAfter 2 (", ".toList.map .bare) = some 2 := rfl
  have hclose : depthAfter 2 ("))".toList.map .bare) = some 0 := rfl
  have hvalues : Nests 2 (Sql.separated ", " (allowed.map fun value => [.literal value])) 2 := by
    refine .separated hcomma ?_
    intro part hpart
    obtain ⟨value, -, rfl⟩ := List.mem_map.mp hpart
    exact .value trivial .nil
  have hopening : Nests 0 [.plain " CHECK (", .name (.ofString name), .plain " IN ("] 2 :=
    .plain hcheck (.name _ (.plain hlist .nil))
  have hsized : Nests 0 (sized "VARCHAR" 255) 0 := nests_sized (by decide) 255
  exact ((hsized.append hopening).append hvalues).append (.plain hclose .nil)

theorem nests_typeSql {type : Sql} (h : column.typeSql = .ok type) : Nests 0 type 0 := by
  have hform := typeForm_of_typeSql h
  generalize column.typeClauses = clauses at hform
  cases hform with
  | bare hwords =>
      have hbare : ∀ words ∈ bareTypeWords, Nested words := by decide
      exact .words (hbare _ hwords) .nil
  | sized hwords length =>
      have hsized : ∀ words ∈ ["CHAR", "VARCHAR"], Nested words := by decide
      exact nests_sized (hsized _ hwords) length
  | scaled hwords total places =>
      have hscaled : ∀ words ∈ ["DECIMAL", "NUMERIC"], Nested words := by decide
      exact nests_scaled (hscaled _ hwords) total places
  | checked => exact nests_checked column.name _
  | octets => exact (nests_sized (by decide) 8191).append (.words (by decide) .nil)
  | current => exact .words (by decide) (.words (by decide) .nil)

theorem nests_clause (mode : IdentityMode) (modifier : Modifier)
    (hverbatims : ∀ text ∈ column.verbatims, Nested text) :
    Nests 0 (clause mode column modifier) 0 := by
  unfold clause
  have hform := clauseForm mode column modifier
  generalize modifier.sql? mode column = written at hform
  cases hform with
  | absent => exact .nil
  | @charset text htext =>
      have hpassed : Nested text := hverbatims text (by simp [verbatims, htext])
      exact .words (by decide) (.verbatim hpassed .nil)
  | @collate text htext =>
      have hpassed : Nested text := hverbatims text (by simp [verbatims, htext])
      exact .words (by decide) (.verbatim hpassed .nil)
  | increment hwords =>
      have hkey : ∀ words ∈ keyWords, Nested words := by decide
      exact .words (hkey _ hwords) .nil
  | nullable => exact .words (by decide) .nil
  | @default value hvalue =>
      refine .words (by decide) ?_
      cases value with
      | expression sql =>
          have hpassed : Nested sql :=
            hverbatims sql (by simp [verbatims, hvalue, DefaultValue.expression?])
          exact .verbatim hpassed .nil
      | bool | integer | real | string => exact .value trivial .nil

theorem nests_modifiers (mode : IdentityMode)
    (hverbatims : ∀ text ∈ column.verbatims, Nested text) :
    Nests 0 (column.modifiers mode) 0 := by
  rw [modifiers_eq_flatMap]
  exact .flatMap fun modifier _ => nests_clause mode modifier hverbatims

/-- A definition closes every bracket that it opens, and its commas stand in brackets. -/
theorem nests_definition {mode : IdentityMode} {definition : Sql}
    (h : column.definition mode = .ok definition)
    (hverbatims : ∀ text ∈ column.verbatims, Nested text) : Nests 0 definition 0 := by
  obtain ⟨-, type, htype, rfl⟩ := definition_eq_ok_iff.mp h
  have hbody := (nests_typeSql htype).append (nests_modifiers mode hverbatims)
  exact .name _ (.words (by decide) hbody)

/-- The definition of a column opens with its name. -/
theorem head_tokens_definition {mode : IdentityMode} {definition : Sql}
    (h : column.definition mode = .ok definition) :
    (Sql.tokens definition).head? ≠ some (.bare ' ') := by
  obtain ⟨-, type, -, rfl⟩ := definition_eq_ok_iff.mp h
  obtain ⟨part, tail, htokens⟩ := Name.exists_tokens_eq_cons (Name.ofString_ne_nil column.name)
  rw [Sql.tokens_cons, SqlPiece.tokens, htokens]
  cases part <;> simp [NamePart.token]

theorem write_tokens_definition {mode : IdentityMode} {definition : Sql}
    (h : column.definition mode = .ok definition)
    (hverbatims : ∀ text ∈ column.verbatims, QuoteFree text) :
    write (Sql.tokens definition) = Sql.chars definition := by
  rw [← (content_definition h).scan_chars hverbatims, write_scan]

end Column

/-! ## Reading the definitions back -/

/-- The text of an item. -/
def itemText (item : List Token) : String := String.ofList (write item)

/-- The items of the list in a statement that creates a table by the given words. -/
def readCreationBy (words : String) (tokens : List Token) : Option (List String) :=
  (Form.read (naming words ++ [.words " ("]) tokens).bind fun (_, body) =>
    match readList body with
    | (items, some _) => some (items.map itemText)
    | (_, none) => none

/-- The definitions that a reader of quotes and brackets finds in a statement that
creates a table. -/
def readCreation (text : String) : Option (List String) :=
  tableCreations.findSome? fun words => readCreationBy words (scan text.toList)

/-- The definitions that a reader of quotes and brackets finds in a statement that adds
columns: what its additions add. -/
def readAddition (text : String) : Option (List String) :=
  (Form.read (naming "ALTER TABLE " ++ [.words " "]) (scan text.toList)).bind fun (_, body) =>
    match readList body with
    | (items, none) => items.mapM fun item => (readWords "ADD ".toList item).map itemText
    | (_, some _) => none

/-- The opening of a statement is read up to its list. -/
theorem read_opening {opening : String} (hopening : opening.toList.head?.any (· ≠ '.'))
    (words : String) {table : Name} (htable : table ≠ []) (sql : Sql) :
    Form.read (naming words ++ [.words opening])
        (Sql.tokens (.plain words :: .name table :: .plain opening :: sql)) =
      some ([.name table], Sql.tokens sql) := by
  have hwords := readWords_bare opening.toList (Sql.tokens sql)
  have hread : Form.read [.words opening] (Sql.tokens (.plain opening :: sql)) =
      some ([], Sql.tokens sql) :=
    congrArg (Option.bind · (Form.read [])) hwords
  have hplain : Sql.OpensPlain (.plain opening :: sql) := hopening
  rw [read_naming_append htable hplain, hread, Option.map_some]

theorem readCreationBy_tokens (words : String) {table : Name} (htable : table ≠ []) {sql : Sql}
    {items : List (List Token)} {rest : List Token}
    (hlist : readList (Sql.tokens sql) = (items, some rest)) :
    readCreationBy words (Sql.tokens (.plain words :: .name table :: .plain " (" :: sql)) =
      some (items.map itemText) := by
  rw [readCreationBy, read_opening (by decide) words htable, Option.bind_some]
  simp only [hlist]

/-- The two openings of a creation exclude each other. -/
theorem findSome?_readCreationBy {words : String} (hwords : words ∈ tableCreations) {sql : Sql}
    {items : List String}
    (h : readCreationBy words (Sql.tokens (.plain words :: sql)) = some items) :
    (tableCreations.findSome? fun words' =>
      readCreationBy words' (Sql.tokens (.plain words :: sql))) = some items := by
  simp only [tableCreations, List.mem_cons, List.not_mem_nil, or_false] at hwords
  rcases hwords with rfl | rfl
  · rw [tableCreations, List.findSome?_cons, h]
  · have hother : readCreationBy "CREATE TABLE "
        (Sql.tokens (.plain "CREATE GLOBAL TEMPORARY TABLE " :: sql)) = none := rfl
    rw [tableCreations, List.findSome?_cons, hother, List.findSome?_cons, h]

theorem mapM_readAdded (items : List (List Token)) :
    (items.map ("ADD ".toList.map .bare ++ ·)).mapM
        (fun item => (readWords "ADD ".toList item).map itemText) =
      some (items.map itemText) := by
  have hread : (fun item => (readWords "ADD ".toList item).map itemText) ∘
      ("ADD ".toList.map .bare ++ ·) = fun item => pure (itemText item) := by
    funext item
    rw [Function.comp_apply, readWords_bare]
    rfl
  rw [List.mapM_map, hread, List.mapM_pure]
  rfl

theorem readList_additions {definitions : List Sql} (hdefinitions : definitions ≠ [])
    (hnests : ∀ definition ∈ definitions, Nests 0 definition 0) :
    readList (Sql.tokens (Sql.separated ", " (definitions.map (.plain "ADD " :: ·)))) =
      ((definitions.map Sql.tokens).map ("ADD ".toList.map .bare ++ ·), none) := by
  have hparts : definitions.map (.plain "ADD " :: ·) ≠ [] := by simpa using hdefinitions
  have hadded : ∀ part ∈ definitions.map (.plain "ADD " :: ·), Nests 0 part 0 := by
    intro part hpart
    obtain ⟨definition, hmem, rfl⟩ := List.mem_map.mp hpart
    exact .words (by decide) (hnests definition hmem)
  have hopens : ∀ part ∈ definitions.map (.plain "ADD " :: ·),
      (Sql.tokens part).head? ≠ some (.bare ' ') := by
    intro part hpart
    obtain ⟨definition, -, rfl⟩ := List.mem_map.mp hpart
    exact fun hblank => absurd (Option.some.inj hblank) (by decide)
  have hend : readItems 0 [] = ([[]], none) := rfl
  have hlist := Sql.readList_separated hparts hadded hopens hend
  rw [List.append_nil] at hlist
  rw [hlist, List.map_map, List.map_map]
  rfl

namespace TablePlan

variable {settings : Settings} {plan : TablePlan} {statement : Statement} {definitions : List Sql}

theorem nests_of_mem_definitions (h : plan.definitions settings = .ok definitions)
    (hverbatims : ∀ text ∈ plan.verbatims, Nested text) :
    ∀ definition ∈ definitions, Nests 0 definition 0 := by
  intro definition hmem
  obtain ⟨column, hcolumn, hdefinition⟩ :=
    exists_of_mem_forall₂ (definitions_eq_ok_iff.mp h).flip hmem
  refine Column.nests_definition hdefinition fun text htext => hverbatims text ?_
  exact List.mem_flatMap.mpr ⟨column, hcolumn, htext⟩

theorem definitions_ne_nil (h : plan.definitions settings = .ok definitions)
    (hcolumns : plan.columns ≠ []) : definitions ≠ [] := by
  rintro rfl
  exact hcolumns (List.forall₂_nil_right_iff.mp (definitions_eq_ok_iff.mp h))

theorem head_tokens_of_mem_definitions (h : plan.definitions settings = .ok definitions) :
    ∀ definition ∈ definitions, (Sql.tokens definition).head? ≠ some (.bare ' ') := by
  intro definition hmem
  obtain ⟨column, -, hdefinition⟩ :=
    exists_of_mem_forall₂ (definitions_eq_ok_iff.mp h).flip hmem
  exact Column.head_tokens_definition hdefinition

theorem map_itemText_definitions (h : plan.definitions settings = .ok definitions)
    (hverbatims : ∀ text ∈ plan.verbatims, QuoteFree text) :
    (definitions.map Sql.tokens).map itemText = definitions.map Sql.text := by
  rw [List.map_map]
  refine List.map_congr_left fun definition hmem => ?_
  obtain ⟨column, hcolumn, hdefinition⟩ :=
    exists_of_mem_forall₂ (definitions_eq_ok_iff.mp h).flip hmem
  have hwrite := Column.write_tokens_definition hdefinition fun text htext =>
    hverbatims text (List.mem_flatMap.mpr ⟨column, hcolumn, htext⟩)
  exact congrArg String.ofList hwrite

/-- The creation of a table is read back to the definitions of the columns. -/
theorem readCreation_of_compiled (h : plan.Compiled settings .create statement)
    (hdefinitions : plan.definitions settings = .ok definitions)
    (hverbatims : ∀ text ∈ plan.verbatims, QuoteFree text ∧ Nested text) :
    readCreation statement.text = some (definitions.map Sql.text) := by
  have hquoteFree : ∀ text ∈ plan.verbatims, QuoteFree text :=
    fun text htext => (hverbatims text htext).1
  have hscan := h.content.scan_chars hquoteFree
  cases h with
  | @create definitions' hcolumns hcompiled =>
      obtain rfl := Except.ok.inj (hdefinitions.symm.trans hcompiled)
      have htail : readItems 0 (Sql.tokens (.plain ")" :: plan.commitClause)) =
          ([[]], some (Sql.tokens plan.commitClause)) := rfl
      have hlist := Sql.readList_separated (definitions_ne_nil hdefinitions hcolumns)
        (nests_of_mem_definitions hdefinitions fun text htext => (hverbatims text htext).2)
        (head_tokens_of_mem_definitions hdefinitions) htail
      rw [← Sql.tokens_append] at hlist
      have hread := fun words =>
        readCreationBy_tokens words (Name.ofString_ne_nil (settings.prefixed plan.table)) hlist
      rw [map_itemText_definitions hdefinitions hquoteFree] at hread
      rw [readCreation, Statement.text, Sql.toList_text, hscan, Statement.sql]
      exact findSome?_readCreationBy plan.creationWords_mem (hread plan.creationWords)

/-- The additions of columns are read back to the definitions of the columns. -/
theorem readAddition_of_compiled (h : plan.Compiled settings .add statement)
    (hdefinitions : plan.definitions settings = .ok definitions)
    (hverbatims : ∀ text ∈ plan.verbatims, QuoteFree text ∧ Nested text) :
    readAddition statement.text = some (definitions.map Sql.text) := by
  have hquoteFree : ∀ text ∈ plan.verbatims, QuoteFree text :=
    fun text htext => (hverbatims text htext).1
  have hscan := h.content.scan_chars hquoteFree
  cases h with
  | @add definitions' hcolumns hcompiled =>
      obtain rfl := Except.ok.inj (hdefinitions.symm.trans hcompiled)
      have hlist := readList_additions (definitions_ne_nil hdefinitions hcolumns)
        (nests_of_mem_definitions hdefinitions fun text htext => (hverbatims text htext).2)
      have htable : plan.tableName settings ≠ [] := Name.ofString_ne_nil _
      rw [readAddition, Statement.text, Sql.toList_text, hscan, Statement.sql,
        read_opening (by decide) "ALTER TABLE " htable, Option.bind_some]
      simp only [hlist, mapM_readAdded]
      rw [map_itemText_definitions hdefinitions hquoteFree]

/-- Some command of a plan with columns creates the table or adds the columns. -/
theorem exists_defining_statement {statements : List Statement} (hcolumns : plan.columns ≠ [])
    (h : plan.statements settings = .ok statements) :
    ∃ statement ∈ statements, ∃ command ∈ plan.allCommands (plan.mode settings),
      command ∈ [TableCommand.create, .add] ∧
        plan.compile settings command = .ok statement := by
  obtain ⟨definer, hdefiner, hmem⟩ := exists_definer hcolumns (plan.mode settings)
  obtain ⟨statement, hstatement, hcompiled⟩ :=
    exists_of_mem_forall₂ (statements_eq_ok_iff.mp h) hmem
  exact ⟨statement, hstatement, definer, hmem, hdefiner, hcompiled.compile⟩

theorem Compiled.exists_definitions {command : TableCommand}
    (h : plan.Compiled settings command statement)
    (hcommand : command ∈ [TableCommand.create, .add]) :
    ∃ definitions, plan.definitions settings = .ok definitions := by
  simp only [List.mem_cons, List.not_mem_nil, or_false] at hcommand
  rcases hcommand with rfl | rfl
  · cases h with
    | create hcolumns hdefinitions => exact ⟨_, hdefinitions⟩
  · cases h with
    | add hcolumns hdefinitions => exact ⟨_, hdefinitions⟩

end TablePlan

/-- Some statement of a plan with columns creates its table or adds the columns, and
every such statement is read back to the definitions of the columns, one for each. -/
theorem columns_read_back {settings : Settings} {plan : TablePlan} {statements : List Statement}
    (hcolumns : plan.columns ≠ []) (hstatements : plan.statements settings = .ok statements)
    (hverbatims : ∀ text ∈ plan.verbatims, QuoteFree text ∧ Nested text) :
    ∃ definitions : List Sql,
      List.Forall₂ (fun column definition =>
        column.definition (plan.mode settings) = .ok definition) plan.columns definitions ∧
      (∃ statement ∈ statements, ∃ command ∈ plan.allCommands (plan.mode settings),
        command ∈ [TableCommand.create, .add] ∧
          plan.compile settings command = .ok statement) ∧
      ∀ statement ∈ statements,
        (plan.compile settings .create = .ok statement →
          readCreation statement.text = some (definitions.map Sql.text)) ∧
        (plan.compile settings .add = .ok statement →
          readAddition statement.text = some (definitions.map Sql.text)) := by
  have hdefining := TablePlan.exists_defining_statement hcolumns hstatements
  have ⟨first, _, command, _, hcommand, hfirst⟩ := hdefining
  obtain ⟨definitions, hdefinitions⟩ :=
    (TablePlan.compile_eq_ok_iff.mp hfirst).exists_definitions hcommand
  refine ⟨definitions, TablePlan.definitions_eq_ok_iff.mp hdefinitions, hdefining, ?_⟩
  intro statement _
  constructor
  · intro hcreate
    exact TablePlan.readCreation_of_compiled (TablePlan.compile_eq_ok_iff.mp hcreate)
      hdefinitions hverbatims
  · intro hadd
    exact TablePlan.readAddition_of_compiled (TablePlan.compile_eq_ok_iff.mp hadd)
      hdefinitions hverbatims

/-- Names, values and expressions that look like the ends of items. -/
theorem columns_read_back_of_hostile_items :
    let settings : Settings := { tablePrefix := "app_" }
    let plan : TablePlan :=
      { table := "t (\"x\", y)"
        columns := [.decimal "a, ADD \"b\"" 10 3, .enumeration "k)" ["x, y", "it's (", ")"],
          { name := "c", type := .timestamp, useCurrent := true,
            defaultValue := some (.expression "f(1, g(2, 3))") }]
        commands := [.create, .add] }
    ∃ statements definitions, plan.statements settings = .ok statements ∧
      plan.columns.length = definitions.length ∧
      (∃ statement ∈ statements, readCreation statement.text = some definitions) ∧
      ∃ statement ∈ statements, readAddition statement.text = some definitions := by
  intro settings plan
  have hcompiles : ∃ created added, plan.statements settings = .ok [created, added] ∧
      plan.compile settings .create = .ok created ∧ plan.compile settings .add = .ok added :=
    ⟨_, _, rfl, rfl, rfl⟩
  obtain ⟨created, added, hstatements, hcreated, hadded⟩ := hcompiles
  have hverbatims : ∀ text ∈ plan.verbatims, QuoteFree text ∧ Nested text := by decide
  obtain ⟨definitions, hdefinitions, -, hread⟩ :=
    columns_read_back (List.cons_ne_nil _ _) hstatements hverbatims
  have hlength : plan.columns.length = (definitions.map Sql.text).length := by
    rw [List.length_map]
    exact hdefinitions.length_eq
  exact ⟨[created, added], definitions.map Sql.text, hstatements, hlength,
    ⟨created, by simp, (hread created (by simp)).1 hcreated⟩,
    ⟨added, by simp, (hread added (by simp)).2 hadded⟩⟩

end SchemaDdl
