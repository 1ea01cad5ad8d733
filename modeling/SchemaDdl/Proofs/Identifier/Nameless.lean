import SchemaDdl.Proofs.Compilation.Content
import SchemaDdl.Proofs.Compilation.Requirements

/-!
# Identifiers without a name

A statement shows the empty identifier exactly if a text that it writes as a name has an
empty segment: the text is empty, or a dot stands at one of its ends or beside another
(`hasEmptySegment_iff`).

The checks before a statement look at whole texts, and only at the names of constraints,
indexes and sequences, at the table that a foreign key references and at the column of a
trigger.  There the empty text is refused.  The names of tables and columns, and the
segments of all names, are written unchecked.
-/

namespace SchemaDdl

open Reading

/-! ## Empty segments -/

/-- One of the dot-separated segments of the text is empty. -/
def HasEmptySegment (text : String) : Prop := [] ∈ text.toList.splitOn '.'

instance : DecidablePred HasEmptySegment :=
  fun text => inferInstanceAs (Decidable ([] ∈ text.toList.splitOn '.'))

/-- The first segment of a text is empty if nothing stands before the first dot. -/
theorem nil_mem_splitOn_iff (text : List Char) :
    [] ∈ text.splitOn '.' ↔
      text = [] ∨ ['.'] <+: text ∨ [] ∈ (text.splitOn '.').tail := by
  cases text with
  | nil => simp
  | cons c text =>
      obtain ⟨segment, segments, hsplit⟩ :=
        List.exists_cons_of_ne_nil (List.splitOn_ne_nil '.' text)
      rw [List.splitOn_cons_eq_if_modifyHead]
      by_cases hc : c = '.'
      · simp [hc]
      · simp [hc, hsplit, Ne.symm hc]

/-- A segment behind a dot is empty if the text ends or goes on with a dot there. -/
theorem nil_mem_tail_splitOn_iff (text : List Char) :
    [] ∈ (text.splitOn '.').tail ↔ ['.'] <:+ text ∨ ['.', '.'] <:+: text := by
  induction text with
  | nil => simp
  | cons c text ih =>
      rw [List.splitOn_cons_eq_if_modifyHead, List.suffix_cons_iff, List.infix_cons_iff]
      by_cases hc : c = '.'
      · subst hc
        have hnil : ['.'] = '.' :: text ↔ text = [] := by simp [eq_comm]
        rw [if_pos (by decide), List.tail_cons, nil_mem_splitOn_iff, ih, hnil,
          List.prefix_cons_inj]
        tauto
      · obtain ⟨segment, segments, hsplit⟩ :=
          List.exists_cons_of_ne_nil (List.splitOn_ne_nil '.' text)
        rw [hsplit, List.tail_cons] at ih
        simp [hc, hsplit, ih, Ne.symm hc]

theorem hasEmptySegment_iff {text : String} :
    HasEmptySegment text ↔ text = "" ∨ ['.'] <+: text.toList ∨ ['.'] <:+ text.toList ∨
      ['.', '.'] <:+: text.toList := by
  rw [HasEmptySegment, nil_mem_splitOn_iff, nil_mem_tail_splitOn_iff, String.toList_eq_nil_iff]

/-- The names generated for constraints and indexes have no empty segment. -/
theorem not_hasEmptySegment_indexName (table kind : String) (columns : List String) :
    ¬HasEmptySegment (indexName table kind columns) := by
  have hdot : '.' ∉ (indexName table kind columns).toList :=
    not_mem_indexName (Or.inr rfl) table kind columns
  rw [hasEmptySegment_iff]
  rintro (hempty | hfirst | hlast | hboth)
  · exact indexName_ne_empty table kind columns hempty
  · exact hdot (hfirst.subset (by simp))
  · exact hdot (hlast.subset (by simp))
  · exact hdot (hboth.subset (by simp))

theorem NamePart.ofSegment_eq_delimited_nil_iff {segment : List Char} :
    ofSegment segment = delimited [] ↔ segment = [] := by
  by_cases hstar : segment = ['*']
  · simp [ofSegment, hstar]
  · simp [ofSegment, hstar, identifierLimit]

/-- A name shows the empty identifier for the empty segments of its text. -/
theorem Name.nil_mem_contents_iff {text : String} :
    [] ∈ (ofString text).contents ↔ HasEmptySegment text := by
  simp [mem_contents_iff, ofString, NamePart.ofSegment_eq_delimited_nil_iff, HasEmptySegment]

/-! ## Statements -/

/-- A reader finds the empty identifier in the statement or in one that it executes. -/
def Statement.ShowsNameless (statement : Statement) : Prop :=
  let tokens := scan statement.text.toList
  [] ∈ delimited tokens ∨ ∃ literal ∈ executed tokens, [] ∈ delimited (scan literal)

theorem Sql.Content.showsNameless_iff {verbatims : List String} {names named : List Name}
    {executed : List Sql} {statement : Statement}
    (h : Sql.Content verbatims names executed statement.sql)
    (hverbatims : ∀ text ∈ verbatims, QuoteFree text)
    (hexecuted : List.Forall₂ (fun name sql => Sql.Content [] [name] [] sql) named executed) :
    statement.ShowsNameless ↔ ∃ name ∈ names ++ named, [] ∈ name.contents := by
  have hliterals : (∃ literal ∈ executed.map chars, [] ∈ delimited (scan literal)) ↔
      ∃ name ∈ named, [] ∈ name.contents := by
    -- The statement as a whole takes no part in the induction.
    clear h
    induction hexecuted with
    | nil => simp
    | cons hsql _ ih =>
        have hscan := hsql.delimited_scan (by simp)
        rw [List.map_cons, List.exists_mem_cons_iff, List.exists_mem_cons_iff, ih, hscan]
        simp
  rw [Statement.ShowsNameless, Statement.text, toList_text, h.delimited_scan hverbatims,
    h.executed_scan hverbatims, hliterals]
  simp [List.mem_flatMap, or_and_right, exists_or]

theorem Column.mem_mentions_iff {column : Column} {text : String} :
    text ∈ column.mentions ↔ text = column.name := by
  unfold mentions
  split <;> simp

namespace TablePlan

/-- The texts that the statement of a command writes as names.  The names generated for
constraints and indexes are left out, as they have no empty segment. -/
def writtenNames (settings : Settings) (plan : TablePlan) : TableCommand → List String
  | .create | .add => settings.prefixed plan.table :: plan.columns.map Column.name
  | .drop => [settings.prefixed plan.table]
  | .primary columns => settings.prefixed plan.table :: columns
  | .unique given columns => settings.prefixed plan.table :: (given.toList ++ columns)
  | .index given columns => given.toList ++ settings.prefixed plan.table :: columns
  | .foreign key =>
    settings.prefixed plan.table :: (key.name.toList ++ key.columns ++
      key.on.toList.map settings.prefixed ++ key.references)
  | .dropForeign name => [settings.prefixed plan.table, name]
  | .createGenerator => [settings.generatorName plan.table]
  | .dropGenerator => [settings.triggerName plan.table, settings.generatorName plan.table]
  | .generatorTrigger column =>
    [settings.triggerName plan.table, settings.prefixed plan.table, column,
      settings.generatorName plan.table]

variable {settings : Settings} {plan : TablePlan}

/-- A name that is chosen has an empty segment only if it was given with one. -/
theorem hasEmptySegment_chosenName_iff {kind : CommandKind} {given : Option String}
    {columns : List String} :
    HasEmptySegment (plan.chosenName settings kind given columns) ↔
      ∃ name ∈ given, HasEmptySegment name :=
  chosenName_iff not_hasEmptySegment_indexName

/-- The names of the things that the statements handed to the engine drop. -/
def executedNames (settings : Settings) (plan : TablePlan) : TableCommand → List Name
  | .dropGenerator => [plan.trigger settings, plan.generator settings]
  | _ => []

theorem content_commandExecuted (command : TableCommand) :
    List.Forall₂ (fun name sql => Sql.Content [] [name] [] sql)
      (plan.executedNames settings command) (plan.commandExecuted settings command) := by
  cases command with
  | dropGenerator =>
      exact .cons (content_naming (by decide) (Name.ofString_ne_nil _))
        (.cons (content_naming (by decide) (Name.ofString_ne_nil _)) .nil)
  | _ => exact .nil

theorem nil_mem_names_iff (command : TableCommand) :
    (∃ name ∈ plan.commandNames settings command ++ plan.executedNames settings command,
        [] ∈ name.contents) ↔
      ∃ text ∈ plan.writtenNames settings command, HasEmptySegment text := by
  cases command <;>
    simp [commandNames, executedNames, writtenNames, tableName, Settings.qualified, generator,
      trigger, Name.nil_mem_contents_iff, hasEmptySegment_chosenName_iff,
      Column.mem_mentions_iff, or_and_right, exists_or]

/-- The statement of a command shows the empty identifier for the empty segments of what it
writes. -/
theorem Compiled.showsNameless_iff {command : TableCommand} {statement : Statement}
    (h : Compiled settings plan command statement)
    (hverbatims : ∀ text ∈ plan.verbatims, QuoteFree text) :
    statement.ShowsNameless ↔
      ∃ text ∈ plan.writtenNames settings command, HasEmptySegment text := by
  have hquoteFree : ∀ text ∈ plan.commandVerbatims command, QuoteFree text :=
    fun text htext => hverbatims text (mem_verbatims_of_command htext)
  rw [h.content.showsNameless_iff hquoteFree (content_commandExecuted command),
    nil_mem_names_iff]

end TablePlan

/-- Every statement of a sequence shows the empty identifier for the empty segments of its
name. -/
theorem SequencePlan.showsNameless_compileNamed_iff (settings : Settings) (plan : SequencePlan)
    (command : SequenceCommand) :
    (plan.compileNamed settings command).ShowsNameless ↔
      HasEmptySegment (settings.prefixed plan.sequence) := by
  have hcontent := plan.content_compileNamed settings command
  rw [← Name.nil_mem_contents_iff]
  cases command with
  | dropIfExists =>
      have hdrop := content_naming (by decide : Keywords "DROP SEQUENCE ")
        (Name.ofString_ne_nil (settings.prefixed plan.sequence))
      rw [hcontent.showsNameless_iff (by simp) (.cons hdrop .nil)]
      simp [commandNames]
  | _ =>
      rw [hcontent.showsNameless_iff (by simp) .nil]
      simp [commandNames, name, Settings.qualified]

/-! ## What is refused -/

/-- The names in a command that are checked before it compiles. -/
def TableCommand.checkedNames : TableCommand → List String
  | .unique name _ | .index name _ => name.toList
  | .foreign key => key.name.toList ++ key.on.toList
  | .dropForeign name => [name]
  | .generatorTrigger column => [column]
  | _ => []

namespace TablePlan

variable {settings : Settings} {plan : TablePlan}

theorem Compiled.empty_not_mem_checkedNames {command : TableCommand} {statement : Statement}
    (h : Compiled settings plan command statement) : "" ∉ command.checkedNames := by
  cases h with
  | unique hname _ | index hname _ =>
      simpa [TableCommand.checkedNames] using chosenName_ne_empty_iff.mp hname
  | foreign hname _ hon htable _ =>
      have hgiven := chosenName_ne_empty_iff.mp hname
      simpa [TableCommand.checkedNames, hon, Ne.symm htable] using hgiven
  | dropForeign hname | generatorTrigger hname =>
      simpa [TableCommand.checkedNames] using Ne.symm hname
  | _ => simp [TableCommand.checkedNames]

/-- A plan is refused if the empty text stands where names are checked. -/
theorem statements_eq_error_of_checkedNames {command : TableCommand}
    (hcommand : command ∈ plan.allCommands (plan.mode settings))
    (hempty : "" ∈ command.checkedNames) : ∃ error, plan.statements settings = .error error := by
  cases hstatements : plan.statements settings with
  | error error => exact ⟨error, rfl⟩
  | ok statements =>
      obtain ⟨statement, -, hcompiled⟩ :=
        exists_of_mem_forall₂ (statements_eq_ok_iff.mp hstatements) hcommand
      exact absurd hempty hcompiled.empty_not_mem_checkedNames

/-- Of the name of the table no requirement tells. -/
theorem met_requirements_withTable (settings : Settings) (plan : TablePlan) (table : String)
    (command : TableCommand) :
    (TablePlan.requirements settings { plan with table } command).map Requirement.met =
      (plan.requirements settings command).map Requirement.met := by
  cases command <;> rfl

theorem valid_withTable_iff (table : String) {command : TableCommand} :
    TablePlan.Valid settings { plan with table } command ↔ plan.Valid settings command := by
  have hmet : ∀ requirements : List Requirement,
      (∀ requirement ∈ requirements, requirement.met = true) ↔
        ∀ met ∈ requirements.map Requirement.met, met = true := by simp
  rw [Valid, Valid, hmet, met_requirements_withTable, ← hmet]

theorem exists_statements_withTable_iff (settings : Settings) (plan : TablePlan) (table : String) :
    (∃ statements, TablePlan.statements settings { plan with table } = .ok statements) ↔
      ∃ statements, plan.statements settings = .ok statements := by
  have hcommands : ∀ mode, TablePlan.allCommands { plan with table } mode =
      plan.allCommands mode := by
    intro mode
    cases mode <;> rfl
  have hmode : TablePlan.mode settings { plan with table } = plan.mode settings := rfl
  rw [exists_statements_iff, exists_statements_iff, hcommands, hmode]
  simp only [valid_withTable_iff]

end TablePlan

theorem SequencePlan.statements_eq_error_of_empty (settings : Settings) {plan : SequencePlan}
    (hcommands : plan.commands ≠ []) (hname : plan.sequence = "") :
    plan.statements settings = .error .emptySequenceName := by
  obtain ⟨command, commands, hcons⟩ := List.exists_cons_of_ne_nil hcommands
  have hrefused : plan.compile settings command = .error .emptySequenceName := by
    rw [compile, hname]
    rfl
  rw [statements, hcons, List.mapM_cons, hrefused]
  rfl

/-! ## When a nameless object is shown -/

/-- What compiles shows the empty identifier exactly if a name that it writes has an empty
segment.  The empty text is refused as the name of a constraint, an index or a sequence, as
the table a foreign key references and as the column of a trigger; but whether a plan
compiles does not depend on the name of its table. -/
theorem nameless_shown_iff (settings : Settings) :
    (∀ (plan : TablePlan) (statements : List Statement),
      plan.statements settings = .ok statements →
      (∀ text ∈ plan.verbatims, QuoteFree text) →
      ((∃ statement ∈ statements, statement.ShowsNameless) ↔
        ∃ command ∈ plan.allCommands (plan.mode settings),
          ∃ text ∈ plan.writtenNames settings command, HasEmptySegment text)) ∧
    (∀ (plan : SequencePlan) (statements : List Statement),
      plan.statements settings = .ok statements →
      ((∃ statement ∈ statements, statement.ShowsNameless) ↔
        plan.commands ≠ [] ∧ HasEmptySegment (settings.prefixed plan.sequence))) ∧
    (∀ plan : TablePlan, ∀ command ∈ plan.allCommands (plan.mode settings),
      "" ∈ command.checkedNames → ∃ error, plan.statements settings = .error error) ∧
    (∀ plan : SequencePlan, plan.commands ≠ [] → plan.sequence = "" →
      plan.statements settings = .error .emptySequenceName) ∧
    (∀ (plan : TablePlan) (table : String),
      (∃ statements, TablePlan.statements settings { plan with table } = .ok statements) ↔
        ∃ statements, plan.statements settings = .ok statements) := by
  refine ⟨?_, ?_, ?_, ?_, ?_⟩
  · intro plan statements hstatements hverbatims
    have hcompiled := TablePlan.statements_eq_ok_iff.mp hstatements
    constructor
    · rintro ⟨statement, hstatement, hshows⟩
      obtain ⟨command, hcommand, hstatement⟩ := exists_of_mem_forall₂ hcompiled.flip hstatement
      exact ⟨command, hcommand, (hstatement.showsNameless_iff hverbatims).mp hshows⟩
    · rintro ⟨command, hcommand, hwritten⟩
      obtain ⟨statement, hmem, hstatement⟩ := exists_of_mem_forall₂ hcompiled hcommand
      exact ⟨statement, hmem, (hstatement.showsNameless_iff hverbatims).mpr hwritten⟩
  · intro plan statements hstatements
    have hcompiled := SequencePlan.statements_eq_ok_iff.mp hstatements
    constructor
    · rintro ⟨statement, hstatement, hshows⟩
      obtain ⟨command, hcommand, -, rfl⟩ := exists_of_mem_forall₂ hcompiled.flip hstatement
      exact ⟨List.ne_nil_of_mem hcommand,
        (plan.showsNameless_compileNamed_iff settings command).mp hshows⟩
    · rintro ⟨hcommands, hsegment⟩
      obtain ⟨command, hcommand⟩ := List.exists_mem_of_ne_nil _ hcommands
      obtain ⟨statement, hmem, -, rfl⟩ := exists_of_mem_forall₂ hcompiled hcommand
      exact ⟨_, hmem, (plan.showsNameless_compileNamed_iff settings command).mpr hsegment⟩
  · intro plan command hcommand hempty
    exact TablePlan.statements_eq_error_of_checkedNames hcommand hempty
  · intro plan hcommands hname
    exact SequencePlan.statements_eq_error_of_empty settings hcommands hname
  · intro plan table
    exact plan.exists_statements_withTable_iff settings table

/-- The cut leaves the name of the generator with a dot at its end. -/
theorem nameless_shown_iff_of_cut_at_dot :
    let plan : TablePlan :=
      { table := "orders.of.northern.regions.all"
        columns := [{ name := "id", type := .text, charset := some "UTF8" }]
        commands := [.createGenerator] }
    ∃ statements, plan.statements {} = .ok statements ∧
      (∀ text ∈ plan.verbatims, QuoteFree text) ∧
      ∃ statement ∈ statements, statement.ShowsNameless := by
  intro plan
  have hverbatims : ∀ text ∈ plan.verbatims, QuoteFree text := by decide
  have hshown := (nameless_shown_iff {}).1 plan _ rfl hverbatims
  exact ⟨_, rfl, hverbatims, hshown.mpr ⟨.createGenerator, by decide,
    "GEN_orders.of.northern.regions.", by decide, by decide⟩⟩

/-- A table without a name is dropped by a statement that says so. -/
theorem nameless_table_dropped :
    ∃ statements, TablePlan.statements {} { table := "", commands := [.drop] } = .ok statements ∧
      ∃ statement ∈ statements, statement.text = "DROP TABLE \"\"" ∧
        statement.ShowsNameless := by
  refine ⟨_, rfl, _, List.mem_cons_self, by decide, Or.inl (by decide)⟩

end SchemaDdl
