import SchemaDdl.Proofs.Compilation.Content
import SchemaDdl.Proofs.Identifier.Generated
import SchemaDdl.Proofs.Reading.Skeleton

/-!
# Names and string values do not shape statements

An anonymous model has one and the same placeholder for all of its names, prefixes,
enumeration values and string defaults.  Two models are equal but for the characters
of those exactly if their anonymous forms are equal.

Making a model anonymous leaves the outline of every statement as it is
(`TablePlan.exists_compiled_anonymous`).  So the names of a model show in the skeletons of
its statements only by their dots and lone stars, its string values not at all
(`skeleton_independent_of_names`): no text that is put into a name or a value gets
out of its quotes.
-/

namespace SchemaDdl

open Reading Sql

/-! ## Anonymous models -/

/-- Stands for any name and for any string value. -/
def placeholder : String := "?"

def anonymousNames (names : List String) : List String := names.map fun _ => placeholder

def DefaultValue.anonymous : DefaultValue → DefaultValue
  | string _ => string placeholder
  | value => value

def ColumnType.anonymous : ColumnType → ColumnType
  | enumeration allowed => enumeration (anonymousNames allowed)
  | type => type

def Column.anonymous (column : Column) : Column :=
  { column with
    name := placeholder
    type := column.type.anonymous
    defaultValue := column.defaultValue.map DefaultValue.anonymous }

def ForeignKey.anonymous (key : ForeignKey) : ForeignKey :=
  { key with
    name := key.name.map fun _ => placeholder
    columns := anonymousNames key.columns
    on := key.on.map fun _ => placeholder
    references := anonymousNames key.references }

def TableCommand.anonymous : TableCommand → TableCommand
  | primary columns => primary (anonymousNames columns)
  | unique name columns => unique (name.map fun _ => placeholder) (anonymousNames columns)
  | index name columns => index (name.map fun _ => placeholder) (anonymousNames columns)
  | foreign key => foreign key.anonymous
  | dropForeign _ => dropForeign placeholder
  | generatorTrigger _ => generatorTrigger placeholder
  | command => command

def TablePlan.anonymous (plan : TablePlan) : TablePlan :=
  { plan with
    table := placeholder
    columns := plan.columns.map Column.anonymous
    commands := plan.commands.map TableCommand.anonymous }

def SequencePlan.anonymous (plan : SequencePlan) : SequencePlan :=
  { plan with sequence := placeholder }

def Settings.anonymous (settings : Settings) : Settings :=
  { settings with tablePrefix := placeholder }

/-! ## Columns -/

/-- A list of names, or of values, shows how many there are. -/
theorem outline_separated_anonymous {piece : String → SqlPiece}
    (h : ∀ text, (piece placeholder).outline = (piece text).outline) (separator : String)
    (texts : List String) :
    (separated separator ((anonymousNames texts).map fun text => [piece text])).outline =
      (separated separator (texts.map fun text => [piece text])).outline := by
  apply outline_separated_congr
  rw [anonymousNames, List.map_map, List.map_map, List.map_map]
  refine List.map_congr_left fun text _ => ?_
  exact congrArg (fun first => [first]) (h text)

@[simp]
theorem outline_columnNames (columns : List String) :
    (columnNames (anonymousNames columns)).outline = (columnNames columns).outline :=
  outline_separated_anonymous (fun _ => rfl) ", " columns

namespace Column

variable {mode : IdentityMode} {column : Column}

theorem outline_checked (name : String) (allowed : List String) :
    (checked placeholder (anonymousNames allowed)).outline = (checked name allowed).outline := by
  have hvalues := outline_separated_anonymous (fun _ => rfl : ∀ text,
    (SqlPiece.literal placeholder).outline = (SqlPiece.literal text).outline) ", " allowed
  simp [checked, hvalues]

theorem outline_typeSql {type : Sql} (h : column.typeSql = .ok type) :
    ∃ type', column.anonymous.typeSql = .ok type' ∧ type'.outline = type.outline := by
  unfold typeSql at h
  cases htype : column.type with
  | enumeration allowed =>
      rw [htype] at h
      cases allowed with
      | nil => exact absurd h (by simp)
      | cons value allowed =>
          obtain rfl := Except.ok.inj h
          refine ⟨_, ?_, outline_checked column.name (value :: allowed)⟩
          rw [typeSql, anonymous, htype]
          rfl
  | _ =>
      refine ⟨type, ?_, rfl⟩
      rw [← h, typeSql, anonymous, htype]
      rfl

theorem anonymous_isSerial (column : Column) : column.anonymous.isSerial = column.isSerial := by
  rw [isSerial, isSerial]
  cases htype : column.type <;> simp [anonymous, htype, ColumnType.anonymous, ColumnType.isInteger]

theorem outline_sql? (mode : IdentityMode) (column : Column) (modifier : Modifier) :
    (modifier.sql? mode column.anonymous).map outline =
      (modifier.sql? mode column).map outline := by
  cases modifier with
  | increment => simp only [Modifier.sql?, anonymous_isSerial]
  | default =>
      simp only [Modifier.sql?, anonymous]
      cases column.defaultValue with
      | none => rfl
      | some value => cases value <;> rfl
  | charset | collate | nullable => rfl

theorem outline_modifiers (mode : IdentityMode) (column : Column) :
    (column.anonymous.modifiers mode).outline = (column.modifiers mode).outline := by
  have houtline : ∀ column : Column, (column.modifiers mode).outline =
      (Modifier.inOrder.filterMap fun modifier =>
        (modifier.sql? mode column).map outline).flatten := by
    intro column
    rw [modifiers, outline, List.map_flatten, List.map_filterMap]
    rfl
  simp only [houtline, outline_sql?]

theorem outline_definition {sql : Sql} (h : column.definition mode = .ok sql) :
    ∃ sql', column.anonymous.definition mode = .ok sql' ∧ sql'.outline = sql.outline := by
  obtain ⟨hfinite, type, htype, rfl⟩ := definition_eq_ok_iff.mp h
  obtain ⟨type', htype', houtline⟩ := outline_typeSql htype
  refine ⟨_, definition_eq_ok_iff.mpr ⟨?_, type', htype', rfl⟩, ?_⟩
  · rw [← hfinite, anonymous]
    cases column.defaultValue with
    | none => rfl
    | some value => cases value <;> rfl
  · simp [houtline, outline_modifiers]

end Column

/-! ## Statements -/

def Statement.outline : Statement → Statement
  | single sql => single sql.outline
  | block sql => block sql.outline

theorem Statement.sql_outline (statement : Statement) :
    statement.outline.sql = statement.sql.outline := by
  cases statement <;> rfl

/-- Statements with the same outline have the same structure down to the statements
that they execute, if their names have the same shapes. -/
theorem Statement.sameStructure {verbatims verbatims' : List String} {names names' : List Name}
    {executed executed' : List Sql} {statement statement' : Statement}
    (h : Content verbatims names executed statement.sql)
    (h' : Content verbatims' names' executed' statement'.sql)
    (hverbatims : ∀ text ∈ verbatims, QuoteFree text)
    (houtline : statement.outline = statement'.outline)
    (hshapes : names.map Name.shape = names'.map Name.shape)
    (hexecuted : ∀ sql ∈ executed, Content [] (Sql.names sql) [] sql)
    (hexecuted' : ∀ sql ∈ executed', Content [] (Sql.names sql) [] sql)
    (houtlines : executed.map Sql.outline = executed'.map Sql.outline)
    (hexecutedShapes : executed.map Sql.nameShapes = executed'.map Sql.nameShapes) :
    SameStructure statement.text.toList statement'.text.toList ∧
      List.Forall₂ SameStructure (Reading.executed (scan statement.text.toList))
        (Reading.executed (scan statement'.text.toList)) := by
  have hsql : statement.sql.outline = statement'.sql.outline := by
    rw [← Statement.sql_outline, houtline, Statement.sql_outline]
  have hverbatims' : ∀ text ∈ verbatims', QuoteFree text := by
    rwa [← h.verbatims_eq_of_outline_eq h' hsql]
  rw [Statement.text, Statement.text, toList_text, toList_text]
  constructor
  · exact h.sameStructure h' hverbatims hsql hshapes
  · rw [h.executed_scan hverbatims, h'.executed_scan hverbatims']
    exact forall₂_sameStructure hexecuted hexecuted' houtlines hexecutedShapes

/-- A block shows the kinds of the objects that it drops. -/
theorem GuardedDrop.outline_block {drops drops' : List GuardedDrop}
    (h : drops.map object = drops'.map object) : (block drops).outline = (block drops').outline := by
  have houtline : ∀ drops : List GuardedDrop, (drops.map sql).map outline =
      (drops.map object).map fun object => outline (sql ⟨object, "", []⟩) := by
    intro drops
    rw [List.map_map, List.map_map]
    rfl
  simp only [block, Statement.outline, outline_append, outline_cons, outline_separated,
    houtline, h]

namespace TablePlan

variable {settings : Settings} {plan : TablePlan}

theorem outline_definitions {definitions : List Sql}
    (h : plan.definitions settings = .ok definitions) :
    ∃ definitions', plan.anonymous.definitions settings.anonymous = .ok definitions' ∧
      definitions'.map outline = definitions.map outline := by
  have hmode : plan.anonymous.mode settings.anonymous = plan.mode settings := rfl
  have hcolumns : plan.anonymous.columns = plan.columns.map Column.anonymous := rfl
  simp only [definitions_eq_ok_iff, hmode, hcolumns, List.forall₂_map_left_iff] at h ⊢
  generalize plan.columns = columns at h
  induction h with
  | nil => exact ⟨[], .nil, rfl⟩
  | cons hcolumn _ ih =>
      obtain ⟨sql', hsql', houtline⟩ := Column.outline_definition hcolumn
      obtain ⟨definitions', hdefinitions', houtlines⟩ := ih
      refine ⟨sql' :: definitions', .cons hsql' hdefinitions', ?_⟩
      rw [List.map_cons, List.map_cons, houtline, houtlines]

theorem map_object_guardedDrops (settings : Settings) (plan : TablePlan) :
    (plan.guardedDrops settings).map GuardedDrop.object = [.trigger, .generator] := rfl

theorem exists_compiled_anonymous {command : TableCommand} {statement : Statement}
    (h : Compiled settings plan command statement) :
    ∃ statement', Compiled settings.anonymous plan.anonymous command.anonymous statement' ∧
      statement'.outline = statement.outline := by
  have hchosen : ∀ {kind given columns}, plan.chosenName settings kind given columns ≠ "" →
      plan.anonymous.chosenName settings.anonymous kind (given.map fun _ => placeholder)
        (anonymousNames columns) ≠ "" := by
    intro kind given columns hname
    rw [chosenName_ne_empty_iff] at hname ⊢
    cases given <;> simp [placeholder]
  have hnames : ∀ {names : List String}, names ≠ [] → anonymousNames names ≠ [] := by
    intro names hnames
    simpa [anonymousNames] using hnames
  cases h with
  | @create definitions hcolumns hdefinitions =>
      obtain ⟨definitions', hdefinitions', houtline⟩ := outline_definitions hdefinitions
      refine ⟨_, .create (by simpa [anonymous] using hcolumns) hdefinitions', ?_⟩
      have hlist := outline_separated_congr houtline ", "
      have hwords : plan.anonymous.creationWords = plan.creationWords := rfl
      have hcommit : plan.anonymous.commitClause = plan.commitClause := rfl
      simp [Statement.outline, hlist, hwords, hcommit]
  | drop =>
      refine ⟨_, .drop, ?_⟩
      simp [Statement.outline]
  | @add definitions hcolumns hdefinitions =>
      obtain ⟨definitions', hdefinitions', houtline⟩ := outline_definitions hdefinitions
      refine ⟨_, .add (by simpa [anonymous] using hcolumns) hdefinitions', ?_⟩
      have hadded : (definitions'.map (.plain "ADD " :: ·)).map outline =
          (definitions.map (.plain "ADD " :: ·)).map outline := by
        have hclause : ∀ sqls : List Sql, (sqls.map (.plain "ADD " :: ·)).map outline =
            (sqls.map outline).map (.plain "ADD " :: ·) := by
          intro sqls
          rw [List.map_map, List.map_map]
          rfl
        rw [hclause, hclause, houtline]
      have hlist := outline_separated_congr hadded ", "
      simp [Statement.outline, hlist]
  | primary hcolumns =>
      refine ⟨_, .primary (hnames hcolumns), ?_⟩
      simp [Statement.outline]
  | unique hname hcolumns =>
      refine ⟨_, .unique (hchosen hname) (hnames hcolumns), ?_⟩
      simp [Statement.outline]
  | index hname hcolumns =>
      refine ⟨_, .index (hchosen hname) (hnames hcolumns), ?_⟩
      simp [Statement.outline]
  | @foreign key table hname hcolumns hon htable hreferences =>
      have hon' : key.anonymous.on = some placeholder := by simp [ForeignKey.anonymous, hon]
      have hplaceholder : placeholder ≠ "" := by decide
      refine ⟨_, .foreign (hchosen hname) (hnames hcolumns) hon' hplaceholder
        (hnames hreferences), ?_⟩
      simp [Statement.outline, ForeignKey.anonymous]
  | dropForeign hname =>
      have hplaceholder : placeholder ≠ "" := by decide
      refine ⟨_, .dropForeign hplaceholder, ?_⟩
      simp [Statement.outline]
  | createGenerator =>
      refine ⟨_, .createGenerator, ?_⟩
      simp [Statement.outline]
  | dropGenerator =>
      refine ⟨_, .dropGenerator, ?_⟩
      rw [dropGenerator_eq, dropGenerator_eq]
      apply GuardedDrop.outline_block
      rw [map_object_guardedDrops, map_object_guardedDrops]
  | generatorTrigger hcolumn =>
      have hplaceholder : placeholder ≠ "" := by decide
      refine ⟨_, .generatorTrigger hplaceholder, ?_⟩
      simp [Statement.outline]

/-- Plans with the same anonymous form have statements with the same outline. -/
theorem outline_eq_of_anonymous_eq {settings' : Settings} {plan' : TablePlan}
    {command command' : TableCommand} {statement statement' : Statement}
    (hsettings : settings.anonymous = settings'.anonymous)
    (hplan : plan.anonymous = plan'.anonymous) (hcommand : command.anonymous = command'.anonymous)
    (h : Compiled settings plan command statement)
    (h' : Compiled settings' plan' command' statement') :
    statement.outline = statement'.outline := by
  obtain ⟨form, hform, houtline⟩ := exists_compiled_anonymous h
  obtain ⟨form', hform', houtline'⟩ := exists_compiled_anonymous h'
  have hcompile := hform.compile
  rw [hsettings, hplan, hcommand, hform'.compile] at hcompile
  obtain rfl := Except.ok.inj hcompile
  rw [← houtline, houtline']

theorem outline_commandExecuted (settings : Settings) (plan : TablePlan)
    (command : TableCommand) :
    (plan.anonymous.commandExecuted settings.anonymous command.anonymous).map outline =
      (plan.commandExecuted settings command).map outline := by
  cases command with
  | dropGenerator => simp [commandExecuted, TableCommand.anonymous, dropTrigger, dropSequence]
  | _ => rfl

theorem content_of_mem_commandExecuted {command : TableCommand} :
    ∀ sql ∈ plan.commandExecuted settings command, Content [] (names sql) [] sql := by
  cases command with
  | dropGenerator =>
      have htrigger := content_naming (by decide : Keywords "DROP TRIGGER ")
        (Name.ofString_ne_nil (settings.triggerName plan.table))
      have hgenerator := content_naming (by decide : Keywords "DROP SEQUENCE ")
        (Name.ofString_ne_nil (settings.generatorName plan.table))
      exact List.forall_mem_cons.mpr ⟨htrigger, List.forall_mem_singleton.mpr hgenerator⟩
  | _ => simp [commandExecuted]

/-- The shapes of the names that the statement of a command writes, and of those in
each of the statements that it executes. -/
def nameShapes (settings : Settings) (plan : TablePlan) (command : TableCommand) :
    List (List (List Bool)) :=
  (plan.commandNames settings command).map Name.shape ::
    (plan.commandExecuted settings command).map Sql.nameShapes

theorem sameStructure_of_anonymous_eq {settings' : Settings} {plan' : TablePlan}
    {command command' : TableCommand} {statement statement' : Statement}
    (hsettings : settings.anonymous = settings'.anonymous)
    (hplan : plan.anonymous = plan'.anonymous) (hcommand : command.anonymous = command'.anonymous)
    (hshapes : plan.nameShapes settings command = plan'.nameShapes settings' command')
    (hverbatims : ∀ text ∈ plan.verbatims, QuoteFree text)
    (h : Compiled settings plan command statement)
    (h' : Compiled settings' plan' command' statement') :
    SameStructure statement.text.toList statement'.text.toList ∧
      List.Forall₂ SameStructure (executed (scan statement.text.toList))
        (executed (scan statement'.text.toList)) := by
  have hquoteFree : ∀ text ∈ plan.commandVerbatims command, QuoteFree text :=
    fun text htext => hverbatims text (mem_verbatims_of_command htext)
  have houtline := outline_eq_of_anonymous_eq hsettings hplan hcommand h h'
  have houtlines : (plan.commandExecuted settings command).map outline =
      (plan'.commandExecuted settings' command').map outline := by
    rw [← outline_commandExecuted, hsettings, hplan, hcommand, outline_commandExecuted]
  obtain ⟨hnames, hexecuted⟩ := List.cons.inj hshapes
  exact Statement.sameStructure h.content h'.content hquoteFree houtline hnames
    content_of_mem_commandExecuted content_of_mem_commandExecuted houtlines hexecuted

end TablePlan

namespace SequencePlan

variable (settings : Settings) (plan : SequencePlan) (command : SequenceCommand)

theorem outline_compileNamed :
    (plan.anonymous.compileNamed settings.anonymous command).outline =
      (plan.compileNamed settings command).outline := by
  cases command with
  | dropIfExists =>
      apply GuardedDrop.outline_block
      simp only [List.map_cons, List.map_nil]
  | create | alter | drop =>
      have hstart : plan.anonymous.startClause = plan.startClause := rfl
      have hincrement : plan.anonymous.incrementClause = plan.incrementClause := rfl
      have hrestart : plan.anonymous.restartClause = plan.restartClause := rfl
      simp [compileNamed, Statement.outline, dropStatement, dropSequence, hstart, hincrement,
        hrestart]

theorem outline_commandExecuted :
    (plan.anonymous.commandExecuted settings.anonymous command).map outline =
      (plan.commandExecuted settings command).map outline := by
  cases command with
  | dropIfExists => simp [commandExecuted, dropStatement, dropSequence]
  | _ => rfl

theorem content_of_mem_commandExecuted :
    ∀ sql ∈ plan.commandExecuted settings command, Content [] (names sql) [] sql := by
  cases command with
  | dropIfExists =>
      have hdrop := content_naming (by decide : Keywords "DROP SEQUENCE ")
        (Name.ofString_ne_nil (settings.prefixed plan.sequence))
      exact List.forall_mem_singleton.mpr hdrop
  | _ => simp [commandExecuted]

theorem sameStructure_of_anonymous_eq {settings settings' : Settings}
    {plan plan' : SequencePlan} {command : SequenceCommand}
    (hsettings : settings.anonymous = settings'.anonymous)
    (hplan : plan.anonymous = plan'.anonymous)
    (hshape : (plan.name settings).shape = (plan'.name settings').shape) :
    SameStructure (plan.compileNamed settings command).text.toList
        (plan'.compileNamed settings' command).text.toList ∧
      List.Forall₂ SameStructure
        (executed (scan (plan.compileNamed settings command).text.toList))
        (executed (scan (plan'.compileNamed settings' command).text.toList)) := by
  have houtline : (plan.compileNamed settings command).outline =
      (plan'.compileNamed settings' command).outline := by
    rw [← outline_compileNamed, hsettings, hplan, outline_compileNamed]
  have houtlines : (plan.commandExecuted settings command).map outline =
      (plan'.commandExecuted settings' command).map outline := by
    rw [← outline_commandExecuted, hsettings, hplan, outline_commandExecuted]
  have hnames : (plan.commandNames settings command).map Name.shape =
      (plan'.commandNames settings' command).map Name.shape := by
    cases command <;> simp [commandNames, hshape]
  have hexecuted : (plan.commandExecuted settings command).map Sql.nameShapes =
      (plan'.commandExecuted settings' command).map Sql.nameShapes := by
    cases command <;> simp [commandExecuted, dropStatement, dropSequence, Sql.nameShapes, hshape]
  exact Statement.sameStructure (plan.content_compileNamed settings command)
    (plan'.content_compileNamed settings' command) (by simp) houtline hnames
    (plan.content_of_mem_commandExecuted settings command)
    (plan'.content_of_mem_commandExecuted settings' command) houtlines hexecuted

end SequencePlan

/-- Two models that differ at most in the characters of names and string values compile
to statements of the same structure, and so do the statements that these execute, where
corresponding names have the same shape and what is passed through holds no quotes. -/
theorem skeleton_independent_of_names {settings settings' : Settings}
    (hmode : settings.identity = settings'.identity) :
    (∀ (plan plan' : TablePlan) (command command' : TableCommand)
        (statement statement' : Statement),
      plan.anonymous = plan'.anonymous → command.anonymous = command'.anonymous →
      plan.nameShapes settings command = plan'.nameShapes settings' command' →
      (∀ text ∈ plan.verbatims, QuoteFree text) →
      plan.compile settings command = .ok statement →
      plan'.compile settings' command' = .ok statement' →
      SameStructure statement.text.toList statement'.text.toList ∧
        List.Forall₂ SameStructure (executed (scan statement.text.toList))
          (executed (scan statement'.text.toList))) ∧
    (∀ (plan plan' : SequencePlan) (command : SequenceCommand)
        (statement statement' : Statement),
      plan.anonymous = plan'.anonymous →
      (plan.name settings).shape = (plan'.name settings').shape →
      plan.compile settings command = .ok statement →
      plan'.compile settings' command = .ok statement' →
      SameStructure statement.text.toList statement'.text.toList ∧
        List.Forall₂ SameStructure (executed (scan statement.text.toList))
          (executed (scan statement'.text.toList))) := by
  have hsettings : settings.anonymous = settings'.anonymous := by
    simp [Settings.anonymous, hmode]
  constructor
  · intro plan plan' command command' statement statement' hplan hcommand hshapes hverbatims
      hcompile hcompile'
    exact TablePlan.sameStructure_of_anonymous_eq hsettings hplan hcommand hshapes hverbatims
      (TablePlan.compile_eq_ok_iff.mp hcompile) (TablePlan.compile_eq_ok_iff.mp hcompile')
  · intro plan plan' command statement statement' hplan hshape hcompile hcompile'
    obtain ⟨-, rfl⟩ := SequencePlan.compile_eq_ok_iff.mp hcompile
    obtain ⟨-, rfl⟩ := SequencePlan.compile_eq_ok_iff.mp hcompile'
    exact SequencePlan.sameStructure_of_anonymous_eq hsettings hplan hshape

/-- Names and values that would close their quotes and go on with statements of their own. -/
theorem skeleton_independent_of_names_of_hostile_names :
    let settings : Settings := {}
    let settings' : Settings := { tablePrefix := "it's \"" }
    let plan : TablePlan :=
      { table := "orders"
        columns := [
          { name := "state", type := .enumeration ["open", "closed"]
            defaultValue := some (.string "open"), charset := some "UTF8" }] }
    let plan' : TablePlan :=
      { table := "a\" (b INTEGER)^ DROP TABLE \"c"
        columns := [
          { name := "\"); --", type := .enumeration ["') OR ('1' = '1", "\n"]
            defaultValue := some (.string "'; --"), charset := some "UTF8" }] }
    let sequence : SequencePlan := { sequence := "order_numbers" }
    let sequence' : SequencePlan := { sequence := "'; DROP TABLE a; --" }
    (∃ statement statement', plan.compile settings .create = .ok statement ∧
      plan'.compile settings' .create = .ok statement' ∧
      SameStructure statement.text.toList statement'.text.toList ∧
      List.Forall₂ SameStructure (executed (scan statement.text.toList))
        (executed (scan statement'.text.toList))) ∧
    (∃ statement statement', sequence.compile settings .dropIfExists = .ok statement ∧
      sequence'.compile settings' .dropIfExists = .ok statement' ∧
      SameStructure statement.text.toList statement'.text.toList ∧
      List.Forall₂ SameStructure (executed (scan statement.text.toList))
        (executed (scan statement'.text.toList))) := by
  intro settings settings' plan plan' sequence sequence'
  have hshapes : plan.nameShapes settings .create = plan'.nameShapes settings' .create := by decide
  have hverbatims : ∀ text ∈ plan.verbatims, QuoteFree text := by decide
  have hshape : (sequence.name settings).shape = (sequence'.name settings').shape := by decide
  have hmode : settings.identity = settings'.identity := rfl
  obtain ⟨htables, hsequences⟩ := skeleton_independent_of_names hmode
  constructor
  · have hcompiles : ∃ statement, plan.compile settings .create = .ok statement := ⟨_, rfl⟩
    have hcompiles' : ∃ statement, plan'.compile settings' .create = .ok statement := ⟨_, rfl⟩
    obtain ⟨statement, hstatement⟩ := hcompiles
    obtain ⟨statement', hstatement'⟩ := hcompiles'
    exact ⟨statement, statement', hstatement, hstatement',
      htables plan plan' .create .create _ _ rfl rfl hshapes hverbatims hstatement hstatement'⟩
  · exact ⟨_, _, rfl, rfl, hsequences sequence sequence' .dropIfExists _ _ rfl hshape rfl rfl⟩

end SchemaDdl
