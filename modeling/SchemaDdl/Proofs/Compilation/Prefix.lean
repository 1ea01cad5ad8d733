import SchemaDdl.Proofs.Compilation.Content

/-!
# The prefix is a renaming

The prefix enters a statement in many places: before the table, before a referenced
table, inside the names of the generator and the trigger and inside names that are
generated for indexes.  In each of them it stands directly before the name of a table
or a sequence, ahead of cutting, splitting and lower-casing.  So a plan compiled under
a prefix is the plan with the prefix written into its names, compiled under none
(`prefix_is_renaming`).

Names that a model gives to its columns, indexes and constraints take no part in this:
they are written as they stand.
-/

namespace SchemaDdl

open scoped List

/-! ## Errors under a renaming -/

section Failing

variable {ε ε' α β : Type} (f : ε → ε')

@[simp]
theorem mapError_ok (a : α) : (Except.ok a : Except ε α).mapError f = .ok a := rfl

@[simp]
theorem mapError_pure (a : α) : (pure a : Except ε α).mapError f = pure a := rfl

@[simp]
theorem mapError_error (error : ε) :
    (Except.error error : Except ε α).mapError f = .error (f error) := rfl

theorem mapError_map (g : α → β) (x : Except ε α) :
    (g <$> x).mapError f = g <$> x.mapError f := by
  cases x <;> rfl

theorem mapError_bind (x : Except ε α) (g : α → Except ε β) :
    (x >>= g).mapError f = x.mapError f >>= fun a => (g a).mapError f := by
  cases x <;> rfl

theorem mapError_mapM (g : α → Except ε β) (items : List α) :
    (items.mapM g).mapError f = items.mapM fun item => (g item).mapError f := by
  induction items with
  | nil => rfl
  | cons item items ih =>
      rw [List.mapM_cons, List.mapM_cons, mapError_bind, ← ih]
      refine congrArg _ (funext fun result => ?_)
      rw [mapError_bind]
      rfl

end Failing

/-! ## Settings without a prefix -/

namespace Settings

variable (settings : Settings)

/-- The settings with the prefix taken away. -/
def unprefixed : Settings := { settings with tablePrefix := "" }

@[simp]
theorem prefixed_unprefixed (name : String) : settings.unprefixed.prefixed name = name :=
  String.empty_append

@[simp]
theorem indexName_unprefixed (table kind : String) (columns : List String) :
    settings.unprefixed.indexName (settings.prefixed table) kind columns =
      settings.indexName table kind columns := by
  rw [indexName, prefixed_unprefixed]
  rfl

@[simp]
theorem qualified_unprefixed (name : String) :
    settings.unprefixed.qualified (settings.prefixed name) = settings.qualified name := by
  rw [qualified, prefixed_unprefixed]
  rfl

@[simp]
theorem catalogName_unprefixed (name : String) :
    settings.unprefixed.catalogName (settings.prefixed name) = settings.catalogName name := by
  rw [catalogName, prefixed_unprefixed]
  rfl

@[simp]
theorem generatorName_unprefixed (table : String) :
    settings.unprefixed.generatorName (settings.prefixed table) =
      settings.generatorName table := by
  rw [generatorName, prefixed_unprefixed]
  rfl

@[simp]
theorem triggerName_unprefixed (table : String) :
    settings.unprefixed.triggerName (settings.prefixed table) = settings.triggerName table := by
  rw [triggerName, prefixed_unprefixed]
  rfl

end Settings

/-! ## Renamed models -/

/-- The error as it is told of the renamed table. -/
def SchemaError.renamed (settings : Settings) : SchemaError → SchemaError
  | missingReferencedTable table constraint =>
    missingReferencedTable (settings.prefixed table) constraint
  | missingReferencedColumns table constraint =>
    missingReferencedColumns (settings.prefixed table) constraint
  | emptyColumns command table => emptyColumns command (settings.prefixed table)
  | emptyName command table => emptyName command (settings.prefixed table)
  | missingTriggerColumn table => missingTriggerColumn (settings.prefixed table)
  | emptyEnumeration column => emptyEnumeration column
  | nonFiniteDefault column => nonFiniteDefault column
  | emptySequenceName => emptySequenceName

/-- The key with the prefix before the table that it references, if it names one. -/
def ForeignKey.renamed (settings : Settings) (key : ForeignKey) : ForeignKey :=
  { key with on := key.on.map fun table =>
      if table.isEmpty then table else settings.prefixed table }

/-- The command with the prefix before the table that it references. -/
def TableCommand.renamed (settings : Settings) : TableCommand → TableCommand
  | .foreign key => .foreign (key.renamed settings)
  | command => command

/-- The plan with the prefix before its table. -/
def TablePlan.renamedTable (settings : Settings) (plan : TablePlan) : TablePlan :=
  { plan with table := settings.prefixed plan.table }

/-- The plan with the prefix before its table and before those that its commands
reference. -/
def TablePlan.renamed (settings : Settings) (plan : TablePlan) : TablePlan :=
  { plan.renamedTable settings with
    commands := plan.commands.map (TableCommand.renamed settings) }

/-- The plan with the prefix before its sequence. -/
def SequencePlan.renamed (settings : Settings) (plan : SequencePlan) : SequencePlan :=
  { plan with sequence := settings.prefixed plan.sequence }

/-- The names that a column, an index or a constraint has been given, in the order in
which the statement of the command writes them. -/
def TablePlan.givenNames (plan : TablePlan) : TableCommand → List String
  | .create | .add => plan.columns.flatMap Column.mentions
  | .primary columns => columns
  | .unique given columns | .index given columns => given.toList ++ columns
  | .foreign key => key.name.toList ++ (key.columns ++ key.references)
  | .dropForeign name => [name]
  | .generatorTrigger column => [column, column]
  | .drop | .createGenerator | .dropGenerator => []

/-! ## Columns

A definition names no table, so neither it nor its errors change. -/

namespace Column

theorem mapError_typeSql (settings : Settings) (column : Column) :
    column.typeSql.mapError (SchemaError.renamed settings) = column.typeSql := by
  unfold typeSql
  cases column.type with
  | enumeration allowed => cases allowed <;> rfl
  | _ => rfl

theorem mapError_definition (settings : Settings) (mode : IdentityMode) (column : Column) :
    (column.definition mode).mapError (SchemaError.renamed settings) =
      column.definition mode := by
  unfold definition
  split
  · rw [mapError_bind, mapError_typeSql]
    rfl
  · rfl

end Column

/-! ## Table commands -/

namespace TablePlan

variable (settings : Settings) (plan : TablePlan)

@[simp]
theorem tableName_renamedTable :
    (plan.renamedTable settings).tableName settings.unprefixed = plan.tableName settings :=
  settings.qualified_unprefixed plan.table

@[simp]
theorem chosenName_renamedTable (kind : CommandKind) (given : Option String)
    (columns : List String) :
    (plan.renamedTable settings).chosenName settings.unprefixed kind given columns =
      plan.chosenName settings kind given columns := by
  rw [chosenName, renamedTable, Settings.indexName_unprefixed]
  rfl

@[simp]
theorem alterTable_renamedTable :
    (plan.renamedTable settings).alterTable settings.unprefixed = plan.alterTable settings := by
  rw [alterTable, tableName_renamedTable]
  rfl

@[simp]
theorem generator_renamedTable :
    (plan.renamedTable settings).generator settings.unprefixed = plan.generator settings := by
  rw [generator, renamedTable, Settings.generatorName_unprefixed]
  rfl

@[simp]
theorem trigger_renamedTable :
    (plan.renamedTable settings).trigger settings.unprefixed = plan.trigger settings := by
  rw [trigger, renamedTable, Settings.triggerName_unprefixed]
  rfl

theorem dropGenerator_renamedTable :
    (plan.renamedTable settings).dropGenerator settings.unprefixed =
      plan.dropGenerator settings := by
  rw [dropGenerator, renamedTable, Settings.triggerName_unprefixed,
    Settings.generatorName_unprefixed]
  rfl

theorem requireColumns_renamedTable {α : Type} (command : CommandKind) (columns : List α) :
    (plan.renamedTable settings).requireColumns command columns =
      (plan.requireColumns command columns).mapError (SchemaError.renamed settings) := by
  unfold requireColumns
  split <;> rfl

theorem requireName_renamedTable (command : CommandKind) (name : String) :
    (plan.renamedTable settings).requireName command name =
      (plan.requireName command name).mapError (SchemaError.renamed settings) := by
  unfold requireName
  split <;> rfl

theorem definitions_renamedTable :
    (plan.renamedTable settings).definitions settings.unprefixed =
      (plan.definitions settings).mapError (SchemaError.renamed settings) := by
  rw [definitions, definitions, mapError_mapM]
  simp only [Column.mapError_definition]
  rfl

theorem createTable_renamedTable :
    (plan.renamedTable settings).createTable settings.unprefixed =
      (plan.createTable settings).mapError (SchemaError.renamed settings) := by
  simp only [createTable, mapError_bind, mapError_pure, requireColumns_renamedTable,
    definitions_renamedTable, tableName_renamedTable]
  rfl

theorem addColumns_renamedTable :
    (plan.renamedTable settings).addColumns settings.unprefixed =
      (plan.addColumns settings).mapError (SchemaError.renamed settings) := by
  simp only [addColumns, mapError_bind, mapError_pure, requireColumns_renamedTable,
    definitions_renamedTable, alterTable_renamedTable]
  rfl

/-- The table that the renamed key references is there exactly if it was before. -/
theorem referencedTable_renamed (key : ForeignKey) (name : String) :
    (plan.renamedTable settings).referencedTable (key.renamed settings) name =
      settings.prefixed <$>
        (plan.referencedTable key name).mapError (SchemaError.renamed settings) := by
  unfold referencedTable ForeignKey.renamed
  cases key.on with
  | none => rfl
  | some table =>
      by_cases h : table = ""
      · subst h
        rfl
      · have hprefixed : settings.prefixed table ≠ "" := by
          simp [Settings.prefixed, h]
        simp [h, hprefixed]

theorem addForeignKey_renamedTable (key : ForeignKey) :
    (plan.renamedTable settings).addForeignKey settings.unprefixed (key.renamed settings) =
      (plan.addForeignKey settings key).mapError (SchemaError.renamed settings) := by
  unfold addForeignKey
  simp only [mapError_bind, requireName_renamedTable, requireColumns_renamedTable,
    chosenName_renamedTable, referencedTable_renamed, alterTable_renamedTable,
    bind_map_left, Settings.qualified_unprefixed]
  obtain ⟨name, columns, on, references, onDelete, onUpdate⟩ := key
  cases references <;> rfl

/-- A command compiles under a prefix to what the renamed one compiles to under none. -/
theorem compile_renamedTable (command : TableCommand) :
    (plan.renamedTable settings).compile settings.unprefixed (command.renamed settings) =
      (plan.compile settings command).mapError (SchemaError.renamed settings) := by
  cases command with
  | create =>
      simp only [TableCommand.renamed, compile, createTable_renamedTable, mapError_map]
  | add => simp only [TableCommand.renamed, compile, addColumns_renamedTable, mapError_map]
  | primary columns =>
      simp [TableCommand.renamed, compile, addPrimaryKey, requireColumns_renamedTable,
        mapError_map]
  | unique given columns =>
      simp [TableCommand.renamed, compile, addUnique, requireName_renamedTable,
        requireColumns_renamedTable, mapError_map, mapError_bind]
  | index given columns =>
      simp [TableCommand.renamed, compile, createIndex, requireName_renamedTable,
        requireColumns_renamedTable, mapError_map, mapError_bind]
  | foreign key =>
      simp only [TableCommand.renamed, compile, addForeignKey_renamedTable, mapError_map]
  | dropForeign name =>
      simp [TableCommand.renamed, compile, dropForeignKey, requireName_renamedTable,
        mapError_map]
  | drop => simp [TableCommand.renamed, compile, dropTable]
  | createGenerator => simp [TableCommand.renamed, compile, createGenerator]
  | dropGenerator => simp [TableCommand.renamed, compile, dropGenerator_renamedTable]
  | generatorTrigger column =>
      by_cases h : column = "" <;> simp [TableCommand.renamed, compile, createTrigger, h]
      rfl

/-! ## Whole plans -/

/-- A command that references no table is the renamed form of itself only. -/
theorem renamed_eq_iff {command target : TableCommand} (h : ∀ key, target ≠ .foreign key) :
    command.renamed settings = target ↔ command = target := by
  cases command with
  | foreign key =>
      have hkey : target ≠ .foreign key := h key
      have hrenamed : target ≠ .foreign (key.renamed settings) := h _
      exact ⟨fun heq => absurd heq.symm hrenamed, fun heq => absurd heq.symm hkey⟩
  | _ => rfl

theorem contains_map_renamed {target : TableCommand} (h : ∀ key, target ≠ .foreign key)
    (commands : List TableCommand) :
    (commands.map (TableCommand.renamed settings)).contains target =
      commands.contains target := by
  rw [Bool.eq_iff_iff]
  simp [renamed_eq_iff settings h]

theorem insertAfter_map_renamed {target : TableCommand} (h : ∀ key, target ≠ .foreign key)
    (extra commands : List TableCommand) :
    insertAfter target (extra.map (TableCommand.renamed settings))
        (commands.map (TableCommand.renamed settings)) =
      (insertAfter target extra commands).map (TableCommand.renamed settings) := by
  induction commands with
  | nil => rfl
  | cons command commands ih =>
      rw [List.map_cons, insertAfter, insertAfter, ih]
      by_cases hcommand : command = target
      · simp [hcommand, (renamed_eq_iff settings h).mpr]
      · simp [hcommand, renamed_eq_iff settings h]

theorem withImpliedAdd_renamed :
    (plan.renamed settings).withImpliedAdd =
      plan.withImpliedAdd.map (TableCommand.renamed settings) := by
  have hcreating : (plan.renamed settings).isCreating = plan.isCreating :=
    contains_map_renamed settings (by simp) plan.commands
  have hadding : (plan.renamed settings).commands.contains .add = plan.commands.contains .add :=
    contains_map_renamed settings (by simp) plan.commands
  unfold withImpliedAdd
  rw [hcreating, hadding, apply_ite (List.map _)]
  rfl

theorem withImpliedGenerator_renamed (commands : List TableCommand) :
    (plan.renamed settings).withImpliedGenerator
        (commands.map (TableCommand.renamed settings)) =
      (plan.withImpliedGenerator commands).map (TableCommand.renamed settings) := by
  have hserial : (plan.renamed settings).serialColumn? = plan.serialColumn? := rfl
  unfold withImpliedGenerator
  rw [hserial, contains_map_renamed settings (by simp)]
  cases plan.serialColumn? with
  | none => rfl
  | some column =>
      have hcreate : ∀ key, TableCommand.create ≠ .foreign key := by simp
      have hsetup := insertAfter_map_renamed settings hcreate
        [.createGenerator, .generatorTrigger column.name] commands
      simp only [apply_ite (List.map _), ← hsetup]
      rfl

theorem withImpliedRemoval_renamed (commands : List TableCommand) :
    withImpliedRemoval (commands.map (TableCommand.renamed settings)) =
      (withImpliedRemoval commands).map (TableCommand.renamed settings) := by
  have hdrop : ∀ key, TableCommand.drop ≠ .foreign key := by simp
  have hremoval := insertAfter_map_renamed settings hdrop [.dropGenerator] commands
  unfold withImpliedRemoval
  rw [contains_map_renamed settings (by simp), apply_ite (List.map _), ← hremoval]
  rfl

/-- The implied commands follow the explicit ones through the renaming. -/
theorem allCommands_renamed (mode : IdentityMode) :
    (plan.renamed settings).allCommands mode =
      (plan.allCommands mode).map (TableCommand.renamed settings) := by
  cases mode with
  | native => exact plan.withImpliedAdd_renamed settings
  | emulated =>
      rw [allCommands, withImpliedAdd_renamed, withImpliedGenerator_renamed,
        withImpliedRemoval_renamed]
      rfl

/-- Only the table and the columns of a plan enter the statement of a command. -/
theorem compile_renamed (command : TableCommand) :
    (plan.renamed settings).compile settings.unprefixed command =
      (plan.renamedTable settings).compile settings.unprefixed command := by
  cases command <;> rfl

theorem statements_renamed :
    (plan.renamed settings).statements settings.unprefixed =
      (plan.statements settings).mapError (SchemaError.renamed settings) := by
  have hmode : (plan.renamed settings).mode settings.unprefixed = plan.mode settings := rfl
  rw [statements, statements, hmode, allCommands_renamed, mapError_mapM, List.mapM_map]
  simp only [Function.comp_def, compile_renamed, compile_renamedTable]

/-- A statement writes the given names of its command as they stand, and in order. -/
theorem givenNames_sublist {command : TableCommand} {statement : Statement}
    (h : plan.compile settings command = .ok statement) :
    (plan.givenNames command).map Name.ofString <+ Sql.names statement.sql := by
  rw [(compile_eq_ok_iff.mp h).content.names_eq]
  have hgiven : ∀ (kind : CommandKind) (given : Option String) (columns : List String),
      given.toList.map Name.ofString <+
        [.ofString (plan.chosenName settings kind given columns)] := by
    intro kind given columns
    cases given with
    | none => exact List.nil_sublist _
    | some name => exact List.Sublist.refl _
  cases command with
  | create | add | primary => exact List.sublist_cons_self _ _
  | unique given columns =>
      rw [givenNames, List.map_append]
      exact ((hgiven .unique given columns).append_right _).cons _
  | index given columns =>
      rw [givenNames, List.map_append]
      exact (hgiven .index given columns).append (List.sublist_cons_self _ _)
  | foreign key =>
      have hcolumns : key.columns.map Name.ofString ++ key.references.map Name.ofString <+
          key.columns.map Name.ofString ++ key.on.toList.map settings.qualified ++
            key.references.map Name.ofString :=
        (List.sublist_append_left _ _).append_right _
      rw [givenNames, List.map_append, List.map_append]
      exact ((hgiven .foreign key.name key.columns).append hcolumns).cons _
  | dropForeign name => exact List.sublist_cons_self _ _
  | generatorTrigger column =>
      exact ((List.sublist_append_left [_, _] _).cons _).cons _
  | drop | createGenerator | dropGenerator => exact List.nil_sublist _

end TablePlan

namespace SequencePlan

variable (settings : Settings) (plan : SequencePlan)

theorem compileNamed_renamed (command : SequenceCommand) :
    (plan.renamed settings).compileNamed settings.unprefixed command =
      plan.compileNamed settings command := by
  have hname : (plan.renamed settings).name settings.unprefixed = plan.name settings :=
    settings.qualified_unprefixed plan.sequence
  have hcatalog : settings.unprefixed.catalogName (plan.renamed settings).sequence =
      settings.catalogName plan.sequence := settings.catalogName_unprefixed plan.sequence
  cases command <;> simp only [compileNamed, dropStatement, hname, hcatalog] <;> rfl

theorem compile_renamed (h : plan.sequence ≠ "") (command : SequenceCommand) :
    (plan.renamed settings).compile settings.unprefixed command =
      plan.compile settings command := by
  have hrenamed : (plan.renamed settings).sequence ≠ "" := by
    simp [renamed, Settings.prefixed, h]
  simp [compile, h, hrenamed, compileNamed_renamed]

end SequencePlan

/-- A command under a prefix compiles to what the command and the plan with the prefix
written into their tables compile to under none, and if it fails, it fails alike.  Whole
plans do the same, and so do sequences that have a name.  The names that columns,
indexes and constraints have been given stand in the statement without the prefix. -/
theorem prefix_is_renaming (settings : Settings) :
    (∀ (plan : TablePlan) (command : TableCommand),
      (plan.renamedTable settings).compile settings.unprefixed (command.renamed settings) =
        (plan.compile settings command).mapError (SchemaError.renamed settings)) ∧
    (∀ plan : TablePlan,
      (plan.renamed settings).statements settings.unprefixed =
        (plan.statements settings).mapError (SchemaError.renamed settings)) ∧
    (∀ (plan : SequencePlan) (command : SequenceCommand), plan.sequence ≠ "" →
      (plan.renamed settings).compile settings.unprefixed command =
        plan.compile settings command) ∧
    (∀ (plan : TablePlan) (command : TableCommand) (statement : Statement),
      plan.compile settings command = .ok statement →
      (plan.givenNames command).map Name.ofString <+ Sql.names statement.sql) := by
  refine ⟨?_, ?_, ?_, ?_⟩
  · intro plan command
    exact plan.compile_renamedTable settings command
  · intro plan
    exact plan.statements_renamed settings
  · intro plan command hname
    exact plan.compile_renamed settings hname command
  · intro plan command statement hcompile
    exact plan.givenNames_sublist settings hcompile

/-- A prefix with a capital and a dot, before a table and a table that it references. -/
theorem prefix_is_renaming_of_dotted_prefix :
    let settings : Settings := { tablePrefix := "App.v2_" }
    let plan : TablePlan := { table := "Users" }
    let key : ForeignKey :=
      { name := some "fk_role", columns := ["role.id"], on := some "Roles", references := ["id"] }
    let sequence : SequencePlan := { sequence := "Numbers" }
    (∃ statement, plan.compile settings (.foreign key) = .ok statement ∧
      ({ table := "App.v2_Users" } : TablePlan).compile {}
        (.foreign { key with on := some "App.v2_Roles" }) = .ok statement ∧
      ["fk_role", "role.id", "id"].map Name.ofString <+ Sql.names statement.sql) ∧
    plan.compile settings (.foreign { key with references := [] }) =
      .error (.missingReferencedColumns "Users" "fk_role") ∧
    ({ table := "App.v2_Users" } : TablePlan).compile {}
        (.foreign { key with on := some "App.v2_Roles", references := [] }) =
      .error (.missingReferencedColumns "App.v2_Users" "fk_role") ∧
    sequence.sequence ≠ "" ∧
    ({ sequence := "App.v2_Numbers" } : SequencePlan).compile {} .dropIfExists =
      sequence.compile settings .dropIfExists := by
  intro settings plan key sequence
  obtain ⟨hcommands, -, hsequences, hgiven⟩ := prefix_is_renaming settings
  have hnamed : sequence.sequence ≠ "" := by decide
  exact ⟨⟨_, rfl, hcommands plan (.foreign key), hgiven plan (.foreign key) _ rfl⟩, rfl,
    hcommands plan (.foreign { key with references := [] }), hnamed,
    hsequences sequence .dropIfExists hnamed⟩

end SchemaDdl
