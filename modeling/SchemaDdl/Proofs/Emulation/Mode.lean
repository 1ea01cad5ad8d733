import SchemaDdl.Proofs.Compilation.Content
import SchemaDdl.Proofs.Emulation.Completeness

/-!
# The identity mode

Settings name an identity mode and a plan may override it.  Two places of a compilation
ask for the mode: the implied commands and the key clause of a serial column.  Both ask
for the effective one, so settings and plans that agree on it compile alike
(`TablePlan.statements_resolved`).

In native mode a serial column carries its own clause and nothing that emulates it is
implied; in emulated mode it is the other way round.  Where no column is serial and no
table is dropped, the mode changes nothing (`TablePlan.statements_of_unnumbered`).
-/

namespace SchemaDdl

theorem mapM_congr {ε α β : Type} {f g : α → Except ε β} {items : List α}
    (h : ∀ item ∈ items, f item = g item) : items.mapM f = items.mapM g := by
  induction items with
  | nil => rfl
  | cons item items ih =>
      obtain ⟨hitem, hitems⟩ := List.forall_mem_cons.mp h
      rw [List.mapM_cons, List.mapM_cons, hitem, ih hitems]

/-! ## The key clause -/

namespace Column

/-- The clause that makes a serial column number its rows without any help. -/
def identityClause : SqlPiece := .plain " GENERATED BY DEFAULT AS IDENTITY PRIMARY KEY"

/-- The key clause of a serial column. -/
def keyClause : IdentityMode → SqlPiece
  | .native => identityClause
  | .emulated => .plain " PRIMARY KEY"

variable {column : Column}

/-- What a modifier adds to a column, which may be nothing. -/
def clause (mode : IdentityMode) (column : Column) (modifier : Modifier) : Sql :=
  (modifier.sql? mode column).getD []

theorem modifiers_eq_flatMap (mode : IdentityMode) :
    column.modifiers mode = Modifier.inOrder.flatMap (clause mode column) :=
  flatten_filterMap _ _

theorem clause_increment_of_isSerial (h : column.isSerial = true) (mode : IdentityMode) :
    clause mode column .increment = [keyClause mode] := by
  cases mode <;> simp [clause, Modifier.sql?, h, keyClause, identityClause]

/-- Only the key clause asks for the mode, and only on a serial column. -/
theorem clause_eq_of_mode {modifier : Modifier}
    (h : modifier = .increment → column.isSerial = false) (mode mode' : IdentityMode) :
    clause mode column modifier = clause mode' column modifier := by
  cases modifier with
  | increment => simp [clause, Modifier.sql?, h rfl]
  | _ => rfl

theorem identityClause_not_mem_clause {modifier : Modifier} (h : modifier ≠ .increment)
    (mode : IdentityMode) : identityClause ∉ clause mode column modifier := by
  unfold clause
  cases modifier with
  | increment => exact absurd rfl h
  | charset => cases hcharset : column.charset <;> simp [Modifier.sql?, hcharset, identityClause]
  | collate =>
      cases hcollation : column.collation <;> simp [Modifier.sql?, hcollation, identityClause]
  | nullable =>
      cases hnullable : column.nullable <;> simp [Modifier.sql?, hnullable, identityClause]
  | default =>
      cases hdefault : column.defaultValue with
      | none => simp [Modifier.sql?, hdefault]
      | some value =>
          cases value <;> simp [Modifier.sql?, hdefault, identityClause, DefaultValue.sql]

theorem exists_typeSql_eq (h : column.isSerial = true) :
    ∃ word ∈ ["INTEGER", "BIGINT", "SMALLINT"], column.typeSql = .ok [.plain word] := by
  unfold typeSql
  cases htype : column.type with
  | integer | mediumInteger => exact ⟨"INTEGER", by simp, rfl⟩
  | bigInteger => exact ⟨"BIGINT", by simp, rfl⟩
  | tinyInteger | smallInteger => exact ⟨"SMALLINT", by simp, rfl⟩
  | _ => simp [isSerial, htype, ColumnType.isInteger] at h

/-- The modifiers of a serial column differ between the modes in the key clause alone,
which is the identity clause in native mode only. -/
theorem exists_modifiers_eq (h : column.isSerial = true) :
    ∃ before after, identityClause ∉ before ++ after ∧
      ∀ mode, column.modifiers mode = before ++ keyClause mode :: after := by
  let before : List Modifier := [.charset, .collate]
  let after : List Modifier := [.nullable, .default]
  refine ⟨before.flatMap (clause .native column), after.flatMap (clause .native column), ?_, ?_⟩
  · simp [before, after, identityClause_not_mem_clause]
  · intro mode
    have hbefore : before.flatMap (clause .native column) = before.flatMap (clause mode column) :=
      rfl
    have hafter : after.flatMap (clause .native column) = after.flatMap (clause mode column) :=
      rfl
    rw [modifiers_eq_flatMap, hbefore, hafter, ← List.singleton_append,
      ← clause_increment_of_isSerial h]
    simp [before, after, Modifier.inOrder]

/-- The type of a serial column is one word, and the definition around the key clause is
the same in both modes. -/
theorem exists_definition_eq (h : column.isSerial = true) :
    ∃ opening before after, identityClause ∉ opening ++ before ++ after ∧
      (∀ mode, column.modifiers mode = before ++ keyClause mode :: after) ∧
      ∀ mode definition, column.definition mode = .ok definition →
        definition = opening ++ before ++ keyClause mode :: after := by
  obtain ⟨word, hword, htype⟩ := exists_typeSql_eq h
  obtain ⟨before, after, hclause, hmodifiers⟩ := exists_modifiers_eq h
  let opening : Sql := [.name (.ofString column.name), .plain " ", .plain word]
  have hopening : identityClause ∉ opening := by
    simp only [List.mem_cons, List.not_mem_nil, or_false] at hword
    rcases hword with rfl | rfl | rfl <;> simp [opening, identityClause]
  refine ⟨opening, before, after, ?_, hmodifiers, ?_⟩
  · rw [List.append_assoc, List.mem_append]
    exact not_or_intro hopening hclause
  · intro mode definition hdefinition
    obtain ⟨-, type, hwritten, rfl⟩ := definition_eq_ok_iff.mp hdefinition
    obtain rfl := Except.ok.inj (htype.symm.trans hwritten)
    rw [hmodifiers]
    simp [opening]

theorem modifiers_eq_of_not_isSerial (h : column.isSerial = false) (mode mode' : IdentityMode) :
    column.modifiers mode = column.modifiers mode' := by
  rw [modifiers_eq_flatMap, modifiers_eq_flatMap]
  exact congrArg (List.flatMap · _) (funext fun _ => clause_eq_of_mode (fun _ => h) mode mode')

theorem definition_eq_of_not_isSerial (h : column.isSerial = false) (mode mode' : IdentityMode) :
    column.definition mode = column.definition mode' := by
  unfold definition
  rw [modifiers_eq_of_not_isSerial h mode mode']

end Column

/-! ## Implied commands -/

/-- The commands that emulate a serial column. -/
def TableCommand.emulates : TableCommand → Bool
  | .createGenerator | .dropGenerator | .generatorTrigger _ => true
  | _ => false

namespace TablePlan

variable {settings settings' : Settings} {plan plan' : TablePlan}

theorem filter_emulates_native :
    (plan.allCommands .native).filter TableCommand.emulates =
      plan.commands.filter TableCommand.emulates := by
  rw [allCommands, withImpliedAdd]
  split <;> rfl

/-- Without a serial column and a drop, no mode implies more than the addition. -/
theorem allCommands_of_unnumbered (hcolumns : ∀ column ∈ plan.columns, column.isSerial = false)
    (hdrop : .drop ∉ plan.commands) (mode : IdentityMode) :
    plan.allCommands mode = plan.withImpliedAdd := by
  cases mode with
  | native => rfl
  | emulated =>
      have hserial : plan.serialColumn? = none := by
        rw [serialColumn?, List.find?_eq_none]
        intro column hcolumn
        simp [hcolumns column hcolumn]
      have hadd : .drop ∉ plan.withImpliedAdd := by
        rwa [mem_withImpliedAdd (by simp)]
      have hgenerator : plan.withImpliedGenerator plan.withImpliedAdd = plan.withImpliedAdd := by
        rw [withImpliedGenerator, hserial]
      rw [allCommands, hgenerator, withImpliedRemoval, insertAfter_eq_self hadd, ite_self]

/-! ## The effective mode -/

/-- The settings with the effective mode of a plan. -/
def resolved (settings : Settings) (plan : TablePlan) : Settings :=
  { settings with identity := plan.mode settings }

/-- The plan without a mode of its own. -/
def withoutMode (plan : TablePlan) : TablePlan := { plan with identity := none }

theorem compile_resolved (command : TableCommand) :
    plan.withoutMode.compile (plan.resolved settings) command = plan.compile settings command := by
  cases command <;> rfl

/-- A plan compiles as it would if its effective mode were the one of the settings. -/
theorem statements_resolved :
    plan.withoutMode.statements (plan.resolved settings) = plan.statements settings := by
  have hcommands : plan.withoutMode.allCommands (plan.mode settings) =
      plan.allCommands (plan.mode settings) := by
    cases plan.mode settings <;> rfl
  have hcompile : plan.withoutMode.compile (plan.resolved settings) = plan.compile settings :=
    funext compile_resolved
  calc
    plan.withoutMode.statements (plan.resolved settings) =
        (plan.withoutMode.allCommands (plan.mode settings)).mapM
          (plan.withoutMode.compile (plan.resolved settings)) := rfl
    _ = plan.statements settings := by rw [hcommands, hcompile, statements]

theorem statements_eq_of_mode_eq (hprefixes : settings.tablePrefix = settings'.tablePrefix)
    (hplans : plan.withoutMode = plan'.withoutMode)
    (hmodes : plan.mode settings = plan'.mode settings') :
    plan.statements settings = plan'.statements settings' := by
  have hsettings : plan.resolved settings = plan'.resolved settings' := by
    simp [resolved, hprefixes, hmodes]
  calc
    plan.statements settings = plan.withoutMode.statements (plan.resolved settings) :=
      statements_resolved.symm
    _ = plan'.withoutMode.statements (plan'.resolved settings') := by rw [hsettings, hplans]
    _ = plan'.statements settings' := statements_resolved

/-- The mode enters the statement of a command through the definitions of the columns. -/
theorem compile_eq_of_definitions_eq (hprefixes : settings.tablePrefix = settings'.tablePrefix)
    (hdefinitions : plan.definitions settings = plan.definitions settings')
    (command : TableCommand) :
    plan.compile settings command = plan.compile settings' command := by
  obtain ⟨tablePrefix, identity⟩ := settings
  obtain ⟨tablePrefix', identity'⟩ := settings'
  obtain rfl : tablePrefix = tablePrefix' := hprefixes
  cases command with
  | create =>
      rw [compile, compile, createTable, createTable, hdefinitions]
      rfl
  | add =>
      rw [compile, compile, addColumns, addColumns, hdefinitions]
      rfl
  | _ => rfl

theorem statements_eq_of_unnumbered (hprefixes : settings.tablePrefix = settings'.tablePrefix)
    (hcolumns : ∀ column ∈ plan.columns, column.isSerial = false)
    (hdrop : .drop ∉ plan.commands) :
    plan.statements settings = plan.statements settings' := by
  have hdefinitions : plan.definitions settings = plan.definitions settings' := by
    unfold definitions
    refine mapM_congr fun column hcolumn => ?_
    exact Column.definition_eq_of_not_isSerial (hcolumns column hcolumn) _ _
  have hcompile : plan.compile settings = plan.compile settings' :=
    funext (compile_eq_of_definitions_eq hprefixes hdefinitions)
  rw [statements, statements, allCommands_of_unnumbered hcolumns hdrop,
    allCommands_of_unnumbered hcolumns hdrop, hcompile]

/-- Without a serial column and a drop, the mode changes nothing, wherever it comes from. -/
theorem statements_of_unnumbered (hprefixes : settings.tablePrefix = settings'.tablePrefix)
    (hplans : plan.withoutMode = plan'.withoutMode)
    (hcolumns : ∀ column ∈ plan.columns, column.isSerial = false)
    (hdrop : .drop ∉ plan.commands) :
    plan.statements settings = plan'.statements settings' := by
  have hresolved : (plan.resolved settings).tablePrefix = (plan'.resolved settings').tablePrefix :=
    hprefixes
  calc
    plan.statements settings = plan.withoutMode.statements (plan.resolved settings) :=
      statements_resolved.symm
    _ = plan.withoutMode.statements (plan'.resolved settings') :=
      statements_eq_of_unnumbered hresolved hcolumns hdrop
    _ = plan'.statements settings' := by rw [hplans, statements_resolved]

end TablePlan

/-- The effective mode is the plan's own, or else the one of the settings.  Settings and
plans that agree on everything but the identity mode compile to the same result, errors
included, if they agree on the effective mode.  In native mode no command that emulates a
serial column is implied.  The modifiers of a serial column, and its definition wherever it
is created or added, have the identity clause in native mode and a plain key clause in
emulated mode, and differ in nothing else.  And the mode does not matter to a plan without
a serial column and without a drop. -/
theorem identity_acts_through_mode :
    (∀ (settings settings' : Settings) (plan plan' : TablePlan),
      settings.tablePrefix = settings'.tablePrefix → plan.withoutMode = plan'.withoutMode →
      plan.identity.getD settings.identity = plan'.identity.getD settings'.identity →
      plan.statements settings = plan'.statements settings') ∧
    (∀ (settings : Settings) (plan : TablePlan),
      plan.identity.getD settings.identity = .native →
      (plan.allCommands (plan.mode settings)).filter TableCommand.emulates =
        plan.commands.filter TableCommand.emulates) ∧
    (∀ column : Column, column.isSerial = true →
      ∃ opening before after, Column.identityClause ∉ opening ++ before ++ after ∧
        ∀ (settings : Settings) (plan : TablePlan),
          column.modifiers (plan.mode settings) =
            before ++ Column.keyClause (plan.identity.getD settings.identity) :: after ∧
          ∀ (command : TableCommand) (statement : Statement),
            command ∈ [TableCommand.create, .add] → column ∈ plan.columns →
            plan.compile settings command = .ok statement →
            DefinesColumn
              (opening ++ before ++
                Column.keyClause (plan.identity.getD settings.identity) :: after)
              (plan.tableName settings) statement) ∧
    (∀ (settings settings' : Settings) (plan plan' : TablePlan),
      settings.tablePrefix = settings'.tablePrefix → plan.withoutMode = plan'.withoutMode →
      (∀ column ∈ plan.columns, column.isSerial = false) → .drop ∉ plan.commands →
      plan.statements settings = plan'.statements settings') := by
  refine ⟨?_, ?_, ?_, ?_⟩
  · intro settings settings' plan plan' hprefixes hplans hmodes
    exact TablePlan.statements_eq_of_mode_eq hprefixes hplans hmodes
  · intro settings plan hmode
    have hnative : plan.mode settings = .native := hmode
    rw [hnative]
    exact TablePlan.filter_emulates_native
  · intro column hserial
    obtain ⟨opening, before, after, hclause, hmodifiers, hdefinitions⟩ :=
      Column.exists_definition_eq hserial
    refine ⟨opening, before, after, hclause, ?_⟩
    intro settings plan
    refine ⟨hmodifiers (plan.mode settings), ?_⟩
    intro command statement hcommand hcolumn hcompile
    obtain ⟨definition, hdefinition, hdefines⟩ :=
      (TablePlan.compile_eq_ok_iff.mp hcompile).exists_definesColumn hcommand hcolumn
    obtain rfl := hdefinitions _ _ hdefinition
    exact hdefines
  · intro settings settings' plan plan' hprefixes hplans hcolumns hdrop
    exact TablePlan.statements_of_unnumbered hprefixes hplans hcolumns hdrop

/-- A plan that names a mode of its own against settings that name the other one, in both
directions, and a plan that has no use for either. -/
theorem identity_acts_through_mode_of_override :
    let settings : Settings := { tablePrefix := "app_", identity := .native }
    let settings' : Settings := { tablePrefix := "app_", identity := .emulated }
    let plan : TablePlan :=
      { table := "users", columns := [.increments "id"], commands := [.create, .drop] }
    let native : TablePlan := { plan with identity := some .native }
    let emulated : TablePlan := { plan with identity := some .emulated }
    let notes : TablePlan := { table := "notes", columns := [.string "body"] }
    native.statements settings' = plan.statements settings ∧
    emulated.statements settings = plan.statements settings' ∧
    native.identity.getD settings'.identity = .native ∧
    (native.allCommands (native.mode settings')).filter TableCommand.emulates = [] ∧
    (Column.increments "id").isSerial = true ∧
    Column.identityClause ∈ (Column.increments "id").modifiers (native.mode settings') ∧
    Column.identityClause ∉ (Column.increments "id").modifiers (emulated.mode settings) ∧
    (∃ statement, emulated.compile settings .create = .ok statement ∧
      statement.text = "CREATE TABLE \"app_users\" (\"id\" INTEGER PRIMARY KEY NOT NULL)" ∧
      ∃ opening after, Column.identityClause ∉ opening ++ after ∧
        DefinesColumn (opening ++ .plain " PRIMARY KEY" :: after) (emulated.tableName settings)
          statement) ∧
    notes.statements settings = notes.statements settings' ∧
    ∃ statements, notes.statements settings' = .ok statements := by
  intro settings settings' plan native emulated notes
  obtain ⟨hmodes, hnative, hserial, hunnumbered⟩ := identity_acts_through_mode
  have hsame : native.statements settings' = plan.statements settings :=
    hmodes settings' settings native plan rfl rfl rfl
  have hsame' : emulated.statements settings = plan.statements settings' :=
    hmodes settings settings' emulated plan rfl rfl rfl
  have hmode : native.identity.getD settings'.identity = .native := rfl
  have hid : (Column.increments "id").isSerial = true := rfl
  obtain ⟨opening, before, after, hclause, hkey⟩ := hserial (.increments "id") hid
  have hidentity : Column.identityClause ∈
      (Column.increments "id").modifiers (native.mode settings') := by
    rw [(hkey settings' native).1]
    exact List.mem_append_right before List.mem_cons_self
  have hplain : Column.identityClause ∉
      (Column.increments "id").modifiers (emulated.mode settings) := by
    rw [(hkey settings emulated).1, List.mem_append, List.mem_cons]
    rintro (hbefore | hkeyed | hafter)
    · exact hclause (by simp [hbefore])
    · exact absurd hkeyed (by decide)
    · exact hclause (by simp [hafter])
  have hcolumns : ∀ column ∈ notes.columns, column.isSerial = false := by decide
  refine ⟨hsame, hsame', hmode, hnative settings' native hmode, hid, hidentity, hplain, ?_,
    hunnumbered settings settings' notes notes rfl rfl hcolumns (by decide), _, rfl⟩
  have hcompiles : ∃ statement, emulated.compile settings .create = .ok statement ∧
      statement.text = "CREATE TABLE \"app_users\" (\"id\" INTEGER PRIMARY KEY NOT NULL)" :=
    ⟨_, rfl, by decide⟩
  obtain ⟨statement, hstatement, htext⟩ := hcompiles
  exact ⟨statement, hstatement, htext, opening ++ before, after, hclause,
    (hkey settings emulated).2 .create statement (by decide) (by decide) hstatement⟩

end SchemaDdl
