import SchemaDdl.Proofs.Catalog.Guard
import SchemaDdl.Proofs.Emulation.ImpliedCommands
import SchemaDdl.Proofs.Text.Joined

/-!
# The life cycle of an emulated serial column

Creating a table with a serial column in emulated mode creates a generator and a
trigger; dropping the table, by another plan and perhaps much later, drops both.
No state is kept in between: the two plans meet in the names that they derive
from the table.

`SetsUp` and `TearsDown` state what a reader of the written statements finds on
either side.  `emulation_life_cycle` proves that the statements of the two plans
name the same table, generator and trigger, whatever characters the names hold
and wherever they are cut.
-/

namespace SchemaDdl

open Reading

/-- The written statement opens with some words. -/
def Statement.StartsWith (statement : Statement) (words : String) : Prop :=
  words.toList <+: statement.text.toList

/-- The first statement that creates a table creates `table`, with a column that
`definition` defines and `key` names.  Behind it the generator follows, and then a
trigger on that table that fills that column from that generator. -/
def SetsUp (definition : Sql) (table generator trigger key : Name)
    (statements : List Statement) : Prop :=
  ∃ before creation sequence filling after,
    statements = before ++ ([creation, sequence, filling] ++ after) ∧
    (∀ statement ∈ before, ∀ words ∈ tableCreations, ¬statement.StartsWith words) ∧
    (∃ words ∈ tableCreations, (naming words).Opens creation.text [.name table]) ∧
    definition.text.toList <:+: creation.text.toList ∧
    Form.Opens [.name] definition.text [.name key] ∧
    (naming "CREATE SEQUENCE ").Reads sequence.text [.name generator] ∧
    triggerForm.Reads filling.text
      [.name trigger, .name table, .name key, .name key, .name generator]

/-- The first statement that drops a table drops `table`.  Behind it a block follows
that drops the trigger and then the generator, each as far as the catalog lists the
text that its name is written from. -/
def TearsDown (table generator trigger : Name) (statements : List Statement) : Prop :=
  ∃ before removal script after triggerEntry generatorEntry,
    statements = before ++ ([removal, script] ++ after) ∧
    (∀ statement ∈ before, ¬statement.StartsWith "DROP TABLE ") ∧
    (naming "DROP TABLE ").Reads removal.text [.name table] ∧
    script.Decodes [⟨.trigger, triggerEntry, trigger⟩, ⟨.generator, generatorEntry, generator⟩] ∧
    (Name.ofString triggerEntry = trigger ∧
      ('.' ∉ triggerEntry.toList → trigger.Denotes triggerEntry)) ∧
    (Name.ofString generatorEntry = generator ∧
      ('.' ∉ generatorEntry.toList → generator.Denotes generatorEntry))

/-! ## Statements and their commands -/

theorem exists_of_forall₂_append {α β : Type} {r : α → β → Prop} {xs ys : List α}
    {zs : List β} (h : List.Forall₂ r (xs ++ ys) zs) :
    ∃ zs₁ zs₂, zs = zs₁ ++ zs₂ ∧ List.Forall₂ r xs zs₁ ∧ List.Forall₂ r ys zs₂ := by
  induction xs generalizing zs with
  | nil => exact ⟨[], zs, rfl, .nil, h⟩
  | cons x xs ih =>
      obtain ⟨z, zs, hz, hzs, rfl⟩ := List.forall₂_cons_left_iff.mp h
      obtain ⟨zs₁, zs₂, rfl, hxs, hys⟩ := ih hzs
      exact ⟨z :: zs₁, zs₂, rfl, .cons hz hxs, hys⟩

namespace TablePlan

variable {settings : Settings} {plan : TablePlan} {command : TableCommand}
  {statement : Statement}

theorem Compiled.not_startsWith (h : plan.Compiled settings command statement)
    {words : String} (hapart : Apart words (plan.openingWords command)) :
    ¬statement.StartsWith words := by
  obtain ⟨sql, hsql⟩ := h.opens
  rw [Statement.StartsWith, Statement.text, Sql.toList_text, hsql, Sql.chars_cons]
  exact hapart.not_prefix (List.prefix_append _ _)

/-- All words that open the statement of some command. -/
def openings : List String :=
  tableCreations ++ ["DROP TABLE ", "ALTER TABLE ", "CREATE INDEX ", "CREATE SEQUENCE ",
    "EXECUTE BLOCK\nAS\nBEGIN\n", "CREATE OR ALTER TRIGGER "]

theorem apart_of_mem_openings : ∀ words ∈ openings, ∀ other ∈ openings,
    words ≠ other → Apart words other := by
  decide

theorem openingWords_mem (plan : TablePlan) (command : TableCommand) :
    plan.openingWords command ∈ openings := by
  cases command with
  | create => exact List.mem_append_left _ plan.creationWords_mem
  | _ => simp [openingWords, openings]

/-- A statement opens with the words of its own command only. -/
theorem Compiled.openingWords_eq (h : plan.Compiled settings command statement)
    {words : String} (hwords : words ∈ openings) (hstarts : statement.StartsWith words) :
    plan.openingWords command = words := by
  by_contra hne
  have hapart := apart_of_mem_openings words hwords _ (plan.openingWords_mem command) (Ne.symm hne)
  exact h.not_startsWith hapart hstarts

theorem creationWords_ne {words : String} (h : words ∉ tableCreations) :
    plan.creationWords ≠ words := by
  rintro rfl
  exact h plan.creationWords_mem

/-- Only the creation of a table opens like one. -/
theorem Compiled.not_startsWith_creation (h : plan.Compiled settings command statement)
    (hcommand : command ≠ .create) {words : String} (hwords : words ∈ tableCreations) :
    ¬statement.StartsWith words := by
  intro hstarts
  have hopening := h.openingWords_eq (List.mem_append_left _ hwords) hstarts
  cases command with
  | create => exact absurd rfl hcommand
  | _ =>
      rw [← hopening, openingWords] at hwords
      exact absurd hwords (by decide)

/-- Only the drop of a table opens like one. -/
theorem Compiled.not_startsWith_drop (h : plan.Compiled settings command statement)
    (hcommand : command ≠ .drop) : ¬statement.StartsWith "DROP TABLE " := by
  intro hstarts
  have hopening := h.openingWords_eq (by decide) hstarts
  cases command with
  | drop => exact absurd rfl hcommand
  | create => exact absurd hopening (creationWords_ne (by decide))
  | _ => exact absurd hopening (by simp [openingWords])

end TablePlan

/-! ## The column in the created table -/

theorem Sql.chars_infix {part sql : Sql} (h : part <:+: sql) : chars part <:+: chars sql := by
  obtain ⟨before, after, rfl⟩ := h
  exact ⟨chars before, chars after, by simp⟩

namespace TablePlan

variable {settings : Settings} {plan : TablePlan}

/-- A statement with a list of clauses around the definitions of all columns holds the
definition of each. -/
theorem exists_infix_definition {definitions : List Sql}
    (hdefinitions : plan.definitions settings = .ok definitions) (clause : Sql → Sql)
    (hclause : ∀ definition, definition <:+: clause definition) {statement : Statement}
    (hlist : Sql.separated ", " (definitions.map clause) <:+: statement.sql) {column : Column}
    (hcolumn : column ∈ plan.columns) :
    ∃ definition : Sql, column.definition (plan.mode settings) = .ok definition ∧
      definition.text.toList <:+: statement.text.toList := by
  obtain ⟨definition, hmem, hdefinition⟩ :=
    exists_of_mem_forall₂ (definitions_eq_ok_iff.mp hdefinitions) hcolumn
  have hlisted : clause definition <:+: Sql.separated ", " (definitions.map clause) :=
    infix_intercalate _ (List.mem_map_of_mem hmem)
  refine ⟨definition, hdefinition, ?_⟩
  rw [Sql.toList_text, Statement.text, Sql.toList_text]
  exact Sql.chars_infix ((hclause definition).trans (hlisted.trans hlist))

/-- The created table holds the definition of each of its columns. -/
theorem exists_definition {statement : Statement}
    (h : plan.Compiled settings .create statement) {column : Column}
    (hcolumn : column ∈ plan.columns) :
    ∃ definition : Sql, column.definition (plan.mode settings) = .ok definition ∧
      definition.text.toList <:+: statement.text.toList := by
  cases h with
  | @create definitions hcolumns hdefinitions =>
      refine exists_infix_definition hdefinitions id (fun _ => List.infix_rfl) ?_ hcolumn
      rw [List.map_id]
      exact ⟨[.plain plan.creationWords, .name (plan.tableName settings), .plain " ("],
        .plain ")" :: plan.commitClause, rfl⟩

theorem opens_definition {mode : IdentityMode} {column : Column} {definition : Sql}
    (h : column.definition mode = .ok definition) :
    Form.Opens [.name] definition.text [.name (.ofString column.name)] := by
  have hregular := (Column.content_definition h).regular
  obtain ⟨-, type, -, rfl⟩ := Column.definition_eq_ok_iff.mp h
  obtain ⟨hname, hopen, htail⟩ := hregular
  have hopens : Form.Opens [.name] (Sql.text ([.name (.ofString column.name)] ++
      .plain " " :: (type ++ column.modifiers mode))) [.name (.ofString column.name)] :=
    Form.opens_text (.name _ .nil) ⟨hname, trivial, trivial⟩ htail hopen
  simpa using hopens

end TablePlan

/-! ## The two sides -/

namespace TablePlan

variable {settings : Settings} {plan : TablePlan} {statements : List Statement}

theorem setsUp {column : Column} (hmode : plan.mode settings = .emulated)
    (hcreate : .create ∈ plan.commands) (hserial : plan.serialColumn? = some column)
    (hgenerator : .createGenerator ∉ plan.commands)
    (hstatements : plan.statements settings = .ok statements) :
    ∃ definition : Sql, column.definition .emulated = .ok definition ∧
      SetsUp definition (plan.tableName settings) (plan.generator settings)
        (plan.trigger settings) (.ofString column.name) statements := by
  obtain ⟨before, after, hcommands, hbefore⟩ := exists_setup hcreate hserial hgenerator
  have hcompiled := statements_eq_ok_iff.mp hstatements
  rw [hmode, hcommands] at hcompiled
  obtain ⟨earlier, rest, rfl, hearlier, hrest⟩ := exists_of_forall₂_append hcompiled
  obtain ⟨creation, rest, hcreation, hsetup, rfl⟩ := List.forall₂_cons_left_iff.mp hrest
  obtain ⟨sequence, rest, hsequence, htrigger, rfl⟩ := List.forall₂_cons_left_iff.mp hsetup
  obtain ⟨filling, later, hfilling, -, rfl⟩ := List.forall₂_cons_left_iff.mp htrigger
  obtain ⟨definition, hdefinition, hinfix⟩ :=
    exists_definition hcreation (List.mem_of_find?_eq_some hserial)
  rw [hmode] at hdefinition
  refine ⟨definition, hdefinition, earlier, creation, sequence, filling, later, rfl, ?_, ?_,
    hinfix, opens_definition hdefinition, reads_generator hsequence, reads_trigger hfilling⟩
  · intro statement hstatement words hwords
    obtain ⟨command, hcommand, hstatement⟩ := exists_of_mem_forall₂ hearlier.flip hstatement
    refine hstatement.not_startsWith_creation ?_ hwords
    rintro rfl
    exact hbefore hcommand
  · exact ⟨plan.creationWords, plan.creationWords_mem, opens_creation hcreation⟩

theorem tearsDown (hmode : plan.mode settings = .emulated)
    (hdrop : .drop ∈ plan.commands) (hremoval : .dropGenerator ∉ plan.commands)
    (hstatements : plan.statements settings = .ok statements) :
    TearsDown (plan.tableName settings) (plan.generator settings) (plan.trigger settings)
      statements := by
  obtain ⟨before, after, hcommands, hbefore⟩ := exists_removal hdrop hremoval
  have hcompiled := statements_eq_ok_iff.mp hstatements
  rw [hmode, hcommands] at hcompiled
  obtain ⟨earlier, rest, rfl, hearlier, hrest⟩ := exists_of_forall₂_append hcompiled
  obtain ⟨removal, rest, hremoved, hscripted, rfl⟩ := List.forall₂_cons_left_iff.mp hrest
  obtain ⟨script, later, hscript, -, rfl⟩ := List.forall₂_cons_left_iff.mp hscripted
  refine ⟨earlier, removal, script, later, settings.triggerName plan.table,
    settings.generatorName plan.table, rfl, ?_, reads_removal hremoved, ?_, ⟨rfl, ?_⟩, ⟨rfl, ?_⟩⟩
  · intro statement hstatement
    obtain ⟨command, hcommand, hstatement⟩ := exists_of_mem_forall₂ hearlier.flip hstatement
    refine hstatement.not_startsWith_drop ?_
    rintro rfl
    exact hbefore hcommand
  · cases hscript with
    | dropGenerator => exact plan.dropGenerator_decodes settings
  · exact (Name.denotes_ofString_cut_iff (settings.triggerName_ne_star plan.table)).mpr
  · exact (Name.denotes_ofString_cut_iff (settings.generatorName_ne_star plan.table)).mpr

end TablePlan

/-- What the creation of a table with a serial column sets up, every drop of the same
table under the same prefix tears down. -/
theorem emulation_life_cycle {settings : Settings} {plan : TablePlan} {column : Column}
    {statements : List Statement} (hmode : plan.mode settings = .emulated)
    (hcreate : .create ∈ plan.commands) (hserial : plan.serialColumn? = some column)
    (hgenerator : .createGenerator ∉ plan.commands)
    (hstatements : plan.statements settings = .ok statements) :
    ∃ (definition : Sql) (table generator trigger key : Name),
      column.definition .emulated = .ok definition ∧
      SetsUp definition table generator trigger key statements ∧
      ∀ (dropSettings : Settings) (drop : TablePlan) (dropStatements : List Statement),
        dropSettings.tablePrefix = settings.tablePrefix → drop.table = plan.table →
        drop.mode dropSettings = .emulated → .drop ∈ drop.commands →
        .dropGenerator ∉ drop.commands →
        drop.statements dropSettings = .ok dropStatements →
        TearsDown table generator trigger dropStatements := by
  obtain ⟨definition, hdefinition, hsetsUp⟩ :=
    TablePlan.setsUp hmode hcreate hserial hgenerator hstatements
  refine ⟨definition, _, _, _, _, hdefinition, hsetsUp, ?_⟩
  intro dropSettings drop dropStatements hprefix htable hdropMode hdrop hremoval hdropped
  have htearsDown := TablePlan.tearsDown hdropMode hdrop hremoval hdropped
  have hprefixed : dropSettings.prefixed = settings.prefixed := by
    funext name
    rw [Settings.prefixed, Settings.prefixed, hprefix]
  simpa only [TablePlan.tableName, TablePlan.generator, TablePlan.trigger,
    Settings.qualified, Settings.generatorName, Settings.triggerName, hprefixed, htable]
    using htearsDown

/-- A table with two serial columns, whose name holds quotes and a line end and is cut in
every rendering. -/
theorem emulation_life_cycle_of_quoted_table :
    let settings : Settings := { tablePrefix := "app\"" }
    let plan : TablePlan :=
      { table := "it's\nthe table of every single order"
        columns := [.string "label", .increments "i\"d", .bigIncrements "no"]
        commands := [.create] }
    let drop : TablePlan :=
      { table := "it's\nthe table of every single order", commands := [.drop] }
    plan.mode settings = .emulated ∧ .create ∈ plan.commands ∧
      plan.serialColumn? = some (.increments "i\"d") ∧
      .createGenerator ∉ plan.commands ∧
      ∃ statements dropStatements, plan.statements settings = .ok statements ∧
        drop.statements settings = .ok dropStatements ∧
        ∃ (definition : Sql) (table generator trigger key : Name),
          (Column.increments "i\"d").definition .emulated = .ok definition ∧
          SetsUp definition table generator trigger key statements ∧
          TearsDown table generator trigger dropStatements := by
  intro settings plan drop
  have hmode : plan.mode settings = .emulated := rfl
  have hcreate : .create ∈ plan.commands := List.mem_cons_self
  have hserial : plan.serialColumn? = some (.increments "i\"d") := rfl
  have hgenerator : .createGenerator ∉ plan.commands := by decide
  have hcompiles : ∃ statements, plan.statements settings = .ok statements := ⟨_, rfl⟩
  have hdrops : ∃ statements, drop.statements settings = .ok statements := ⟨_, rfl⟩
  obtain ⟨statements, hstatements⟩ := hcompiles
  obtain ⟨dropStatements, hdropped⟩ := hdrops
  obtain ⟨definition, table, generator, trigger, key, hdefinition, hsetsUp, htearsDown⟩ :=
    emulation_life_cycle hmode hcreate hserial hgenerator hstatements
  have hdrop : .drop ∈ drop.commands := List.mem_cons_self
  have hremoval : .dropGenerator ∉ drop.commands := by decide
  exact ⟨hmode, hcreate, hserial, hgenerator, statements, dropStatements, hstatements, hdropped,
    definition, table, generator, trigger, key, hdefinition, hsetsUp,
    htearsDown settings drop dropStatements rfl rfl rfl hdrop hremoval hdropped⟩

end SchemaDdl
