import SchemaDdl.Proofs.Emulation.LifeCycle
import SchemaDdl.Proofs.Emulation.OnePass

/-!
# When the emulation of a serial column is complete

In emulated mode a serial column works only with its generator and with a trigger that
stands behind the statement that defines the column (`Emulates`).

The columns of a plan come into the table by its creation or by an addition.  Only a
creation implies the generator and the trigger, so a plan that adds a serial column brings
both itself.  `emulation_complete` tells from the commands of a plan whether its
statements complete the emulation.
-/

namespace SchemaDdl

open Reading
open scoped List

/-- The statement creates `table` or adds columns to it, and the column that
`definition` defines is among them. -/
def DefinesColumn (definition : Sql) (table : Name) (statement : Statement) : Prop :=
  ((∃ words ∈ tableCreations, (naming words).Opens statement.text [.name table]) ∨
    ∃ first, additionForm.Opens statement.text [.name table, .name first]) ∧
  definition.text.toList <:+: statement.text.toList

/-- Some statement creates the generator, and behind one that defines the column stands
one that creates a trigger on the table, which fills the column from the generator. -/
def Emulates (definition : Sql) (table generator key : Name) (statements : List Statement) :
    Prop :=
  ∃ defining filling sequence trigger,
    [defining, filling] <+ statements ∧ sequence ∈ statements ∧
    DefinesColumn definition table defining ∧
    (naming "CREATE SEQUENCE ").Reads sequence.text [.name generator] ∧
    triggerForm.Reads filling.text
      [.name trigger, .name table, .name key, .name key, .name generator]

/-- Behind a command that defines the columns stands one that fills the column `key`. -/
def TriggerFollows (key : Name) (commands : List TableCommand) : Prop :=
  ∃ definer ∈ [TableCommand.create, .add], ∃ column, Name.ofString column = key ∧
    [definer, .generatorTrigger column] <+ commands

/-! ## What the opening of a statement tells -/

/-- A statement begins with the first words of each form that opens it. -/
theorem Statement.startsWith_of_opens {statement : Statement} {words : String} {form : Form}
    {values : List FormValue} (h : Form.Opens (.words words :: form) statement.text values) :
    statement.StartsWith words := by
  obtain ⟨rest, h⟩ := h
  obtain ⟨tokens, hwords, -⟩ := Option.bind_eq_some_iff.mp h
  have hscan := eq_append_of_readWords hwords
  refine ⟨write tokens, ?_⟩
  rw [← write_scan statement.text.toList, hscan, write_append, write_map_bare]

namespace TablePlan

variable {settings : Settings} {plan : TablePlan} {command : TableCommand}
  {statement : Statement}

theorem Compiled.eq_createGenerator (h : plan.Compiled settings command statement)
    (hstarts : statement.StartsWith "CREATE SEQUENCE ") : command = .createGenerator := by
  have hopening := h.openingWords_eq (by decide) hstarts
  cases command with
  | createGenerator => rfl
  | create => exact absurd hopening (creationWords_ne (by decide))
  | _ => exact absurd hopening (by simp [openingWords])

theorem Compiled.eq_generatorTrigger (h : plan.Compiled settings command statement)
    (hstarts : statement.StartsWith "CREATE OR ALTER TRIGGER ") :
    ∃ column, command = .generatorTrigger column := by
  have hopening := h.openingWords_eq (by decide) hstarts
  cases command with
  | generatorTrigger column => exact ⟨column, rfl⟩
  | create => exact absurd hopening (creationWords_ne (by decide))
  | _ => exact absurd hopening (by simp [openingWords])

/-- Only an addition is read as one. -/
theorem Compiled.eq_add (h : plan.Compiled settings command statement)
    {values : List FormValue} (hopens : additionForm.Opens statement.text values) :
    command = .add := by
  have hopening := h.openingWords_eq (by decide) (Statement.startsWith_of_opens hopens)
  have hcontent := h.content
  cases h with
  | add => rfl
  | create => exact absurd hopening (creationWords_ne (by decide))
  | primary | unique | foreign | dropForeign =>
      exact absurd hopens (not_opens_addition hcontent.regular hcontent.verbatims_eq
        (fun _ => rfl) values)
  | _ => exact absurd hopening (by simp [openingWords])

/-! ## Definitions of a column -/

/-- An addition holds the definition of each column of its plan. -/
theorem exists_added_definition (h : plan.Compiled settings .add statement) {column : Column}
    (hcolumn : column ∈ plan.columns) :
    ∃ definition : Sql, column.definition (plan.mode settings) = .ok definition ∧
      definition.text.toList <:+: statement.text.toList := by
  cases h with
  | @add definitions hcolumns hdefinitions =>
      have hadded : ∀ definition : Sql, definition <:+: .plain "ADD " :: definition :=
        fun definition => (List.suffix_cons _ definition).isInfix
      refine exists_infix_definition hdefinitions (.plain "ADD " :: ·) hadded ?_ hcolumn
      exact List.IsSuffix.isInfix
        ⟨[.plain "ALTER TABLE ", .name (plan.tableName settings), .plain " "], rfl⟩

theorem Compiled.exists_definesColumn (h : plan.Compiled settings command statement)
    (hcommand : command ∈ [TableCommand.create, .add]) {column : Column}
    (hcolumn : column ∈ plan.columns) :
    ∃ definition : Sql, column.definition (plan.mode settings) = .ok definition ∧
      DefinesColumn definition (plan.tableName settings) statement := by
  simp only [List.mem_cons, List.not_mem_nil, or_false] at hcommand
  rcases hcommand with rfl | rfl
  · obtain ⟨definition, hdefinition, hinfix⟩ := exists_definition h hcolumn
    have hopens := opens_creation h
    exact ⟨definition, hdefinition, .inl ⟨_, plan.creationWords_mem, hopens⟩, hinfix⟩
  · obtain ⟨definition, hdefinition, hinfix⟩ := exists_added_definition h hcolumn
    exact ⟨definition, hdefinition, .inr (opens_addition h), hinfix⟩

theorem Compiled.mem_of_definesColumn (h : plan.Compiled settings command statement)
    {definition : Sql} {table : Name} (hdefines : DefinesColumn definition table statement) :
    command ∈ [TableCommand.create, .add] := by
  rcases hdefines.1 with ⟨words, hwords, hopens⟩ | ⟨first, hopens⟩
  · have hstarts := Statement.startsWith_of_opens hopens
    have hcreate : command = .create := by
      by_contra hcommand
      exact h.not_startsWith_creation hcommand hwords hstarts
    simp [hcreate]
  · simp [h.eq_add hopens]

end TablePlan

/-! ## From commands to statements and back -/

theorem exists_sublist_of_forall₂ {α β : Type} {r : α → β → Prop} {xs : List α} {ys : List β}
    (h : List.Forall₂ r xs ys) {part : List α} (hpart : part <+ xs) :
    ∃ part', part' <+ ys ∧ List.Forall₂ r part part' := by
  induction h generalizing part with
  | nil =>
      obtain rfl := List.sublist_nil.mp hpart
      exact ⟨[], List.Sublist.refl [], .nil⟩
  | @cons x y xs ys hxy _ ih =>
      rcases List.sublist_cons_iff.mp hpart with hpart | ⟨rest, rfl, hrest⟩
      · obtain ⟨part', hpart', hforall⟩ := ih hpart
        exact ⟨part', hpart'.cons y, hforall⟩
      · obtain ⟨part', hpart', hforall⟩ := ih hrest
        exact ⟨y :: part', hpart'.cons_cons y, .cons hxy hforall⟩

/-- Two items that follow one another are related to two that do. -/
theorem exists_pair_of_forall₂ {α β : Type} {r : α → β → Prop} {xs : List α} {ys : List β}
    (h : List.Forall₂ r xs ys) {first second : α} (hpair : [first, second] <+ xs) :
    ∃ first' second', [first', second'] <+ ys ∧ r first first' ∧ r second second' := by
  obtain ⟨pair, hys, hrelated⟩ := exists_sublist_of_forall₂ h hpair
  obtain ⟨first', rest, hfirst, hrest, rfl⟩ := List.forall₂_cons_left_iff.mp hrelated
  obtain ⟨second', others, hsecond, hothers, rfl⟩ := List.forall₂_cons_left_iff.mp hrest
  obtain rfl := List.forall₂_nil_left_iff.mp hothers
  exact ⟨first', second', hys, hfirst, hsecond⟩

namespace TablePlan

variable {settings : Settings} {plan : TablePlan} {column : Column} {definition : Sql}
  {commands : List TableCommand} {statements : List Statement}

theorem emulates_of_triggerFollows
    (hcompiled : List.Forall₂ (plan.Compiled settings) commands statements)
    (hcolumn : column ∈ plan.columns)
    (hdefinition : column.definition (plan.mode settings) = .ok definition)
    (hgenerator : .createGenerator ∈ commands)
    (hfollows : TriggerFollows (.ofString column.name) commands) :
    Emulates definition (plan.tableName settings) (plan.generator settings)
      (.ofString column.name) statements := by
  obtain ⟨definer, hdefiner, filled, hkey, hpair⟩ := hfollows
  obtain ⟨sequence, hsequence, hcreated⟩ := exists_of_mem_forall₂ hcompiled hgenerator
  obtain ⟨defining, filling, hstatements, hdefining, hfilling⟩ :=
    exists_pair_of_forall₂ hcompiled hpair
  obtain ⟨definition', hdefinition', hdefines⟩ :=
    hdefining.exists_definesColumn hdefiner hcolumn
  obtain rfl := Except.ok.inj (hdefinition.symm.trans hdefinition')
  have hreads := reads_trigger hfilling
  rw [hkey] at hreads
  exact ⟨defining, filling, sequence, plan.trigger settings, hstatements, hsequence, hdefines,
    reads_generator hcreated, hreads⟩

theorem triggerFollows_of_emulates
    (hcompiled : List.Forall₂ (plan.Compiled settings) commands statements)
    {table generator key : Name} (h : Emulates definition table generator key statements) :
    .createGenerator ∈ commands ∧ TriggerFollows key commands := by
  obtain ⟨defining, filling, sequence, trigger, hpair, hsequence, hdefines, hcreates, hfills⟩ := h
  constructor
  · obtain ⟨command, hcommand, hcreated⟩ := exists_of_mem_forall₂ hcompiled.flip hsequence
    obtain rfl := hcreated.eq_createGenerator (Statement.startsWith_of_opens ⟨[], hcreates⟩)
    exact hcommand
  · obtain ⟨definer, command, hcommands, hdefining, hfilling⟩ :=
      exists_pair_of_forall₂ hcompiled.flip hpair
    obtain ⟨filled, rfl⟩ :=
      hfilling.eq_generatorTrigger (Statement.startsWith_of_opens ⟨[], hfills⟩)
    refine ⟨definer, hdefining.mem_of_definesColumn hdefines, filled, ?_, hcommands⟩
    -- The statement is read in one way only.
    have hread := (reads_trigger hfilling).symm.trans hfills
    simp only [Option.some.injEq, Prod.mk.injEq, List.cons.injEq, FormValue.name.injEq] at hread
    exact hread.1.2.2.1

/-- Which commands complete the emulation. -/
theorem emulates_iff_triggerFollows
    (hcompiled : List.Forall₂ (plan.Compiled settings) commands statements)
    (hcolumn : column ∈ plan.columns)
    (hdefinition : column.definition (plan.mode settings) = .ok definition) :
    Emulates definition (plan.tableName settings) (plan.generator settings)
        (.ofString column.name) statements ↔
      .createGenerator ∈ commands ∧ TriggerFollows (.ofString column.name) commands := by
  constructor
  · exact triggerFollows_of_emulates hcompiled
  · rintro ⟨hgenerator, hfollows⟩
    exact emulates_of_triggerFollows hcompiled hcolumn hdefinition hgenerator hfollows

/-! ## Which plans are complete -/

theorem filter_insertAfter (target : TableCommand) (extra commands : List TableCommand) :
    (insertAfter target extra commands).filter (· ∉ extra) = commands.filter (· ∉ extra) := by
  induction commands with
  | nil => rfl
  | cons command commands ih =>
      have hextra : extra.filter (· ∉ extra) = [] := by simp
      rw [insertAfter]
      split
      · rw [List.cons_append, List.filter_cons, List.filter_append, hextra, List.filter_cons]
        rfl
      · rw [List.filter_cons, List.filter_cons, ih]

/-- An insertion changes nothing about the order of other commands. -/
theorem sublist_insertAfter_iff {target : TableCommand} {extra part : List TableCommand}
    (h : ∀ command ∈ part, command ∉ extra) :
    part <+ insertAfter target extra commands ↔ part <+ commands := by
  constructor
  · intro hpart
    have hkept : part.filter (· ∉ extra) = part := by simpa using h
    calc
      part = part.filter (· ∉ extra) := hkept.symm
      _ <+ (insertAfter target extra commands).filter (· ∉ extra) := hpart.filter _
      _ = commands.filter (· ∉ extra) := filter_insertAfter target extra commands
      _ <+ commands := List.filter_sublist
  · intro hpart
    exact hpart.trans (sublist_insertAfter target extra commands)

theorem createGenerator_mem_allCommands (hgenerator : .createGenerator ∉ plan.commands)
    (h : .createGenerator ∈ plan.allCommands .emulated) : .create ∈ plan.commands := by
  have hremoval : TableCommand.createGenerator ∉ plan.impliedRemoval .emulated := by
    unfold impliedRemoval
    split <;> simp
  rw [allCommands_eq_insertAfter, mem_insertAfter, mem_insertAfter, ← withImpliedAdd_eq,
    mem_withImpliedAdd (by simp), mem_withImpliedAdd (by simp)] at h
  rcases h with (h | ⟨hcreate, -⟩) | ⟨-, h⟩
  · exact absurd h hgenerator
  · exact hcreate
  · exact absurd h hremoval

/-- A plan that creates the generator itself gets no trigger but its own. -/
theorem triggerFollows_allCommands_iff (hgenerator : .createGenerator ∈ plan.commands)
    (key : Name) :
    TriggerFollows key (plan.allCommands .emulated) ↔ TriggerFollows key plan.withImpliedAdd := by
  have hsetup : plan.impliedSetup .emulated = [] := by
    unfold impliedSetup
    split <;> simp [hgenerator]
  have hremoval : ∀ definer ∈ [TableCommand.create, .add], ∀ filled,
      ∀ command ∈ [definer, .generatorTrigger filled], command ∉ plan.impliedRemoval .emulated := by
    unfold impliedRemoval
    split <;> simp
  rw [allCommands_eq_insertAfter, hsetup, insertAfter_nil, ← withImpliedAdd_eq]
  unfold TriggerFollows
  refine exists_congr fun definer => and_congr_right fun hdefiner =>
    exists_congr fun filled => and_congr_right fun _ => ?_
  exact sublist_insertAfter_iff (hremoval definer hdefiner filled)

/-- The commands that complete the emulation are those that the creation implies, or else
the plan creates the generator itself and has the trigger behind its columns. -/
theorem complete_allCommands_iff (hserial : plan.serialColumn? = some column) :
    (.createGenerator ∈ plan.allCommands .emulated ∧
        TriggerFollows (.ofString column.name) (plan.allCommands .emulated)) ↔
      (.createGenerator ∉ plan.commands ∧ .create ∈ plan.commands) ∨
      (.createGenerator ∈ plan.commands ∧
        TriggerFollows (.ofString column.name) plan.withImpliedAdd) := by
  by_cases hgenerator : TableCommand.createGenerator ∈ plan.commands
  · have hmem : .createGenerator ∈ plan.allCommands .emulated :=
      mem_allCommands_of_mem hgenerator .emulated
    simp [hgenerator, hmem, triggerFollows_allCommands_iff]
  · simp only [hgenerator, not_false_eq_true, true_and, false_and, or_false]
    constructor
    · rintro ⟨hmem, -⟩
      exact createGenerator_mem_allCommands hgenerator hmem
    · intro hcreate
      obtain ⟨before, after, hcommands, -⟩ := exists_setup hcreate hserial hgenerator
      have hpair : [.create, .generatorTrigger column.name] <+ plan.allCommands .emulated := by
        rw [hcommands]
        refine List.Sublist.trans ?_ (List.sublist_append_right before _)
        refine List.Sublist.trans ?_ (List.sublist_append_left _ after)
        exact (List.Sublist.refl _).cons _ |>.cons_cons _
      refine ⟨?_, .create, by simp, column.name, rfl, hpair⟩
      rw [hcommands]
      simp

/-- In emulated mode the statements of a plan with a serial column define it, and it is
the commands, implied ones included, that decide about its emulation. -/
theorem emulates_statements_iff (hmode : plan.mode settings = .emulated)
    (hserial : plan.serialColumn? = some column)
    (hstatements : plan.statements settings = .ok statements) :
    ∃ definition : Sql, column.definition .emulated = .ok definition ∧
      (∃ statement ∈ statements,
        DefinesColumn definition (plan.tableName settings) statement) ∧
      (Emulates definition (plan.tableName settings) (plan.generator settings)
          (.ofString column.name) statements ↔
        .createGenerator ∈ plan.allCommands .emulated ∧
          TriggerFollows (.ofString column.name) (plan.allCommands .emulated)) := by
  have hcompiled := statements_eq_ok_iff.mp hstatements
  have hcolumn := List.mem_of_find?_eq_some hserial
  obtain ⟨definer, hdefiner, hmem⟩ :=
    exists_definer (List.ne_nil_of_mem hcolumn) (plan.mode settings)
  obtain ⟨statement, hstatement, hdefining⟩ := exists_of_mem_forall₂ hcompiled hmem
  obtain ⟨definition, hdefinition, hdefines⟩ := hdefining.exists_definesColumn hdefiner hcolumn
  have hiff := emulates_iff_triggerFollows hcompiled hcolumn hdefinition
  rw [hmode] at hdefinition hiff
  exact ⟨definition, hdefinition, ⟨statement, hstatement, hdefines⟩, hiff⟩

end TablePlan

/-- In emulated mode the statements of a plan with a serial column define its first one.  A
plan that creates the table is complete if it leaves the generator to that, and also if it
brings the trigger itself, behind the column.  To a plan that only adds columns nothing
comes by itself: it is complete exactly if it brings the generator and, behind the column,
the trigger. -/
theorem emulation_complete {settings : Settings} {plan : TablePlan} {column : Column}
    {statements : List Statement}
    (hmode : plan.identity.getD settings.identity = .emulated)
    (hserial : plan.columns.find? Column.isSerial = some column)
    (hstatements : plan.statements settings = .ok statements) :
    ∃ definition : Sql, column.definition .emulated = .ok definition ∧
      Form.Opens [.name] definition.text [.name (.ofString column.name)] ∧
      (∃ statement ∈ statements,
        DefinesColumn definition (plan.tableName settings) statement) ∧
      (.create ∈ plan.commands →
        .createGenerator ∉ plan.commands ∨
          TriggerFollows (.ofString column.name) plan.withImpliedAdd →
        Emulates definition (plan.tableName settings) (plan.generator settings)
          (.ofString column.name) statements) ∧
      (.create ∉ plan.commands →
        (Emulates definition (plan.tableName settings) (plan.generator settings)
            (.ofString column.name) statements ↔
          .createGenerator ∈ plan.commands ∧
            TriggerFollows (.ofString column.name) plan.withImpliedAdd)) := by
  obtain ⟨definition, hdefinition, hdefines, hemulates⟩ :=
    TablePlan.emulates_statements_iff hmode hserial hstatements
  have hiff := hemulates.trans (TablePlan.complete_allCommands_iff hserial)
  refine ⟨definition, hdefinition, TablePlan.opens_definition hdefinition, hdefines, ?_, ?_⟩
  · intro hcreate hbrought
    apply hiff.mpr
    by_cases hgenerator : TableCommand.createGenerator ∈ plan.commands
    · exact .inr ⟨hgenerator, hbrought.resolve_left (not_not_intro hgenerator)⟩
    · exact .inl ⟨hgenerator, hcreate⟩
  · intro hcreate
    rw [hiff]
    constructor
    · intro h
      exact h.resolve_left (fun himplied => hcreate himplied.2)
    · intro h
      exact .inr h

/-- A plan that creates a table with two serial columns, and one that adds them and brings
the generator and the trigger for the first along. -/
theorem emulation_complete_of_two_serial_columns :
    let settings : Settings := { tablePrefix := "app_", identity := .native }
    let created : TablePlan :=
      { table := "orders", identity := some .emulated
        columns := [.string "label", .increments "i\"d", .bigIncrements "no"]
        commands := [.drop, .create] }
    let added : TablePlan :=
      { created with commands := [.createGenerator, .add, .generatorTrigger "i\"d"] }
    ∀ plan ∈ [created, added], plan.identity.getD settings.identity = .emulated ∧
      plan.columns.find? Column.isSerial = some (.increments "i\"d") ∧
      ∃ statements definition, plan.statements settings = .ok statements ∧
        (Column.increments "i\"d").definition .emulated = .ok definition ∧
        Emulates definition (plan.tableName settings) (plan.generator settings)
          (.ofString "i\"d") statements := by
  intro settings created added
  have hcreated : ∃ statements, created.statements settings = .ok statements := ⟨_, rfl⟩
  have hadded : ∃ statements, added.statements settings = .ok statements := ⟨_, rfl⟩
  refine List.forall_mem_cons.mpr ⟨?_, List.forall_mem_singleton.mpr ?_⟩
  · obtain ⟨statements, hstatements⟩ := hcreated
    have hmode : created.identity.getD settings.identity = .emulated := rfl
    have hserial : created.columns.find? Column.isSerial = some (.increments "i\"d") := rfl
    obtain ⟨definition, hdefinition, -, -, hcomplete, -⟩ :=
      emulation_complete hmode hserial hstatements
    have hcreate : .create ∈ created.commands := by decide
    have hgenerator : .createGenerator ∉ created.commands := by decide
    exact ⟨hmode, hserial, statements, definition, hstatements, hdefinition,
      hcomplete hcreate (.inl hgenerator)⟩
  · obtain ⟨statements, hstatements⟩ := hadded
    have hmode : added.identity.getD settings.identity = .emulated := rfl
    have hserial : added.columns.find? Column.isSerial = some (.increments "i\"d") := rfl
    obtain ⟨definition, hdefinition, -, -, -, hiff⟩ :=
      emulation_complete hmode hserial hstatements
    have hcreate : .create ∉ added.commands := by decide
    have hgenerator : .createGenerator ∈ added.commands := by decide
    have hfollows : TriggerFollows (.ofString "i\"d") added.withImpliedAdd :=
      ⟨.add, by simp, "i\"d", rfl, by decide⟩
    exact ⟨hmode, hserial, statements, definition, hstatements, hdefinition,
      (hiff hcreate).mpr ⟨hgenerator, hfollows⟩⟩

/-- A plan that adds a serial column gets no trigger for it. -/
theorem emulation_incomplete :
    let settings : Settings := {}
    let plan : TablePlan := { table := "users", columns := [.increments "id"] }
    plan.identity.getD settings.identity = .emulated ∧
      plan.columns.find? Column.isSerial = some (.increments "id") ∧
      ∃ statements definition, plan.statements settings = .ok statements ∧
        (Column.increments "id").definition .emulated = .ok definition ∧
        (∃ statement ∈ statements,
          DefinesColumn definition (plan.tableName settings) statement) ∧
        ¬Emulates definition (plan.tableName settings) (plan.generator settings)
          (.ofString "id") statements := by
  intro settings plan
  have hmode : plan.identity.getD settings.identity = .emulated := rfl
  have hserial : plan.columns.find? Column.isSerial = some (.increments "id") := rfl
  have hcommands : plan.allCommands .emulated = [.add] := by decide
  have hcompiles : ∃ statements, plan.statements settings = .ok statements := ⟨_, rfl⟩
  obtain ⟨statements, hstatements⟩ := hcompiles
  obtain ⟨definition, hdefinition, hdefines, hiff⟩ :=
    TablePlan.emulates_statements_iff hmode hserial hstatements
  refine ⟨hmode, hserial, statements, definition, hstatements, hdefinition, hdefines, ?_⟩
  intro hemulates
  obtain ⟨hgenerator, -⟩ := hiff.mp hemulates
  rw [hcommands] at hgenerator
  exact absurd hgenerator (by decide)

end SchemaDdl
