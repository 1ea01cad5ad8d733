import Mathlib.Data.List.Nodup
import Mathlib.Data.List.ProdSigma
import SchemaDdl.Proofs.Compilation.Forms
import SchemaDdl.Proofs.Identifier.Segments
import SchemaDdl.Proofs.Reading.Unique

/-!
# What a statement shows of its command

On one plan, the statement of a command determines the command, up to what the cut
removes from its names: its kind, the names of its columns, referenced table and columns,
constraint or index, the column that a trigger fills, and its referential actions.  All
this together is the payload of the command (`TableCommand.payload`).

Statements of different kinds open by forms that exclude each other
(`TablePlan.opening_excludes`).  The forms go no further than the fixed words, the table
and the first name behind it, so they also apply where a column passes text of the model
through.  Statements of one kind are compared gap by gap.
-/

namespace SchemaDdl

open Reading
open Sql (Alike EndsColumns)

/-- What the statement of a command shows of it. -/
structure Payload where
  kind : CommandKind
  columns : List Segments := []
  /-- The referenced table, with the prefix. -/
  table : Option Segments := none
  references : List Segments := []
  /-- The name of a constraint or an index: the one given, else the generated one. -/
  name : Option Segments := none
  /-- The column that a trigger fills. -/
  filled : Option Segments := none
  onDelete : Option ReferentialAction := none
  onUpdate : Option ReferentialAction := none
deriving DecidableEq, Repr

/-- The payload of a command on a plan. -/
def TableCommand.payload (settings : Settings) (plan : TablePlan) : TableCommand → Payload
  | primary columns => { kind := .primary, columns := columns.map keptSegments }
  | unique given columns => {
      kind := .unique
      columns := columns.map keptSegments
      name := some (keptSegments (plan.chosenName settings .unique given columns)) }
  | index given columns => {
      kind := .index
      columns := columns.map keptSegments
      name := some (keptSegments (plan.chosenName settings .index given columns)) }
  | foreign key => {
      kind := .foreign
      columns := key.columns.map keptSegments
      table := key.on.map fun table => keptSegments (settings.tablePrefix ++ table)
      references := key.references.map keptSegments
      name := some (keptSegments (plan.chosenName settings .foreign key.name key.columns))
      onDelete := key.onDelete
      onUpdate := key.onUpdate }
  | dropForeign name => { kind := .dropForeign, name := some (keptSegments name) }
  | generatorTrigger column =>
    { kind := .generatorTrigger, filled := some (keptSegments column) }
  | command => { kind := command.kind }

namespace TablePlan

variable {settings : Settings} {plan : TablePlan}

/-! ## Different kinds -/

def commandKinds : List CommandKind :=
  [.create, .drop, .add, .primary, .unique, .index, .foreign, .dropForeign, .createGenerator,
    .dropGenerator, .generatorTrigger]

theorem mem_commandKinds (kind : CommandKind) : kind ∈ commandKinds := by
  cases kind <;> decide

/-- The form that the statements of a kind open by. -/
def opening (creation : String) : CommandKind → Form
  | .create => naming creation
  | .drop => naming "DROP TABLE "
  | .add => additionForm
  | .primary => naming "ALTER TABLE " ++ [.words " ADD PRIMARY KEY ("]
  | .unique => naming "ALTER TABLE " ++ (naming " ADD CONSTRAINT " ++ [.words " UNIQUE ("])
  | .index => naming "CREATE INDEX "
  | .foreign => naming "ALTER TABLE " ++ (naming " ADD CONSTRAINT " ++ [.words " FOREIGN KEY ("])
  | .dropForeign => naming "ALTER TABLE " ++ [.words " DROP CONSTRAINT "]
  | .createGenerator => naming "CREATE SEQUENCE "
  | .dropGenerator => [.words "EXECUTE BLOCK\nAS\nBEGIN\n"]
  | .generatorTrigger => naming "CREATE OR ALTER TRIGGER "

theorem opening_excludes {creation : String} (hcreation : creation ∈ tableCreations)
    {kind kind' : CommandKind} (h : kind ≠ kind') :
    (opening creation kind).Excludes (opening creation kind') := by
  have hexcludes : ∀ creation ∈ tableCreations, ∀ kind ∈ commandKinds,
      ∀ kind' ∈ commandKinds, kind ≠ kind' →
        (opening creation kind).Excludes (opening creation kind') := by decide +kernel
  exact hexcludes creation hcreation kind (mem_commandKinds kind) kind' (mem_commandKinds kind') h

theorem begins_words (words : String) (sql : Sql) :
    Form.Begins [.words words] (Sql.tokens (.plain words :: sql)) := by
  have hread := readWords_bare words.toList (Sql.tokens sql)
  exact ⟨[], Sql.tokens sql, congrArg (Option.bind · (Form.read [])) hread⟩

theorem begins_naming {words : String} {parts : Name} {sql : Sql}
    (hregular : Sql.Regular (.plain words :: .name parts :: sql)) {form : Form}
    (h : form.Begins (Sql.tokens sql)) :
    (naming words ++ form).Begins (Sql.tokens (.plain words :: .name parts :: sql)) := by
  obtain ⟨-, -, hparts, hopen, -⟩ := hregular
  obtain ⟨values, rest, hread⟩ := h
  refine ⟨.name parts :: values, rest, ?_⟩
  rw [read_naming_append hparts hopen, hread]
  rfl

/-- A statement that passes no text of the model through is read as its pieces. -/
theorem Compiled.scan_text {command : TableCommand} {statement : Statement}
    (h : Compiled settings plan command statement) (hpassed : plan.commandVerbatims command = []) :
    scan statement.text.toList = Sql.tokens statement.sql := by
  rw [Statement.text, Sql.toList_text]
  exact h.content.scan_chars (by simp [hpassed])

/-- The statement of a command opens by the form of its kind. -/
theorem Compiled.begins_opening {command : TableCommand} {statement : Statement}
    (h : Compiled settings plan command statement) :
    (opening plan.creationWords command.kind).Begins (scan statement.text.toList) := by
  have hscan := h.scan_text
  have hregular := h.content.regular
  -- Columns may pass text of the model through, where quotes need not be closed: their
  -- statements are read by the opening form only, all others as a whole.
  cases h with
  | create hcolumns hdefinitions => exact ⟨_, opens_creation (.create hcolumns hdefinitions)⟩
  | drop => exact ⟨_, _, reads_removal .drop⟩
  | add hcolumns hdefinitions =>
      obtain ⟨first, hfirst⟩ := opens_addition (.add hcolumns hdefinitions)
      exact ⟨_, hfirst⟩
  | primary hcolumns =>
      rw [hscan rfl]
      exact begins_naming hregular (begins_words _ _)
  | unique hname hcolumns =>
      rw [hscan rfl]
      exact begins_naming hregular (begins_naming hregular.2.2.2.2 (begins_words _ _))
  | index hname hcolumns =>
      rw [hscan rfl]
      exact begins_naming hregular ⟨[], _, rfl⟩
  | foreign hname hcolumns hon htable hreferences =>
      rw [hscan rfl]
      exact begins_naming hregular (begins_naming hregular.2.2.2.2 (begins_words _ _))
  | dropForeign hname =>
      rw [hscan rfl]
      exact begins_naming hregular (begins_words _ _)
  | createGenerator => exact ⟨_, _, reads_generator .createGenerator⟩
  | dropGenerator =>
      rw [hscan rfl]
      exact begins_words _ _
  | generatorTrigger hcolumn =>
      rw [hscan rfl]
      exact begins_naming hregular ⟨[], _, rfl⟩

/-- Statements with the same text come from commands of the same kind. -/
theorem Compiled.kind_eq {command command' : TableCommand} {statement statement' : Statement}
    (h : Compiled settings plan command statement)
    (h' : Compiled settings plan command' statement')
    (htext : statement.text = statement'.text) : command.kind = command'.kind := by
  by_contra hkind
  have hbegins := h'.begins_opening
  rw [← htext] at hbegins
  exact (opening_excludes plan.creationWords_mem hkind).not_begins h.begins_opening hbegins

/-! ## The same kind -/

theorem Compiled.alike {command command' : TableCommand} {statement statement' : Statement}
    (h : Compiled settings plan command statement)
    (h' : Compiled settings plan command' statement')
    (hpassed : plan.commandVerbatims command = [])
    (hpassed' : plan.commandVerbatims command' = [])
    (htext : statement.text = statement'.text) : Alike statement.sql statement'.sql := by
  refine ⟨h.content.regular, h'.content.regular, ?_⟩
  rw [← h.scan_text hpassed, htext, h'.scan_text hpassed']

/-- What can be said about the two events of a foreign key. -/
def actions : List (Option ReferentialAction) :=
  [none, some .noAction, some .cascade, some .setNull, some .setDefault]

theorem mem_actions (action : Option ReferentialAction) : action ∈ actions := by
  rcases action with _ | action
  · decide
  · cases action <;> decide

/-- The two action clauses, either of which may be missing, tell both actions. -/
theorem actionClauses_inj {onDelete onUpdate onDelete' onUpdate' : Option ReferentialAction}
    (h : Sql.tokens (actionClause " ON DELETE " onDelete ++
        actionClause " ON UPDATE " onUpdate) =
      Sql.tokens (actionClause " ON DELETE " onDelete' ++
        actionClause " ON UPDATE " onUpdate')) :
    onDelete = onDelete' ∧ onUpdate = onUpdate' := by
  let clauses : Option ReferentialAction × Option ReferentialAction → List Token := fun pair =>
    Sql.tokens (actionClause " ON DELETE " pair.1 ++ actionClause " ON UPDATE " pair.2)
  have hnodup : ((actions ×ˢ actions).map clauses).Nodup := by decide
  have hmem : ∀ first second, (first, second) ∈ actions ×ˢ actions := fun first second =>
    List.pair_mem_product.mpr ⟨mem_actions first, mem_actions second⟩
  exact Prod.mk.inj (List.inj_on_of_nodup_map hnodup (hmem _ _) (hmem _ _) h)

theorem endsColumns_bracket {words : String} (hwords : words.toList.head? = some ')')
    (sql : Sql) : EndsColumns (Sql.tokens (.plain words :: sql)) := by
  obtain ⟨tail, htail⟩ := List.head?_eq_some_iff.mp hwords
  intro token htoken
  simpa [SqlPiece.tokens, SqlPiece.chars, htail, eq_comm] using htoken

/-- The list of columns that ends a statement is shown. -/
theorem columns_shown {words : String} {columns columns' : List String}
    (h : Alike (.plain words :: (Sql.columnNames columns ++ [.plain ")"]))
      (.plain words :: (Sql.columnNames columns' ++ [.plain ")"]))) :
    columns.map keptSegments = columns'.map keptSegments :=
  Name.map_ofString_eq_iff.mp
    (h.plain.columns (endsColumns_bracket rfl []) (endsColumns_bracket rfl [])).1

section

variable {statement statement' : Statement} (htext : statement.text = statement'.text)
include htext

theorem Compiled.payload_primary {columns columns' : List String}
    (h : Compiled settings plan (.primary columns) statement)
    (h' : Compiled settings plan (.primary columns') statement') :
    TableCommand.payload settings plan (.primary columns) =
      TableCommand.payload settings plan (.primary columns') := by
  have halike := h.alike h' rfl rfl htext
  cases h with
  | primary =>
      cases h' with
      | primary =>
          obtain ⟨-, halike⟩ := halike.naming
          simp only [TableCommand.payload, columns_shown halike]

theorem Compiled.payload_unique {given given' : Option String} {columns columns' : List String}
    (h : Compiled settings plan (.unique given columns) statement)
    (h' : Compiled settings plan (.unique given' columns') statement') :
    TableCommand.payload settings plan (.unique given columns) =
      TableCommand.payload settings plan (.unique given' columns') := by
  have halike := h.alike h' rfl rfl htext
  cases h with
  | unique =>
      cases h' with
      | unique =>
          obtain ⟨-, halike⟩ := halike.naming
          obtain ⟨hname, halike⟩ := halike.naming
          simp only [TableCommand.payload, Name.ofString_eq_iff.mp hname, columns_shown halike]

theorem Compiled.payload_index {given given' : Option String} {columns columns' : List String}
    (h : Compiled settings plan (.index given columns) statement)
    (h' : Compiled settings plan (.index given' columns') statement') :
    TableCommand.payload settings plan (.index given columns) =
      TableCommand.payload settings plan (.index given' columns') := by
  have halike := h.alike h' rfl rfl htext
  cases h with
  | index =>
      cases h' with
      | index =>
          obtain ⟨hname, halike⟩ := halike.naming
          obtain ⟨-, halike⟩ := halike.naming
          simp only [TableCommand.payload, Name.ofString_eq_iff.mp hname, columns_shown halike]

theorem Compiled.payload_foreign {key key' : ForeignKey}
    (h : Compiled settings plan (.foreign key) statement)
    (h' : Compiled settings plan (.foreign key') statement') :
    TableCommand.payload settings plan (.foreign key) =
      TableCommand.payload settings plan (.foreign key') := by
  have halike := h.alike h' rfl rfl htext
  cases h with
  | foreign _ _ hon =>
      cases h' with
      | foreign _ _ hon' =>
          obtain ⟨-, halike⟩ := halike.naming
          obtain ⟨hname, halike⟩ := halike.naming
          obtain ⟨hcolumns, halike⟩ :=
            halike.plain.columns (endsColumns_bracket rfl _) (endsColumns_bracket rfl _)
          obtain ⟨htable, halike⟩ := halike.naming
          obtain ⟨hreferences, halike⟩ :=
            halike.plain.columns (endsColumns_bracket rfl _) (endsColumns_bracket rfl _)
          obtain ⟨hdelete, hupdate⟩ := actionClauses_inj halike.plain.tokens_eq
          have hsegments := Name.ofString_eq_iff.mp htable
          rw [Settings.prefixed, Settings.prefixed] at hsegments
          simp only [TableCommand.payload, hon, hon', Option.map_some,
            Name.ofString_eq_iff.mp hname, hsegments,
            Name.map_ofString_eq_iff.mp hcolumns, Name.map_ofString_eq_iff.mp hreferences,
            hdelete, hupdate]

theorem Compiled.payload_dropForeign {name name' : String}
    (h : Compiled settings plan (.dropForeign name) statement)
    (h' : Compiled settings plan (.dropForeign name') statement') :
    TableCommand.payload settings plan (.dropForeign name) =
      TableCommand.payload settings plan (.dropForeign name') := by
  have halike := h.alike h' rfl rfl htext
  cases h with
  | dropForeign =>
      cases h' with
      | dropForeign =>
          obtain ⟨-, halike⟩ := halike.naming
          simp only [TableCommand.payload, Name.ofString_eq_iff.mp halike.naming.1]

theorem Compiled.payload_generatorTrigger {column column' : String}
    (h : Compiled settings plan (.generatorTrigger column) statement)
    (h' : Compiled settings plan (.generatorTrigger column') statement') :
    TableCommand.payload settings plan (.generatorTrigger column) =
      TableCommand.payload settings plan (.generatorTrigger column') := by
  have halike := h.alike h' rfl rfl htext
  cases h with
  | generatorTrigger =>
      cases h' with
      | generatorTrigger =>
          obtain ⟨-, halike⟩ := halike.naming
          obtain ⟨-, halike⟩ := halike.naming
          simp only [TableCommand.payload, Name.ofString_eq_iff.mp halike.naming.1]

/-- Commands whose statements have the same text have the same payload. -/
theorem Compiled.payload_eq {command command' : TableCommand}
    (h : Compiled settings plan command statement)
    (h' : Compiled settings plan command' statement') :
    command.payload settings plan = command'.payload settings plan := by
  have hkind := h.kind_eq h' htext
  cases command with
  | primary columns =>
      cases command' with
      | primary columns' => exact h.payload_primary htext h'
      | _ => cases hkind
  | unique given columns =>
      cases command' with
      | unique given' columns' => exact h.payload_unique htext h'
      | _ => cases hkind
  | index given columns =>
      cases command' with
      | index given' columns' => exact h.payload_index htext h'
      | _ => cases hkind
  | foreign key =>
      cases command' with
      | foreign key' => exact h.payload_foreign htext h'
      | _ => cases hkind
  | dropForeign name =>
      cases command' with
      | dropForeign name' => exact h.payload_dropForeign htext h'
      | _ => cases hkind
  | generatorTrigger column =>
      cases command' with
      | generatorTrigger column' => exact h.payload_generatorTrigger htext h'
      | _ => cases hkind
  | create | drop | add | createGenerator | dropGenerator =>
      cases command' <;> first | rfl | cases hkind

end

/-! ## The same payload -/

theorem columnNames_eq_of_shown {columns columns' : List String}
    (h : columns.map keptSegments = columns'.map keptSegments) :
    Sql.columnNames columns = Sql.columnNames columns' :=
  Sql.columnNames_congr (Name.map_ofString_eq_iff.mpr h)

theorem shown_eq_of_some {text text' : String}
    (h : some (keptSegments text) = some (keptSegments text')) :
    Name.ofString text = Name.ofString text' :=
  Name.ofString_eq_iff.mpr (Option.some.inj h)

/-- Commands with the same payload have the same statement. -/
theorem Compiled.eq_of_payload_eq {command command' : TableCommand}
    {statement statement' : Statement} (h : Compiled settings plan command statement)
    (h' : Compiled settings plan command' statement')
    (hpayload : command.payload settings plan = command'.payload settings plan) :
    statement = statement' := by
  have hkind := congrArg Payload.kind hpayload
  have hcolumns := congrArg Payload.columns hpayload
  have hname := congrArg Payload.name hpayload
  cases h with
  | create hcolumns hdefinitions =>
      cases h' with
      | create hcolumns' hdefinitions' =>
          rw [Except.ok.inj (hdefinitions.symm.trans hdefinitions')]
      | _ => cases hkind
  | add hcolumns hdefinitions =>
      cases h' with
      | add hcolumns' hdefinitions' =>
          rw [Except.ok.inj (hdefinitions.symm.trans hdefinitions')]
      | _ => cases hkind
  | drop | createGenerator | dropGenerator => cases h' <;> first | rfl | cases hkind
  | primary =>
      cases h' with
      | primary => rw [columnNames_eq_of_shown hcolumns]
      | _ => cases hkind
  | unique =>
      cases h' with
      | unique => rw [columnNames_eq_of_shown hcolumns, shown_eq_of_some hname]
      | _ => cases hkind
  | index =>
      cases h' with
      | index => rw [columnNames_eq_of_shown hcolumns, shown_eq_of_some hname]
      | _ => cases hkind
  | @foreign key table _ _ hon =>
      cases h' with
      | @foreign key' table' _ _ hon' =>
          have htable : some (keptSegments (settings.tablePrefix ++ table)) =
              some (keptSegments (settings.tablePrefix ++ table')) := by
            simpa [TableCommand.payload, hon, hon'] using congrArg Payload.table hpayload
          have hreferences := congrArg Payload.references hpayload
          have hdelete : key.onDelete = key'.onDelete := congrArg Payload.onDelete hpayload
          have hupdate : key.onUpdate = key'.onUpdate := congrArg Payload.onUpdate hpayload
          rw [columnNames_eq_of_shown hcolumns, columnNames_eq_of_shown hreferences,
            shown_eq_of_some hname, Settings.qualified, Settings.qualified, Settings.prefixed,
            Settings.prefixed, shown_eq_of_some htable, hdelete, hupdate]
      | _ => cases hkind
  | dropForeign =>
      cases h' with
      | dropForeign => rw [shown_eq_of_some hname]
      | _ => cases hkind
  | generatorTrigger =>
      cases h' with
      | generatorTrigger => rw [shown_eq_of_some (congrArg Payload.filled hpayload)]
      | _ => cases hkind

/-- Compiled SQL determines the command: two commands compile to the same text exactly if
they have the same payload. -/
theorem text_eq_iff_payload_eq {command command' : TableCommand}
    {statement statement' : Statement} (h : plan.compile settings command = .ok statement)
    (h' : plan.compile settings command' = .ok statement') :
    statement.text = statement'.text ↔
      command.payload settings plan = command'.payload settings plan := by
  have hcompiled := compile_eq_ok_iff.mp h
  have hcompiled' := compile_eq_ok_iff.mp h'
  constructor
  · intro htext
    exact hcompiled.payload_eq htext hcompiled'
  · intro hpayload
    exact congrArg Statement.text (hcompiled.eq_of_payload_eq hcompiled' hpayload)

/-- Two constraints whose names differ behind the cut, on a dotted column and a star. -/
theorem text_eq_of_long_names :
    let settings : Settings := { tablePrefix := "app_" }
    let plan : TablePlan := { table := "orders" }
    let command (name : String) : TableCommand := .unique (some name) ["shop.customer", "*"]
    ∃ statement statement' : Statement,
      plan.compile settings (command "one_order_per_customer_and_shop_1") = .ok statement ∧
      plan.compile settings (command "one_order_per_customer_and_shop_2") = .ok statement' ∧
      statement.text = statement'.text := by
  intro settings plan command
  have hpayload : (command "one_order_per_customer_and_shop_1").payload settings plan =
      (command "one_order_per_customer_and_shop_2").payload settings plan := by decide +kernel
  have hfirst : plan.compile settings (command "one_order_per_customer_and_shop_1") = .ok _ := rfl
  have hsecond : plan.compile settings (command "one_order_per_customer_and_shop_2") = .ok _ := rfl
  exact ⟨_, _, hfirst, hsecond, (text_eq_iff_payload_eq hfirst hsecond).mpr hpayload⟩

end TablePlan

end SchemaDdl
