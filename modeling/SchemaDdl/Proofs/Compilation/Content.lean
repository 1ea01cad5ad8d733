import SchemaDdl.Proofs.Compilation.Success
import SchemaDdl.Proofs.Reading.Content

/-!
# The content of compiled statements

For every command the texts of the model, the names and the executed literals of
its statement, as functions of the plan.  `TablePlan.Compiled.content` and
`SequencePlan.content_compileNamed` prove them right, and with them that every
statement is regular, whatever the plan holds.
-/

namespace SchemaDdl

open Sql (Content OpensPlain opensPlain_append)

theorem flatten_filterMap {α β : Type} (f : α → Option (List β)) (items : List α) :
    (items.filterMap f).flatten = items.flatMap fun item => (f item).getD [] := by
  induction items with
  | nil => rfl
  | cons item items ih => cases h : f item <;> simp [h, ih]

/-- A statement that names one object and says no more. -/
theorem content_naming {words : String} (hwords : Keywords words) {parts : Name}
    (hparts : parts ≠ []) : Content [] [parts] [] [.plain words, .name parts] :=
  .keywords hwords (.name hparts trivial .nil)

/-! ## Columns -/

/-- The expression of a default, which is passed through. -/
def DefaultValue.expression? : DefaultValue → Option String
  | expression sql => some sql
  | _ => none

namespace Column

/-- The texts of the model that the definition of a column passes through. -/
def verbatims (column : Column) : List String :=
  column.charset.toList ++ column.collation.toList ++
    (column.defaultValue.bind DefaultValue.expression?).toList

/-- How often the definition of a column names it: an enumeration does so again
in its check. -/
def mentions (column : Column) : List String :=
  match column.type with
  | .enumeration _ => [column.name, column.name]
  | _ => [column.name]

theorem content_sized {type : String} (htype : Keywords type) (length : Nat) :
    Content [] [] [] (sized type length) :=
  .keywords htype (.keywords (by decide) (.value trivial rfl (.keywords (by decide) .nil)))

theorem content_scaled {type : String} (htype : Keywords type) (total places : Nat) :
    Content [] [] [] (scaled type total places) :=
  .keywords htype (.keywords (by decide) (.value trivial rfl (.keywords (by decide)
    (.value trivial rfl (.keywords (by decide) .nil)))))

theorem content_checked (name : String) (allowed : List String) :
    Content [] [.ofString name] [] (checked name allowed) := by
  have hvalue : List.Forall₂ (fun _ part => Content [] [] [] part) allowed
      (allowed.map fun value => [.literal value]) := by
    rw [List.forall₂_map_right_iff, List.forall₂_same]
    intro value _
    exact .value trivial trivial .nil
  have hcomma : Keywords ", " := by decide
  have hvalues := Content.separated hcomma hvalue
  rw [flatMap_nil, flatMap_nil, flatMap_nil] at hvalues
  have hclosed := hvalues.append (.keywords (by decide : Keywords "))") .nil) rfl
  have hcheck : Content [] [.ofString name] [] (.plain " CHECK (" ::
      .name (.ofString name) :: .plain " IN (" :: _) :=
    .keywords (by decide) (.named name (by decide) hclosed)
  have hsized : Content [] [] [] (sized "VARCHAR" 255) := content_sized (by decide) 255
  simpa [checked] using hsized.append hcheck rfl

theorem mentions_of_ne_enumeration {column : Column}
    (h : ∀ allowed, column.type ≠ .enumeration allowed) : column.mentions = [column.name] := by
  unfold mentions
  split
  · next allowed htype => exact absurd htype (h allowed)
  · rfl

/-- A type without a check holds no name. -/
theorem TypeForm.content {column : Column} {clauses : List Modifier} {type : Sql}
    (h : column.TypeForm clauses type) (hunchecked : ∀ allowed, column.type ≠ .enumeration allowed) :
    Content [] [] [] type ∧ OpensPlain type := by
  cases h with
  | bare hwords =>
      have hbare : ∀ words ∈ bareTypeWords, Keywords words := by decide
      have hkeywords := hbare _ hwords
      exact ⟨.keywords hkeywords .nil, Sql.opensPlain_cons hkeywords _⟩
  | sized hwords length =>
      have hsized : ∀ words ∈ ["CHAR", "VARCHAR"], Keywords words := by decide
      have hkeywords := hsized _ hwords
      exact ⟨content_sized hkeywords length, Sql.opensPlain_cons hkeywords _⟩
  | scaled hwords total places =>
      have hscaled : ∀ words ∈ ["DECIMAL", "NUMERIC"], Keywords words := by decide
      have hkeywords := hscaled _ hwords
      exact ⟨content_scaled hkeywords total places, Sql.opensPlain_cons hkeywords _⟩
  | checked htype => exact absurd htype (hunchecked _)
  | octets =>
      have hoctets : Keywords " CHARACTER SET OCTETS" := by decide
      exact ⟨(content_sized (by decide) 8191).append (.keywords hoctets .nil) rfl, rfl⟩
  | current => exact ⟨.keywords (by decide) (.keywords (by decide) .nil), rfl⟩

/-- The type of a column holds its name only in a check. -/
theorem content_typeSql {column : Column} {type : Sql} (h : column.typeSql = .ok type) :
    Content [] (column.mentions.tail.map .ofString) [] type ∧ OpensPlain type := by
  by_cases hchecked : ∃ allowed, column.type = .enumeration allowed
  · obtain ⟨allowed, htype⟩ := hchecked
    have hmentions : column.mentions = [column.name, column.name] := by
      rw [mentions, htype]
    rw [typeSql, htype] at h
    cases allowed with
    | nil => exact absurd h (by simp)
    | cons value allowed =>
        obtain rfl := Except.ok.inj h
        rw [hmentions]
        exact ⟨content_checked column.name (value :: allowed), rfl⟩
  · have hunchecked := not_exists.mp hchecked
    rw [mentions_of_ne_enumeration hunchecked]
    exact (typeForm_of_typeSql h).content hunchecked

/-! ## Modifiers -/

/-- The texts of the model that a modifier passes through. -/
def Modifier.verbatims (column : Column) : Modifier → List String
  | charset => column.charset.toList
  | collate => column.collation.toList
  | default => (column.defaultValue.bind DefaultValue.expression?).toList
  | increment | nullable => []

theorem content_passed {words : String} (hwords : Keywords words)
    (passed : Option String) :
    let clause := (passed.map fun text => [.plain words, .verbatim text]).getD []
    Content passed.toList [] [] clause ∧ OpensPlain clause := by
  cases passed with
  | none => exact ⟨.nil, trivial⟩
  | some text =>
      exact ⟨.keywords hwords (.verbatim text trivial .nil), Sql.opensPlain_cons hwords _⟩

theorem content_default (value : DefaultValue) :
    Content value.expression?.toList [] [] (.plain " DEFAULT " :: value.sql) := by
  refine .keywords (by decide) ?_
  cases value with
  | expression sql => exact .verbatim sql trivial .nil
  | _ => exact .value trivial trivial .nil

theorem content_modifier (mode : IdentityMode) (column : Column) (modifier : Modifier) :
    Content (modifier.verbatims column) [] [] ((modifier.sql? mode column).getD []) ∧
      OpensPlain ((modifier.sql? mode column).getD []) := by
  cases modifier with
  | charset => exact content_passed (by decide) column.charset
  | collate => exact content_passed (by decide) column.collation
  | increment =>
      cases hserial : column.isSerial with
      | false =>
          have hclause : Modifier.increment.sql? mode column = none := by
            simp [Modifier.sql?, hserial]
          rw [hclause]
          exact ⟨.nil, trivial⟩
      | true =>
          cases mode <;>
            simp only [Modifier.sql?, hserial, if_true, Option.getD_some] <;>
            exact ⟨.keywords (by decide) .nil, rfl⟩
  | nullable =>
      cases hnullable : column.nullable with
      | false =>
          have hclause : Modifier.nullable.sql? mode column = some [.plain " NOT NULL"] := by
            simp [Modifier.sql?, hnullable]
          rw [hclause]
          exact ⟨.keywords (by decide) .nil, rfl⟩
      | true =>
          have hclause : Modifier.nullable.sql? mode column = none := by
            simp [Modifier.sql?, hnullable]
          rw [hclause]
          exact ⟨.nil, trivial⟩
  | default =>
      cases hdefault : column.defaultValue with
      | none => simpa [Modifier.sql?, Modifier.verbatims, hdefault] using ⟨Content.nil, trivial⟩
      | some value =>
          have hclause : Modifier.default.sql? mode column =
              some (.plain " DEFAULT " :: value.sql) := by
            simp [Modifier.sql?, hdefault]
          rw [hclause, Modifier.verbatims, hdefault]
          exact ⟨content_default value, rfl⟩

theorem content_modifiers (mode : IdentityMode) (column : Column) :
    Content column.verbatims [] [] (column.modifiers mode) ∧
      OpensPlain (column.modifiers mode) := by
  have hclause := fun modifier => (content_modifier mode column modifier).1
  have hopen := fun modifier => (content_modifier mode column modifier).2
  have hclauses := Content.flatMap hopen hclause Modifier.inOrder
  rw [← flatten_filterMap] at hclauses
  simpa [modifiers, Modifier.inOrder, Modifier.verbatims, verbatims] using hclauses

theorem content_definition {mode : IdentityMode} {column : Column} {sql : Sql}
    (h : column.definition mode = .ok sql) :
    Content column.verbatims (column.mentions.map .ofString) [] sql := by
  obtain ⟨-, type, htype, rfl⟩ := definition_eq_ok_iff.mp h
  obtain ⟨htype, htypeOpen⟩ := content_typeSql htype
  obtain ⟨hmodifiers, hmodifiersOpen⟩ := content_modifiers mode column
  have hbody := htype.append hmodifiers hmodifiersOpen
  have hopen := opensPlain_append htypeOpen hmodifiersOpen
  have hblank : OpensPlain (.plain " " :: (type ++ column.modifiers mode)) := rfl
  have hnamed := Content.name (Name.ofString_ne_nil column.name) hblank (hbody.blank hopen)
  have hmentions : column.mentions = column.name :: column.mentions.tail := by
    unfold mentions
    split <;> rfl
  rw [hmentions]
  simpa using hnamed

end Column

/-! ## Guarded drops -/

theorem GuardedDrop.content_sql (drop : GuardedDrop) :
    Content [] [] [drop.statement] drop.sql := by
  obtain ⟨object, catalogName, statement⟩ := drop
  refine ⟨?_, ?_, ?_, ?_⟩ <;> cases object <;>
    simp +decide [GuardedDrop.sql, CatalogObject.selection, CatalogObject.listing,
      CatalogObject.nameColumn, Sql.Regular, Sql.OpensPlain, Sql.executed]

theorem GuardedDrop.content_block (drops : List GuardedDrop) :
    Content [] [] (drops.map GuardedDrop.statement) (GuardedDrop.block drops).sql := by
  have hdrop : List.Forall₂
      (fun drop part => Content [] [] [drop.statement] part) drops
      (drops.map GuardedDrop.sql) := by
    rw [List.forall₂_map_right_iff, List.forall₂_same]
    intro drop _
    exact drop.content_sql
  have hnewline : Keywords "\n" := by decide
  have hdrops := Content.separated hnewline hdrop
  rw [flatMap_nil, flatMap_nil, ← List.map_eq_flatMap] at hdrops
  have hend : Keywords "\nEND" := by decide
  have hclosed := hdrops.append (.keywords hend .nil) rfl
  have hblock := Content.keywords (by decide : Keywords "EXECUTE BLOCK\nAS\nBEGIN\n") hclosed
  simpa [GuardedDrop.block, Statement.sql] using hblock

/-! ## Table commands -/

namespace TablePlan

variable {settings : Settings} {plan : TablePlan}

/-- The words that the statement of a command opens with. -/
def openingWords (plan : TablePlan) : TableCommand → String
  | .create => plan.creationWords
  | .drop => "DROP TABLE "
  | .add | .primary _ | .unique .. | .foreign _ | .dropForeign _ => "ALTER TABLE "
  | .index .. => "CREATE INDEX "
  | .createGenerator => "CREATE SEQUENCE "
  | .dropGenerator => "EXECUTE BLOCK\nAS\nBEGIN\n"
  | .generatorTrigger _ => "CREATE OR ALTER TRIGGER "

theorem Compiled.opens {command : TableCommand} {statement : Statement}
    (h : Compiled settings plan command statement) :
    ∃ sql, statement.sql = .plain (plan.openingWords command) :: sql := by
  cases h <;> exact ⟨_, rfl⟩

/-- The drops in the block that removes the generator of the table. -/
def guardedDrops (settings : Settings) (plan : TablePlan) : List GuardedDrop :=
  [⟨.trigger, settings.triggerName plan.table, dropTrigger (settings.triggerName plan.table)⟩,
    ⟨.generator, settings.generatorName plan.table, dropSequence (plan.generator settings)⟩]

theorem dropGenerator_eq :
    plan.dropGenerator settings = GuardedDrop.block (plan.guardedDrops settings) := rfl

/-- The texts of the model that the statements of a plan may pass through. -/
def verbatims (plan : TablePlan) : List String := plan.columns.flatMap Column.verbatims

/-- The texts of the model in the statement of a command. -/
def commandVerbatims (plan : TablePlan) : TableCommand → List String
  | .create | .add => plan.verbatims
  | _ => []

theorem mem_verbatims_of_command {command : TableCommand} {text : String}
    (h : text ∈ plan.commandVerbatims command) : text ∈ plan.verbatims := by
  cases command with
  | create | add => exact h
  | _ => exact absurd h List.not_mem_nil

/-- The names in the statement of a command, in order. -/
def commandNames (settings : Settings) (plan : TablePlan) : TableCommand → List Name
  | .create | .add =>
    plan.tableName settings :: (plan.columns.flatMap Column.mentions).map .ofString
  | .drop => [plan.tableName settings]
  | .primary columns => plan.tableName settings :: columns.map .ofString
  | .unique given columns =>
    plan.tableName settings ::
      (plan.chosenName settings .unique given columns :: columns).map .ofString
  | .index given columns =>
    .ofString (plan.chosenName settings .index given columns) ::
      plan.tableName settings :: columns.map .ofString
  | .foreign key =>
    plan.tableName settings ::
      .ofString (plan.chosenName settings .foreign key.name key.columns) ::
      (key.columns.map .ofString ++ key.on.toList.map settings.qualified ++
        key.references.map .ofString)
  | .dropForeign name => [plan.tableName settings, .ofString name]
  | .createGenerator => [plan.generator settings]
  | .dropGenerator => []
  | .generatorTrigger column =>
    [plan.trigger settings, plan.tableName settings, .ofString column, .ofString column,
      plan.generator settings]

/-- The statements that the statement of a command hands to the engine. -/
def commandExecuted (settings : Settings) (plan : TablePlan) : TableCommand → List Sql
  | .dropGenerator =>
    [dropTrigger (settings.triggerName plan.table), dropSequence (plan.generator settings)]
  | _ => []

theorem content_columnList (columns : List String) :
    Content [] (columns.map .ofString) [] (Sql.columnNames columns ++ [.plain ")"]) := by
  have hclose : Keywords ")" := by decide
  have hlist := (Sql.content_columnNames columns).append (.keywords hclose .nil) rfl
  simpa using hlist

theorem content_definitions {separator : String} (hseparator : Keywords separator)
    {clause : Sql → Sql}
    (hclause : ∀ {verbatims names executed sql}, Content verbatims names executed sql →
      Content verbatims names executed (clause sql))
    {definitions : List Sql} (h : plan.definitions settings = .ok definitions) :
    Content plan.verbatims ((plan.columns.flatMap Column.mentions).map .ofString) []
      (Sql.separated separator (definitions.map clause)) := by
  have hdefinitions : List.Forall₂ (fun column part =>
      Content column.verbatims (column.mentions.map .ofString) [] part)
      plan.columns (definitions.map clause) := by
    rw [List.forall₂_map_right_iff]
    refine (definitions_eq_ok_iff.mp h).imp ?_
    intro column sql hsql
    exact hclause (Column.content_definition hsql)
  have hlist := Content.separated hseparator hdefinitions
  rwa [flatMap_nil, ← List.map_flatMap] at hlist

theorem content_commitClause (plan : TablePlan) :
    Content [] [] [] plan.commitClause ∧ OpensPlain plan.commitClause := by
  cases htemporary : plan.temporary with
  | false => simpa [commitClause, htemporary] using ⟨Content.nil, trivial⟩
  | true =>
      cases hpreserve : plan.preserve <;>
        simp only [commitClause, htemporary, hpreserve, if_true] <;>
        exact ⟨.keywords (by decide) .nil, rfl⟩

theorem content_actionClause {event : String} (hevent : Keywords event)
    (action : Option ReferentialAction) :
    Content [] [] [] (actionClause event action) ∧ OpensPlain (actionClause event action) := by
  cases action with
  | none => exact ⟨.nil, trivial⟩
  | some action =>
      have haction : Keywords action.text := by cases action <;> decide
      exact ⟨.keywords hevent (.keywords haction .nil), Sql.opensPlain_cons hevent _⟩

/-- Every compiled statement is regular and holds what its command tells. -/
theorem Compiled.content {command : TableCommand} {statement : Statement}
    (h : Compiled settings plan command statement) :
    Content (plan.commandVerbatims command) (plan.commandNames settings command)
      (plan.commandExecuted settings command) statement.sql := by
  cases h with
  | @create definitions hcolumns hdefinitions =>
      obtain ⟨hcommit, hcommitOpen⟩ := plan.content_commitClause
      have hcomma : Keywords ", " := by decide
      have hlist := content_definitions hcomma (fun h => h) hdefinitions
      have hclose : Keywords ")" := by decide
      have hbody := hlist.append (.keywords hclose hcommit) (Sql.opensPlain_cons hclose _)
      have hwords : Keywords plan.creationWords := by
        unfold creationWords
        split <;> decide
      rw [List.map_id', List.append_nil, List.append_nil] at hbody
      exact .keywords hwords (.named _ (by decide) hbody)
  | drop => exact content_naming (by decide) (Name.ofString_ne_nil _)
  | @add definitions hcolumns hdefinitions =>
      have hcomma : Keywords ", " := by decide
      have hadd : Keywords "ADD " := by decide
      have hlist := content_definitions hcomma (.keywords hadd) hdefinitions
      have hopen : OpensPlain
          (Sql.separated ", " (definitions.map (.plain "ADD " :: ·))) := by
        match definitions with
        | [] => trivial
        | [_] => simp only [List.map_cons, List.map_nil, Sql.separated_singleton]; rfl
        | _ :: _ :: _ => simp only [List.map_cons, Sql.separated_cons_cons]; rfl
      exact .keywords (by decide)
        (.name (Name.ofString_ne_nil _) rfl (.blank hopen hlist))
  | @primary columns hcolumns =>
      exact .keywords (by decide) (.named _ (by decide) (content_columnList columns))
  | @unique given columns hname hcolumns =>
      exact .keywords (by decide) (.named _ (by decide) (.named _ (by decide)
        (content_columnList columns)))
  | @index given columns hname hcolumns =>
      exact .keywords (by decide) (.named _ (by decide) (.named _ (by decide)
        (content_columnList columns)))
  | @foreign key table hname hcolumns hon htable hreferences =>
      obtain ⟨hdelete, -⟩ :=
        content_actionClause (by decide : Keywords " ON DELETE ") key.onDelete
      obtain ⟨hupdate, hupdateOpen⟩ :=
        content_actionClause (by decide : Keywords " ON UPDATE ") key.onUpdate
      have hactions := hdelete.append hupdate hupdateOpen
      have hclose : Keywords ")" := by decide
      have hreferences := (Sql.content_columnNames key.references).append
        (.keywords hclose hactions) (Sql.opensPlain_cons hclose _)
      have hreferenced : Content [] (settings.qualified table :: key.references.map .ofString) []
          (.plain ") REFERENCES " :: .name (settings.qualified table) :: .plain " (" ::
            (Sql.columnNames key.references ++ .plain ")" ::
              (actionClause " ON DELETE " key.onDelete ++
                actionClause " ON UPDATE " key.onUpdate))) := by
        refine .keywords (by decide) (.named _ (by decide) ?_)
        simpa using hreferences
      have hlist := (Sql.content_columnNames key.columns).append hreferenced rfl
      have hnames : plan.commandNames settings (.foreign key) =
          plan.tableName settings ::
            .ofString (plan.chosenName settings .foreign key.name key.columns) ::
            (key.columns.map .ofString ++
              settings.qualified table :: key.references.map .ofString) := by
        simp [commandNames, hon]
      rw [hnames]
      exact .keywords (by decide) (.named _ (by decide) (.named _ (by decide) hlist))
  | @dropForeign name hname =>
      exact .keywords (by decide) (.named _ (by decide)
        (.name (Name.ofString_ne_nil name) trivial .nil))
  | createGenerator => exact content_naming (by decide) (Name.ofString_ne_nil _)
  | dropGenerator => exact GuardedDrop.content_block (plan.guardedDrops settings)
  | @generatorTrigger column hcolumn =>
      exact .keywords (by decide) (.named _ (by decide) (.named _ (by decide)
        (.named column (by decide) (.named column (by decide) (.named _ (by decide) .nil)))))

end TablePlan

/-! ## Sequence commands -/

namespace SequencePlan

variable (settings : Settings) (plan : SequencePlan)

/-- The words that the statement of a command opens with. -/
def openingWords : SequenceCommand → String
  | .create => "CREATE SEQUENCE "
  | .alter => "ALTER SEQUENCE "
  | .drop => "DROP SEQUENCE "
  | .dropIfExists => "EXECUTE BLOCK\nAS\nBEGIN\n"

theorem compileNamed_opens (command : SequenceCommand) :
    ∃ sql, (plan.compileNamed settings command).sql = .plain (openingWords command) :: sql := by
  cases command <;> exact ⟨_, rfl⟩

/-- The drop in the block that removes the sequence as far as it exists. -/
def guardedDrop : GuardedDrop :=
  ⟨.generator, settings.catalogName plan.sequence, plan.dropStatement settings⟩

/-- The names in the statement of a command. -/
def commandNames : SequenceCommand → List Name
  | .create | .alter | .drop => [plan.name settings]
  | .dropIfExists => []

/-- The statements that the statement of a command hands to the engine. -/
def commandExecuted : SequenceCommand → List Sql
  | .create | .alter | .drop => []
  | .dropIfExists => [plan.dropStatement settings]

theorem content_startClause :
    Content [] [] [] plan.startClause ∧ OpensPlain plan.startClause := by
  unfold startClause
  split
  · split
    · exact ⟨.nil, trivial⟩
    · exact ⟨.keywords (by decide) (.value trivial trivial .nil), rfl⟩
  · exact ⟨.nil, trivial⟩

theorem content_incrementClause :
    Content [] [] [] plan.incrementClause ∧ OpensPlain plan.incrementClause := by
  unfold incrementClause
  split
  · exact ⟨.nil, trivial⟩
  · exact ⟨.keywords (by decide) (.value trivial trivial .nil), rfl⟩

theorem content_restartClause :
    Content [] [] [] plan.restartClause ∧ OpensPlain plan.restartClause := by
  unfold restartClause
  split
  · split
    · have hvalue : ∀ start : Int, Content [] [] [] [.integer start] :=
        fun _ => .value trivial trivial .nil
      exact ⟨.keywords (by decide) (.keywords (by decide) (hvalue _)), rfl⟩
    · exact ⟨.keywords (by decide) .nil, rfl⟩
  · exact ⟨.nil, trivial⟩

/-- Every statement of a sequence command is regular and holds what it tells. -/
theorem content_compileNamed (command : SequenceCommand) :
    Content [] (plan.commandNames settings command)
      (plan.commandExecuted settings command)
      (plan.compileNamed settings command).sql := by
  obtain ⟨hincrement, hincrementOpen⟩ := plan.content_incrementClause
  have hname : plan.name settings ≠ [] := Name.ofString_ne_nil _
  cases command with
  | create =>
      obtain ⟨hstart, hstartOpen⟩ := plan.content_startClause
      have hopen := opensPlain_append hstartOpen hincrementOpen
      have hclauses := hstart.append hincrement hincrementOpen
      have hcreate := Content.keywords (by decide : Keywords "CREATE SEQUENCE ")
        (.name hname hopen hclauses)
      simpa [compileNamed, Statement.sql, commandNames, commandExecuted] using hcreate
  | alter =>
      obtain ⟨hrestart, hrestartOpen⟩ := plan.content_restartClause
      have hopen := opensPlain_append hrestartOpen hincrementOpen
      have hclauses := hrestart.append hincrement hincrementOpen
      have halter := Content.keywords (by decide : Keywords "ALTER SEQUENCE ")
        (.name hname hopen hclauses)
      simpa [compileNamed, Statement.sql, commandNames, commandExecuted] using halter
  | drop => exact content_naming (by decide) hname
  | dropIfExists => exact GuardedDrop.content_block [plan.guardedDrop settings]

end SequencePlan

end SchemaDdl
