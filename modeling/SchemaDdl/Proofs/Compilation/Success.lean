import Mathlib.Data.List.Forall2
import SchemaDdl.Sequence.Ddl

/-!
# What commands compile to

The compiler of table commands as a relation: `TablePlan.Compiled` has one case
for each command, with the conditions under which the command compiles and the
statement that it compiles to.  The compiler succeeds exactly along this relation
(`TablePlan.compile_eq_ok_iff`), so a fact about all compiled statements is
proved by cases on it, without a look into the compiler.
-/

namespace SchemaDdl

/-! ## Computations that may fail -/

@[simp]
theorem ok_bind {ε α β : Type} (a : α) (f : α → Except ε β) :
    (Except.ok a >>= f) = f a := rfl

theorem bind_eq_ok_iff {ε α β : Type} {x : Except ε α} {f : α → Except ε β} {b : β} :
    (x >>= f) = .ok b ↔ ∃ a, x = .ok a ∧ f a = .ok b := by
  cases x <;> simp [bind, Except.bind]

theorem map_eq_ok_iff {ε α β : Type} {x : Except ε α} {f : α → β} {b : β} :
    (f <$> x) = .ok b ↔ ∃ a, x = .ok a ∧ f a = b := by
  cases x <;> simp [Functor.map, Except.map]

theorem bind_eq_error_iff {ε α β : Type} {x : Except ε α} {f : α → Except ε β} {error : ε} :
    (x >>= f) = .error error ↔ x = .error error ∨ ∃ a, x = .ok a ∧ f a = .error error := by
  cases x <;> simp [bind, Except.bind]

theorem map_eq_error_iff {ε α β : Type} {f : α → β} {x : Except ε α} {error : ε} :
    (f <$> x) = .error error ↔ x = .error error := by
  cases x <;> simp [Functor.map, Except.map]

theorem mapError_eq_ok_iff {ε ε' α : Type} {g : ε → ε'} {x : Except ε α} {a : α} :
    x.mapError g = .ok a ↔ x = .ok a := by
  cases x <;> simp [Except.mapError]

theorem mapError_eq_error_iff {ε ε' α : Type} {g : ε → ε'} {x : Except ε α} {error : ε'} :
    x.mapError g = .error error ↔ ∃ cause, x = .error cause ∧ g cause = error := by
  cases x <;> simp [Except.mapError]

/-- A list is processed without failure exactly if every item is. -/
theorem mapM_eq_ok_iff {ε α β : Type} {f : α → Except ε β} {xs : List α} {ys : List β} :
    xs.mapM f = .ok ys ↔ List.Forall₂ (fun x y => f x = .ok y) xs ys := by
  induction xs generalizing ys with
  | nil =>
      have hnil : List.mapM f [] = .ok [] := rfl
      rw [hnil, List.forall₂_nil_left_iff]
      constructor
      · intro h
        exact (Except.ok.inj h).symm
      · rintro rfl
        rfl
  | cons x xs ih =>
      rw [List.mapM_cons, bind_eq_ok_iff, List.forall₂_cons_left_iff]
      constructor
      · rintro ⟨y, hy, h⟩
        obtain ⟨zs, hzs, h⟩ := bind_eq_ok_iff.mp h
        exact ⟨y, zs, hy, ih.mp hzs, (Except.ok.inj h).symm⟩
      · rintro ⟨y, zs, hy, hzs, rfl⟩
        exact ⟨y, hy, bind_eq_ok_iff.mpr ⟨zs, ih.mpr hzs, rfl⟩⟩

theorem exists_of_mem_forall₂ {α β : Type} {r : α → β → Prop} {xs : List α} {ys : List β}
    (h : List.Forall₂ r xs ys) {x : α} (hx : x ∈ xs) : ∃ y ∈ ys, r x y := by
  induction h with
  | nil => exact absurd hx List.not_mem_nil
  | @cons x' y xs ys hxy _ ih =>
      rcases List.mem_cons.mp hx with rfl | hx
      · exact ⟨y, List.mem_cons_self, hxy⟩
      · obtain ⟨z, hz, hxz⟩ := ih hx
        exact ⟨z, List.mem_cons_of_mem y hz, hxz⟩

/-! ## Columns -/

theorem Column.definition_eq_ok_iff {mode : IdentityMode} {column : Column} {sql : Sql} :
    column.definition mode = .ok sql ↔
      column.defaultValue.all DefaultValue.isFinite = true ∧
        ∃ type, column.typeSql = .ok type ∧
          sql = .name (.ofString column.name) :: .plain " " ::
            (type ++ column.modifiers mode) := by
  unfold Column.definition
  by_cases hfinite : column.defaultValue.all DefaultValue.isFinite = true
  · rw [if_pos hfinite, bind_eq_ok_iff]
    simp [hfinite, pure, Except.pure, eq_comm]
  · rw [if_neg hfinite]
    simp [hfinite]

namespace Column

/-- The types of the dialect that carry no numbers. -/
def bareTypeWords : List String :=
  ["BLOB SUB_TYPE TEXT", "BLOB SUB_TYPE BINARY", "INTEGER", "BIGINT", "SMALLINT", "FLOAT",
    "DOUBLE PRECISION", "DATE", "TIME", "TIMESTAMP"]

/-- The clauses of modifiers that the type of a column brings along by itself. -/
def typeClauses (column : Column) : List Modifier :=
  match column.type with
  | .jsonb => [.charset]
  | .timestamp | .timestampTz => if column.useCurrent then [.default] else []
  | _ => []

/-- What the type of a column is written as, beside the clauses that it brings along. -/
inductive TypeForm (column : Column) : List Modifier → Sql → Prop
  | bare {words : String} (hwords : words ∈ bareTypeWords) : TypeForm column [] [.plain words]
  | sized {words : String} (hwords : words ∈ ["CHAR", "VARCHAR"]) (length : Nat) :
      TypeForm column [] (Column.sized words length)
  | scaled {words : String} (hwords : words ∈ ["DECIMAL", "NUMERIC"]) (total places : Nat) :
      TypeForm column [] (Column.scaled words total places)
  | checked {allowed : List String} (htype : column.type = .enumeration allowed)
      (hallowed : allowed ≠ []) : TypeForm column [] (Column.checked column.name allowed)
  | octets : TypeForm column [.charset]
      (Column.sized "VARCHAR" 8191 ++ [.plain " CHARACTER SET OCTETS"])
  | current : TypeForm column [.default]
      [.plain "TIMESTAMP", .plain " DEFAULT CURRENT_TIMESTAMP"]

theorem typeForm_of_typeSql {column : Column} {type : Sql} (h : column.typeSql = .ok type) :
    column.TypeForm column.typeClauses type := by
  unfold typeSql at h
  unfold typeClauses
  cases htype : column.type with
  | enumeration allowed =>
      rw [htype] at h
      cases allowed with
      | nil => exact absurd h (by simp)
      | cons value allowed =>
          obtain rfl := Except.ok.inj h
          exact .checked htype (List.cons_ne_nil value allowed)
  | char | string | boolean | json | uuid | ipAddress | macAddress =>
      rw [htype] at h
      obtain rfl := Except.ok.inj h
      exact .sized (by decide) _
  | decimal | numeric =>
      rw [htype] at h
      obtain rfl := Except.ok.inj h
      exact .scaled (by decide) _ _
  | jsonb =>
      rw [htype] at h
      obtain rfl := Except.ok.inj h
      exact .octets
  | timestamp | timestampTz =>
      rw [htype] at h
      obtain rfl := Except.ok.inj h
      cases column.useCurrent with
      | false => exact .bare (by decide)
      | true => exact .current
  | _ =>
      rw [htype] at h
      obtain rfl := Except.ok.inj h
      exact .bare (by decide)

/-- The key clauses of a serial column. -/
def keyWords : List String :=
  [" GENERATED BY DEFAULT AS IDENTITY PRIMARY KEY", " PRIMARY KEY"]

/-- What a modifier of a column is written as, if it is written. -/
inductive ClauseForm (column : Column) : Modifier → Option Sql → Prop
  | absent {modifier : Modifier} : ClauseForm column modifier none
  | charset {text : String} (htext : column.charset = some text) :
      ClauseForm column .charset (some [.plain " CHARACTER SET ", .verbatim text])
  | collate {text : String} (htext : column.collation = some text) :
      ClauseForm column .collate (some [.plain " COLLATE ", .verbatim text])
  | increment {words : String} (hwords : words ∈ keyWords) :
      ClauseForm column .increment (some [.plain words])
  | nullable : ClauseForm column .nullable (some [.plain " NOT NULL"])
  | default {value : DefaultValue} (hvalue : column.defaultValue = some value) :
      ClauseForm column .default (some (.plain " DEFAULT " :: value.sql))

theorem clauseForm (mode : IdentityMode) (column : Column) (modifier : Modifier) :
    column.ClauseForm modifier (modifier.sql? mode column) := by
  cases modifier with
  | charset =>
      rw [Modifier.sql?]
      cases hcharset : column.charset with
      | none => exact .absent
      | some text => exact .charset hcharset
  | collate =>
      rw [Modifier.sql?]
      cases hcollation : column.collation with
      | none => exact .absent
      | some text => exact .collate hcollation
  | increment =>
      simp only [Modifier.sql?]
      split
      · cases mode with
        | native => exact .increment (by decide)
        | emulated => exact .increment (by decide)
      · exact .absent
  | nullable =>
      simp only [Modifier.sql?]
      split
      · exact .absent
      · exact .nullable
  | default =>
      rw [Modifier.sql?]
      cases hdefault : column.defaultValue with
      | none => exact .absent
      | some value => exact .default hdefault

end Column

namespace TablePlan

variable {settings : Settings} {plan : TablePlan}

theorem definitions_eq_ok_iff {definitions : List Sql} :
    plan.definitions settings = .ok definitions ↔
      List.Forall₂ (fun column sql => column.definition (plan.mode settings) = .ok sql)
        plan.columns definitions :=
  mapM_eq_ok_iff

/-! ## Table commands -/

/-- The words that open the creation of the table. -/
def creationWords (plan : TablePlan) : String :=
  if plan.temporary then "CREATE GLOBAL TEMPORARY TABLE " else "CREATE TABLE "

/-- What a temporary table keeps on a commit. -/
def commitClause (plan : TablePlan) : Sql :=
  if plan.temporary then
    [.plain (if plan.preserve then " ON COMMIT PRESERVE ROWS" else " ON COMMIT DELETE ROWS")]
  else []

/-- What happens to referencing rows on an event, if anything is said about it. -/
def actionClause (event : String) : Option ReferentialAction → Sql
  | some action => [.plain event, .plain action.text]
  | none => []

/-- Which statement a command compiles to, and when. -/
inductive Compiled (settings : Settings) (plan : TablePlan) :
    TableCommand → Statement → Prop
  | create {definitions : List Sql} (hcolumns : plan.columns ≠ [])
      (hdefinitions : plan.definitions settings = .ok definitions) :
      Compiled settings plan .create (.single
        (.plain plan.creationWords :: .name (plan.tableName settings) :: .plain " (" ::
          (Sql.separated ", " definitions ++ .plain ")" :: plan.commitClause)))
  | drop : Compiled settings plan .drop (.single
      [.plain "DROP TABLE ", .name (plan.tableName settings)])
  | add {definitions : List Sql} (hcolumns : plan.columns ≠ [])
      (hdefinitions : plan.definitions settings = .ok definitions) :
      Compiled settings plan .add (.single
        (.plain "ALTER TABLE " :: .name (plan.tableName settings) :: .plain " " ::
          Sql.separated ", " (definitions.map (.plain "ADD " :: ·))))
  | primary {columns : List String} (hcolumns : columns ≠ []) :
      Compiled settings plan (.primary columns) (.single
        (.plain "ALTER TABLE " :: .name (plan.tableName settings) ::
          .plain " ADD PRIMARY KEY (" :: (Sql.columnNames columns ++ [.plain ")"])))
  | unique {given : Option String} {columns : List String}
      (hname : plan.chosenName settings .unique given columns ≠ "")
      (hcolumns : columns ≠ []) :
      Compiled settings plan (.unique given columns) (.single
        (.plain "ALTER TABLE " :: .name (plan.tableName settings) ::
          .plain " ADD CONSTRAINT " ::
          .name (.ofString (plan.chosenName settings .unique given columns)) ::
          .plain " UNIQUE (" :: (Sql.columnNames columns ++ [.plain ")"])))
  | index {given : Option String} {columns : List String}
      (hname : plan.chosenName settings .index given columns ≠ "")
      (hcolumns : columns ≠ []) :
      Compiled settings plan (.index given columns) (.single
        (.plain "CREATE INDEX " ::
          .name (.ofString (plan.chosenName settings .index given columns)) ::
          .plain " ON " :: .name (plan.tableName settings) ::
          .plain " (" :: (Sql.columnNames columns ++ [.plain ")"])))
  | foreign {key : ForeignKey} {table : String}
      (hname : plan.chosenName settings .foreign key.name key.columns ≠ "")
      (hcolumns : key.columns ≠ []) (hon : key.on = some table) (htable : table ≠ "")
      (hreferences : key.references ≠ []) :
      Compiled settings plan (.foreign key) (.single
        (.plain "ALTER TABLE " :: .name (plan.tableName settings) ::
          .plain " ADD CONSTRAINT " ::
          .name (.ofString (plan.chosenName settings .foreign key.name key.columns)) ::
          .plain " FOREIGN KEY (" :: (Sql.columnNames key.columns ++
          .plain ") REFERENCES " :: .name (settings.qualified table) ::
          .plain " (" :: (Sql.columnNames key.references ++ .plain ")" ::
          (actionClause " ON DELETE " key.onDelete ++
            actionClause " ON UPDATE " key.onUpdate)))))
  | dropForeign {name : String} (hname : name ≠ "") :
      Compiled settings plan (.dropForeign name) (.single
        [.plain "ALTER TABLE ", .name (plan.tableName settings),
          .plain " DROP CONSTRAINT ", .name (.ofString name)])
  | createGenerator : Compiled settings plan .createGenerator (.single
      [.plain "CREATE SEQUENCE ", .name (plan.generator settings)])
  | dropGenerator : Compiled settings plan .dropGenerator (plan.dropGenerator settings)
  | generatorTrigger {column : String} (hcolumn : column ≠ "") :
      Compiled settings plan (.generatorTrigger column) (.single [
        .plain "CREATE OR ALTER TRIGGER ", .name (plan.trigger settings),
        .plain " FOR ", .name (plan.tableName settings),
        .plain "\nACTIVE BEFORE INSERT\nAS\nBEGIN\n  IF (NEW.", .name (.ofString column),
        .plain " IS NULL) THEN\n    NEW.", .name (.ofString column),
        .plain " = GEN_ID(", .name (plan.generator settings), .plain ", 1);\nEND"])

/-! ## The checks -/

theorem requireColumns_eq_ok_iff {α : Type} {command : CommandKind} {columns : List α} :
    plan.requireColumns command columns = .ok () ↔ columns ≠ [] := by
  cases columns <;> simp [requireColumns]

theorem requireName_eq_ok_iff {command : CommandKind} {name : String} :
    plan.requireName command name = .ok () ↔ name ≠ "" := by
  unfold requireName
  by_cases h : name = "" <;> simp [h]

theorem referencedTable_eq_ok_iff {key : ForeignKey} {name table : String} :
    plan.referencedTable key name = .ok table ↔ key.on = some table ∧ table ≠ "" := by
  unfold referencedTable
  cases key.on with
  | none => simp
  | some on =>
      by_cases h : on = ""
      · subst h
        constructor
        · intro hok
          exact absurd hok (by simp)
        · rintro ⟨hon, htable⟩
          exact absurd (Option.some.inj hon).symm htable
      · simp only [String.isEmpty_iff, h, if_false, Option.some.injEq, Except.ok.injEq]
        constructor
        · rintro rfl
          exact ⟨rfl, h⟩
        · exact And.left

/-! ## Success of each command -/

theorem createTable_eq_ok {sql : Sql} (h : plan.createTable settings = .ok sql) :
    Compiled settings plan .create (.single sql) := by
  unfold createTable at h
  obtain ⟨⟨⟩, hcolumns, h⟩ := bind_eq_ok_iff.mp h
  obtain ⟨definitions, hdefinitions, h⟩ := bind_eq_ok_iff.mp h
  have hcreate := Compiled.create (requireColumns_eq_ok_iff.mp hcolumns) hdefinitions
  have hsql := Except.ok.inj h
  simpa [← hsql, creationWords, commitClause] using hcreate

theorem addColumns_eq_ok {sql : Sql} (h : plan.addColumns settings = .ok sql) :
    Compiled settings plan .add (.single sql) := by
  unfold addColumns at h
  obtain ⟨⟨⟩, hcolumns, h⟩ := bind_eq_ok_iff.mp h
  obtain ⟨definitions, hdefinitions, h⟩ := bind_eq_ok_iff.mp h
  have hadd := Compiled.add (requireColumns_eq_ok_iff.mp hcolumns) hdefinitions
  have hsql := Except.ok.inj h
  simpa [← hsql, alterTable] using hadd

theorem addPrimaryKey_eq_ok {columns : List String} {sql : Sql}
    (h : plan.addPrimaryKey settings columns = .ok sql) :
    Compiled settings plan (.primary columns) (.single sql) := by
  unfold addPrimaryKey at h
  obtain ⟨⟨⟩, hcolumns, h⟩ := bind_eq_ok_iff.mp h
  have hprimary : Compiled settings plan (.primary columns) _ :=
    Compiled.primary (requireColumns_eq_ok_iff.mp hcolumns)
  have hsql := Except.ok.inj h
  simpa [← hsql, alterTable] using hprimary

theorem addUnique_eq_ok {given : Option String} {columns : List String} {sql : Sql}
    (h : plan.addUnique settings given columns = .ok sql) :
    Compiled settings plan (.unique given columns) (.single sql) := by
  unfold addUnique at h
  obtain ⟨⟨⟩, hname, h⟩ := bind_eq_ok_iff.mp h
  obtain ⟨⟨⟩, hcolumns, h⟩ := bind_eq_ok_iff.mp h
  have hunique := Compiled.unique (requireName_eq_ok_iff.mp hname)
    (requireColumns_eq_ok_iff.mp hcolumns)
  have hsql := Except.ok.inj h
  simpa [← hsql, alterTable] using hunique

theorem createIndex_eq_ok {given : Option String} {columns : List String} {sql : Sql}
    (h : plan.createIndex settings given columns = .ok sql) :
    Compiled settings plan (.index given columns) (.single sql) := by
  unfold createIndex at h
  obtain ⟨⟨⟩, hname, h⟩ := bind_eq_ok_iff.mp h
  obtain ⟨⟨⟩, hcolumns, h⟩ := bind_eq_ok_iff.mp h
  have hindex := Compiled.index (requireName_eq_ok_iff.mp hname)
    (requireColumns_eq_ok_iff.mp hcolumns)
  have hsql := Except.ok.inj h
  simpa [← hsql] using hindex

theorem addForeignKey_eq_ok {key : ForeignKey} {sql : Sql}
    (h : plan.addForeignKey settings key = .ok sql) :
    Compiled settings plan (.foreign key) (.single sql) := by
  unfold addForeignKey at h
  obtain ⟨⟨⟩, hname, h⟩ := bind_eq_ok_iff.mp h
  obtain ⟨⟨⟩, hcolumns, h⟩ := bind_eq_ok_iff.mp h
  obtain ⟨table, htable, h⟩ := bind_eq_ok_iff.mp h
  obtain ⟨hon, htable⟩ := referencedTable_eq_ok_iff.mp htable
  by_cases hreferences : key.references = []
  · simp [hreferences, bind, Except.bind] at h
  · have hforeign := Compiled.foreign (requireName_eq_ok_iff.mp hname)
      (requireColumns_eq_ok_iff.mp hcolumns) hon htable hreferences
    simp only [List.isEmpty_iff, hreferences, if_false] at h
    have hsql := Except.ok.inj h
    cases hdelete : key.onDelete <;> cases hupdate : key.onUpdate <;>
      simpa [← hsql, alterTable, actionClause, hdelete, hupdate] using hforeign

theorem dropForeignKey_eq_ok {name : String} {sql : Sql}
    (h : plan.dropForeignKey settings name = .ok sql) :
    Compiled settings plan (.dropForeign name) (.single sql) := by
  unfold dropForeignKey at h
  obtain ⟨⟨⟩, hname, h⟩ := bind_eq_ok_iff.mp h
  have hdrop : Compiled settings plan (.dropForeign name) _ :=
    Compiled.dropForeign (requireName_eq_ok_iff.mp hname)
  have hsql := Except.ok.inj h
  simpa [← hsql, alterTable] using hdrop

theorem createTrigger_eq_ok {column : String} {sql : Sql}
    (h : plan.createTrigger settings column = .ok sql) :
    Compiled settings plan (.generatorTrigger column) (.single sql) := by
  unfold createTrigger at h
  by_cases hcolumn : column = ""
  · subst hcolumn
    exact absurd h (by simp)
  · simp only [String.isEmpty_iff, hcolumn, if_false] at h
    have hsql := Except.ok.inj h
    rw [← hsql]
    exact Compiled.generatorTrigger hcolumn

/-- The compiler succeeds along the relation. -/
theorem compiled_of_compile {command : TableCommand} {statement : Statement}
    (h : plan.compile settings command = .ok statement) :
    Compiled settings plan command statement := by
  cases command with
  | create =>
      obtain ⟨sql, hsql, rfl⟩ := map_eq_ok_iff.mp h
      exact createTable_eq_ok hsql
  | drop =>
      obtain rfl := Except.ok.inj h
      exact Compiled.drop
  | add =>
      obtain ⟨sql, hsql, rfl⟩ := map_eq_ok_iff.mp h
      exact addColumns_eq_ok hsql
  | primary columns =>
      obtain ⟨sql, hsql, rfl⟩ := map_eq_ok_iff.mp h
      exact addPrimaryKey_eq_ok hsql
  | unique given columns =>
      obtain ⟨sql, hsql, rfl⟩ := map_eq_ok_iff.mp h
      exact addUnique_eq_ok hsql
  | index given columns =>
      obtain ⟨sql, hsql, rfl⟩ := map_eq_ok_iff.mp h
      exact createIndex_eq_ok hsql
  | foreign key =>
      obtain ⟨sql, hsql, rfl⟩ := map_eq_ok_iff.mp h
      exact addForeignKey_eq_ok hsql
  | dropForeign name =>
      obtain ⟨sql, hsql, rfl⟩ := map_eq_ok_iff.mp h
      exact dropForeignKey_eq_ok hsql
  | createGenerator =>
      obtain rfl := Except.ok.inj h
      exact Compiled.createGenerator
  | dropGenerator =>
      obtain rfl := Except.ok.inj h
      exact Compiled.dropGenerator
  | generatorTrigger column =>
      obtain ⟨sql, hsql, rfl⟩ := map_eq_ok_iff.mp h
      exact createTrigger_eq_ok hsql

/-- Along the relation the compiler succeeds. -/
theorem Compiled.compile {command : TableCommand} {statement : Statement}
    (h : Compiled settings plan command statement) :
    plan.compile settings command = .ok statement := by
  cases h with
  | create hcolumns hdefinitions =>
      have hcheck : plan.requireColumns .create plan.columns = .ok () :=
        requireColumns_eq_ok_iff.mpr hcolumns
      simp [TablePlan.compile, createTable, hcheck, hdefinitions, creationWords,
        commitClause]
  | drop => rfl
  | add hcolumns hdefinitions =>
      have hcheck : plan.requireColumns .add plan.columns = .ok () :=
        requireColumns_eq_ok_iff.mpr hcolumns
      simp [TablePlan.compile, addColumns, hcheck, hdefinitions, alterTable]
  | @primary columns hcolumns =>
      have hcheck : plan.requireColumns .primary columns = .ok () :=
        requireColumns_eq_ok_iff.mpr hcolumns
      simp [TablePlan.compile, addPrimaryKey, hcheck, alterTable]
  | @unique given columns hname hcolumns =>
      have hnamed : plan.requireName .unique
          (plan.chosenName settings .unique given columns) = .ok () :=
        requireName_eq_ok_iff.mpr hname
      have hcheck : plan.requireColumns .unique columns = .ok () :=
        requireColumns_eq_ok_iff.mpr hcolumns
      simp [TablePlan.compile, addUnique, hnamed, hcheck, alterTable]
  | @index given columns hname hcolumns =>
      have hnamed : plan.requireName .index
          (plan.chosenName settings .index given columns) = .ok () :=
        requireName_eq_ok_iff.mpr hname
      have hcheck : plan.requireColumns .index columns = .ok () :=
        requireColumns_eq_ok_iff.mpr hcolumns
      simp [TablePlan.compile, createIndex, hnamed, hcheck]
  | @foreign key table hname hcolumns hon htable hreferences =>
      have hnamed : plan.requireName .foreign
          (plan.chosenName settings .foreign key.name key.columns) = .ok () :=
        requireName_eq_ok_iff.mpr hname
      have hcheck : plan.requireColumns .foreign key.columns = .ok () :=
        requireColumns_eq_ok_iff.mpr hcolumns
      have hreferenced : plan.referencedTable key
          (plan.chosenName settings .foreign key.name key.columns) = .ok table :=
        referencedTable_eq_ok_iff.mpr ⟨hon, htable⟩
      cases hdelete : key.onDelete <;> cases hupdate : key.onUpdate <;>
        simp [TablePlan.compile, addForeignKey, hnamed, hcheck, hreferenced,
          hreferences, hdelete, hupdate, alterTable, actionClause]
  | @dropForeign name hname =>
      have hnamed : plan.requireName .dropForeign name = .ok () :=
        requireName_eq_ok_iff.mpr hname
      simp [TablePlan.compile, dropForeignKey, hnamed, alterTable]
  | createGenerator => rfl
  | dropGenerator => rfl
  | generatorTrigger hcolumn =>
      simp [TablePlan.compile, createTrigger, hcolumn]

/-- The compiler succeeds exactly along the relation. -/
theorem compile_eq_ok_iff {command : TableCommand} {statement : Statement} :
    plan.compile settings command = .ok statement ↔
      Compiled settings plan command statement :=
  ⟨compiled_of_compile, Compiled.compile⟩

/-- A plan compiles to one statement for each of its commands, in order. -/
theorem statements_eq_ok_iff {statements : List Statement} :
    plan.statements settings = .ok statements ↔
      List.Forall₂ (Compiled settings plan)
        (plan.allCommands (plan.mode settings)) statements := by
  unfold TablePlan.statements
  rw [mapM_eq_ok_iff]
  simp only [compile_eq_ok_iff]

/-- Every statement of a plan is that of one of its commands. -/
theorem exists_compiled {statements : List Statement}
    (h : plan.statements settings = .ok statements) {statement : Statement}
    (hstatement : statement ∈ statements) :
    ∃ command, Compiled settings plan command statement := by
  have hcompiled := (statements_eq_ok_iff.mp h).flip
  obtain ⟨command, -, hcommand⟩ := exists_of_mem_forall₂ hcompiled hstatement
  exact ⟨command, hcommand⟩

end TablePlan

/-! ## Sequence commands -/

namespace SequencePlan

variable {settings : Settings} {plan : SequencePlan}

theorem compile_eq_ok_iff {command : SequenceCommand} {statement : Statement} :
    plan.compile settings command = .ok statement ↔
      plan.sequence ≠ "" ∧ statement = plan.compileNamed settings command := by
  unfold SequencePlan.compile
  by_cases h : plan.sequence = ""
  · simp [h]
  · simp only [String.isEmpty_iff, h, if_false, Except.ok.injEq]
    constructor
    · intro hstatement
      exact ⟨h, hstatement.symm⟩
    · rintro ⟨-, hstatement⟩
      exact hstatement.symm

theorem statements_eq_ok_iff {statements : List Statement} :
    plan.statements settings = .ok statements ↔
      List.Forall₂ (fun command statement => plan.sequence ≠ "" ∧
        statement = plan.compileNamed settings command) plan.commands statements := by
  unfold SequencePlan.statements
  rw [mapM_eq_ok_iff]
  simp only [compile_eq_ok_iff]

/-- Every statement of a plan is that of one of its commands. -/
theorem exists_compiled {statements : List Statement}
    (h : plan.statements settings = .ok statements) {statement : Statement}
    (hstatement : statement ∈ statements) :
    ∃ command, statement = plan.compileNamed settings command := by
  have hcompiled := (statements_eq_ok_iff.mp h).flip
  obtain ⟨command, -, -, hcommand⟩ := exists_of_mem_forall₂ hcompiled hstatement
  exact ⟨command, hcommand⟩

end SequencePlan

end SchemaDdl
