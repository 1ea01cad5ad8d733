import SchemaDdl.Proofs.Compilation.Success
import SchemaDdl.Proofs.Identifier.Generated

/-!
# What a plan must meet to compile

`TablePlan.requirements` lists for each command what its model must meet, in the
order in which it is reported.  The requirements of a plan are those of its
commands, one after another.

The compiler fails exactly with the first requirement that is not met
(`TablePlan.failure_statements`): a plan with none compiles as a whole, and a plan
with one compiles to nothing but the error of the first.
-/

namespace SchemaDdl

/-- A condition on a model and the error that tells that it is not met. -/
structure Requirement where
  met : Bool
  error : SchemaError

/-- The error of the first requirement that is not met. -/
def firstUnmet : List Requirement → Option SchemaError
  | [] => none
  | requirement :: rest => if requirement.met then firstUnmet rest else some requirement.error

theorem firstUnmet_append (a b : List Requirement) :
    firstUnmet (a ++ b) = (firstUnmet a).or (firstUnmet b) := by
  induction a with
  | nil => rfl
  | cons requirement a ih =>
      rw [List.cons_append, firstUnmet, firstUnmet, ih]
      split <;> rfl

theorem firstUnmet_eq_none_iff {requirements : List Requirement} :
    firstUnmet requirements = none ↔ ∀ requirement ∈ requirements, requirement.met = true := by
  induction requirements with
  | nil => simp [firstUnmet]
  | cons requirement requirements ih =>
      cases h : requirement.met <;> simp [firstUnmet, h, ih]

/-- The first requirement that some items do not meet belongs to the first item that
does not meet all of its own. -/
theorem firstUnmet_flatMap_eq_some_iff {α : Type} {requirements : α → List Requirement}
    {items : List α} {error : SchemaError} :
    firstUnmet (items.flatMap requirements) = some error ↔
      ∃ before item after, items = before ++ item :: after ∧
        (∀ earlier ∈ before, firstUnmet (requirements earlier) = none) ∧
        firstUnmet (requirements item) = some error := by
  induction items with
  | nil => simp [firstUnmet]
  | cons first items ih =>
      rw [List.flatMap_cons, firstUnmet_append]
      constructor
      · intro h
        cases hfirst : firstUnmet (requirements first) with
        | some found =>
            rw [hfirst] at h
            obtain rfl := Option.some.inj h
            exact ⟨[], first, items, rfl, by simp, hfirst⟩
        | none =>
            rw [hfirst, Option.none_or] at h
            obtain ⟨before, item, after, rfl, hbefore, hitem⟩ := ih.mp h
            refine ⟨first :: before, item, after, rfl, ?_, hitem⟩
            exact List.forall_mem_cons.mpr ⟨hfirst, hbefore⟩
      · rintro ⟨before, item, after, hitems, hbefore, hitem⟩
        cases before with
        | nil =>
            obtain ⟨rfl, -⟩ := List.cons.inj hitems
            rw [hitem, Option.some_or]
        | cons other before =>
            obtain ⟨rfl, hrest⟩ := List.cons.inj hitems
            obtain ⟨hfirst, hbefore⟩ := List.forall_mem_cons.mp hbefore
            rw [hfirst, Option.none_or]
            exact ih.mpr ⟨before, item, after, hrest, hbefore, hitem⟩

/-! ## Failures -/

/-- The error of a computation that fails. -/
def failure {ε α : Type} : Except ε α → Option ε
  | .error error => some error
  | .ok _ => none

@[simp]
theorem failure_ok {ε α : Type} (a : α) : failure (.ok a : Except ε α) = none := rfl

@[simp]
theorem failure_pure {ε α : Type} (a : α) : failure (pure a : Except ε α) = none := rfl

@[simp]
theorem failure_error {ε α : Type} (error : ε) :
    failure (.error error : Except ε α) = some error := rfl

@[simp]
theorem failure_map {ε α β : Type} (f : α → β) (x : Except ε α) :
    failure (f <$> x) = failure x := by
  cases x <;> rfl

theorem failure_eq_none_iff {ε α : Type} {x : Except ε α} :
    failure x = none ↔ ∃ a, x = .ok a := by
  cases x <;> simp [failure]

theorem failure_eq_some_iff {ε α : Type} {x : Except ε α} {error : ε} :
    failure x = some error ↔ x = .error error := by
  cases x <;> simp [failure]

/-- Where the second step fails alike for every result of the first, its failure
comes second. -/
theorem failure_bind {ε α β : Type} {x : Except ε α} {f : α → Except ε β} {next : Option ε}
    (h : ∀ a, failure (f a) = next) : failure (x >>= f) = (failure x).or next := by
  cases x with
  | error error => rfl
  | ok a => exact h a

/-- Where only the first step can fail, its failure is the failure of both. -/
theorem failure_checked {ε α β : Type} {x : Except ε α} {f : α → β} :
    failure (x >>= fun a => pure (f a)) = failure x := by
  rw [failure_bind fun _ => failure_pure _, Option.or_none]

/-- A list fails with the first requirement of its items that is not met. -/
theorem failure_mapM {α β : Type} {f : α → Except SchemaError β}
    {requirements : α → List Requirement}
    (h : ∀ item, failure (f item) = firstUnmet (requirements item)) (items : List α) :
    failure (items.mapM f) = firstUnmet (items.flatMap requirements) := by
  induction items with
  | nil => rfl
  | cons item items ih =>
      have hrest : ∀ result, failure (do
          let results ← items.mapM f
          pure (result :: results)) = firstUnmet (items.flatMap requirements) := by
        intro result
        rw [failure_checked, ih]
      rw [List.mapM_cons, failure_bind hrest, h, List.flatMap_cons, firstUnmet_append]

/-! ## Columns -/

namespace Column

/-- The numbers that have no literal. -/
def unwritable : List Binary64 := [.nan, .infinite false, .infinite true]

/-- What a column must meet, its default before its type. -/
def requirements (column : Column) : List Requirement :=
  [⟨column.defaultValue ∉ unwritable.map fun value => some (.real value),
      .nonFiniteDefault column.name⟩,
    ⟨column.type ≠ .enumeration [], .emptyEnumeration column.name⟩]

theorem isFinite_iff (column : Column) :
    column.defaultValue.all DefaultValue.isFinite = true ↔
      column.defaultValue ∉ unwritable.map fun value => some (.real value) := by
  cases column.defaultValue with
  | none => simp [unwritable]
  | some value =>
      cases value with
      | real value =>
          cases value with
          | infinite negative =>
              cases negative <;> simp [unwritable, DefaultValue.isFinite, Binary64.isFinite]
          | _ => simp [unwritable, DefaultValue.isFinite, Binary64.isFinite]
      | _ => simp [unwritable, DefaultValue.isFinite]

theorem failure_typeSql (column : Column) :
    failure column.typeSql =
      firstUnmet [⟨column.type ≠ .enumeration [], .emptyEnumeration column.name⟩] := by
  unfold typeSql
  cases column.type with
  | enumeration allowed => cases allowed <;> rfl
  | _ => rfl

theorem failure_definition (mode : IdentityMode) (column : Column) :
    failure (column.definition mode) = firstUnmet column.requirements := by
  have hfinite := column.isFinite_iff
  unfold definition requirements
  by_cases h : column.defaultValue.all DefaultValue.isFinite = true
  · rw [if_pos h, failure_checked, failure_typeSql]
    simp [firstUnmet, hfinite.mp h]
  · rw [if_neg h, failure_error, firstUnmet, if_neg]
    rw [decide_eq_true_eq]
    exact mt hfinite.mpr h

end Column

/-! ## Commands -/

namespace TablePlan

variable (settings : Settings) (plan : TablePlan)

/-- What a command on all columns of the plan must meet. -/
def columnRequirements (command : CommandKind) : List Requirement :=
  ⟨plan.columns ≠ [], .emptyColumns command plan.table⟩ ::
    plan.columns.flatMap Column.requirements

/-- What a command on some columns with a name of its own must meet. -/
def namedRequirements (command : CommandKind) (name : Option String) (columns : List String) :
    List Requirement :=
  [⟨name ≠ some "", .emptyName command plan.table⟩,
    ⟨columns ≠ [], .emptyColumns command plan.table⟩]

/-- What a command must meet, in the order in which it is reported. -/
def requirements : TableCommand → List Requirement
  | .create => plan.columnRequirements .create
  | .add => plan.columnRequirements .add
  | .primary columns => [⟨columns ≠ [], .emptyColumns .primary plan.table⟩]
  | .unique name columns => plan.namedRequirements .unique name columns
  | .index name columns => plan.namedRequirements .index name columns
  | .foreign key =>
    let constraint := plan.chosenName settings .foreign key.name key.columns
    plan.namedRequirements .foreign key.name key.columns ++
      [⟨key.on ∉ [none, some ""], .missingReferencedTable plan.table constraint⟩,
        ⟨key.references ≠ [], .missingReferencedColumns plan.table constraint⟩]
  | .dropForeign name => [⟨name ≠ "", .emptyName .dropForeign plan.table⟩]
  | .generatorTrigger column => [⟨column ≠ "", .missingTriggerColumn plan.table⟩]
  | .drop | .createGenerator | .dropGenerator => []

variable {settings : Settings} {plan : TablePlan}

theorem failure_requireColumns {α : Type} [DecidableEq α] (command : CommandKind)
    (columns : List α) :
    failure (plan.requireColumns command columns) =
      firstUnmet [⟨columns ≠ [], .emptyColumns command plan.table⟩] := by
  cases columns <;> simp [requireColumns, firstUnmet]

theorem failure_requireName (command : CommandKind) (name : String) :
    failure (plan.requireName command name) =
      firstUnmet [⟨name ≠ "", .emptyName command plan.table⟩] := by
  by_cases h : name = "" <;> simp [requireName, firstUnmet, h]

/-- A name that is chosen can only be empty if it was given. -/
theorem failure_requireChosen (command : CommandKind) (name : Option String)
    (columns : List String) :
    failure (plan.requireName command (plan.chosenName settings command name columns)) =
      firstUnmet [⟨name ≠ some "", .emptyName command plan.table⟩] := by
  rw [failure_requireName]
  simp only [chosenName_ne_empty_iff]

theorem failure_referencedTable (key : ForeignKey) (constraint : String) :
    failure (plan.referencedTable key constraint) =
      firstUnmet [⟨key.on ∉ [none, some ""],
        .missingReferencedTable plan.table constraint⟩] := by
  unfold referencedTable
  cases key.on with
  | none => simp [firstUnmet]
  | some table => by_cases h : table = "" <;> simp [firstUnmet, h]

theorem failure_definitions :
    failure (plan.definitions settings) =
      firstUnmet (plan.columns.flatMap Column.requirements) :=
  failure_mapM (Column.failure_definition _) plan.columns

/-- The checks before a statement on all columns, whatever the statement is. -/
theorem failure_on_columns {command : CommandKind} {statement : List Sql → Sql} :
    failure (do
      plan.requireColumns command plan.columns
      let definitions ← plan.definitions settings
      return statement definitions) = firstUnmet (plan.columnRequirements command) := by
  rw [failure_bind fun _ => failure_checked, failure_requireColumns, failure_definitions,
    ← firstUnmet_append]
  rfl

/-- The checks before a statement on some columns with a name of its own. -/
theorem failure_named {command : CommandKind} {name : Option String} {columns : List String}
    {rest : Except SchemaError Sql} :
    failure (do
      plan.requireName command (plan.chosenName settings command name columns)
      plan.requireColumns command columns
      rest) = (firstUnmet (plan.namedRequirements command name columns)).or (failure rest) := by
  rw [failure_bind fun _ => failure_bind fun _ => rfl, failure_requireChosen,
    failure_requireColumns, ← Option.or_assoc, ← firstUnmet_append]
  rfl

theorem failure_addForeignKey (key : ForeignKey) :
    failure (plan.addForeignKey settings key) =
      firstUnmet (plan.requirements settings (.foreign key)) := by
  have hrequirements : firstUnmet (plan.requirements settings (.foreign key)) =
      (firstUnmet (plan.namedRequirements .foreign key.name key.columns)).or
        ((firstUnmet [⟨key.on ∉ [none, some ""], .missingReferencedTable plan.table
            (plan.chosenName settings .foreign key.name key.columns)⟩]).or
          (firstUnmet [⟨key.references ≠ [], .missingReferencedColumns plan.table
            (plan.chosenName settings .foreign key.name key.columns)⟩])) := by
    rw [← firstUnmet_append, ← firstUnmet_append]
    rfl
  unfold addForeignKey
  rw [failure_named, hrequirements, ← failure_referencedTable]
  refine congrArg (Option.or _) (failure_bind fun table => ?_)
  by_cases hreferences : key.references = []
  · simp [hreferences, firstUnmet, bind, Except.bind]
  · simp [hreferences, firstUnmet]

theorem failure_createTrigger (column : String) :
    failure (plan.createTrigger settings column) =
      firstUnmet [⟨column ≠ "", .missingTriggerColumn plan.table⟩] := by
  by_cases h : column = "" <;> simp [createTrigger, firstUnmet, h]

/-- A command fails exactly with its first requirement that is not met. -/
theorem failure_compile (command : TableCommand) :
    failure (plan.compile settings command) =
      firstUnmet (plan.requirements settings command) := by
  cases command with
  | create => exact (failure_map _ _).trans failure_on_columns
  | add => exact (failure_map _ _).trans failure_on_columns
  | primary columns =>
      exact (failure_map _ _).trans (failure_checked.trans (failure_requireColumns _ _))
  | unique name columns =>
      exact (failure_map _ _).trans (failure_named.trans (Option.or_none))
  | index name columns =>
      exact (failure_map _ _).trans (failure_named.trans (Option.or_none))
  | foreign key => exact (failure_map _ _).trans (failure_addForeignKey key)
  | dropForeign name =>
      exact (failure_map _ _).trans (failure_checked.trans (failure_requireName _ _))
  | generatorTrigger column => exact (failure_map _ _).trans (failure_createTrigger column)
  | drop | createGenerator | dropGenerator => rfl

theorem failure_statements :
    failure (plan.statements settings) =
      firstUnmet ((plan.allCommands (plan.mode settings)).flatMap
        (plan.requirements settings)) :=
  failure_mapM failure_compile _

/-! ## All or nothing -/

/-- The command meets all of its requirements. -/
def Valid (settings : Settings) (plan : TablePlan) (command : TableCommand) : Prop :=
  ∀ requirement ∈ plan.requirements settings command, requirement.met = true

theorem valid_iff {command : TableCommand} :
    plan.Valid settings command ↔ firstUnmet (plan.requirements settings command) = none :=
  firstUnmet_eq_none_iff.symm

theorem exists_statements_iff :
    (∃ statements, plan.statements settings = .ok statements) ↔
      ∀ command ∈ plan.allCommands (plan.mode settings), plan.Valid settings command := by
  rw [← failure_eq_none_iff, failure_statements, firstUnmet_eq_none_iff]
  simp only [List.mem_flatMap, Valid]
  constructor
  · intro h command hcommand requirement hrequirement
    exact h requirement ⟨command, hcommand, hrequirement⟩
  · rintro h requirement ⟨command, hcommand, hrequirement⟩
    exact h command hcommand requirement hrequirement

theorem Compiled.isBlock_iff {command : TableCommand} {statement : Statement}
    (h : Compiled settings plan command statement) :
    statement.isBlock = true ↔ command = .dropGenerator := by
  cases h with
  | dropGenerator => exact ⟨fun _ => rfl, fun _ => rfl⟩
  | _ => simp [Statement.isBlock]

/-- A plan compiles if and only if all of its commands are valid, implied ones
included, and then to one statement for each, in order.  Otherwise it fails with
the first unmet requirement of its first command that is not valid. -/
theorem statements_or_first_error (settings : Settings) (plan : TablePlan) :
    ((∃ statements, plan.statements settings = .ok statements) ↔
      ∀ command ∈ plan.allCommands (plan.mode settings), plan.Valid settings command) ∧
    (∀ statements, plan.statements settings = .ok statements ↔
      List.Forall₂ (fun command statement => plan.compile settings command = .ok statement ∧
          (statement.isBlock = true ↔ command = .dropGenerator))
        (plan.allCommands (plan.mode settings)) statements) ∧
    (∀ error, plan.statements settings = .error error ↔
      ∃ before command after,
        plan.allCommands (plan.mode settings) = before ++ command :: after ∧
        (∀ earlier ∈ before, plan.Valid settings earlier) ∧
        firstUnmet (plan.requirements settings command) = some error) := by
  refine ⟨?_, ?_, ?_⟩
  · exact exists_statements_iff
  · intro statements
    have hcompile : ∀ command statement, plan.compile settings command = .ok statement ↔
        plan.compile settings command = .ok statement ∧
          (statement.isBlock = true ↔ command = .dropGenerator) := by
      intro command statement
      constructor
      · intro h
        exact ⟨h, (compile_eq_ok_iff.mp h).isBlock_iff⟩
      · exact And.left
    simp only [← hcompile]
    exact mapM_eq_ok_iff
  · intro error
    simp only [← failure_eq_some_iff, failure_statements, firstUnmet_flatMap_eq_some_iff,
      valid_iff]

/-- The index without a name comes before columns that no statement can define; the
implied removal of the generator comes before the index. -/
theorem statements_or_first_error_of_unnamed_index :
    let plan : TablePlan :=
      { table := "orders"
        columns := [.increments "id", .enumeration "state" [],
          { name := "ratio", type := .double, defaultValue := some (.real .nan) }]
        commands := [.drop, .index (some "") [], .create] }
    (∀ earlier ∈ [.drop, .dropGenerator], plan.Valid {} earlier) ∧
      plan.statements {} = .error (.emptyName .index "orders") := by
  intro plan
  have hearlier : ∀ earlier ∈ [.drop, .dropGenerator], plan.Valid {} earlier := by
    simp [Valid, requirements]
  refine ⟨hearlier, ((statements_or_first_error {} plan).2.2 _).mpr ?_⟩
  exact ⟨[.drop, .dropGenerator], .index (some "") [],
    [.create, .createGenerator, .generatorTrigger "id"], rfl, hearlier, rfl⟩

end TablePlan

end SchemaDdl
