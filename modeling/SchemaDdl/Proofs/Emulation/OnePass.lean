import SchemaDdl.Proofs.Emulation.ImpliedCommands

/-!
# Implied commands in one pass

The implied commands are found by three rules, one after another, each with a
test on the whole list that the rules before it left.  `TablePlan.onePass` says
in one pass over the commands of the plan what the three rules come to:
`add` in front of everything, the commands that set up the generator behind the
first `create`, the one that removes it behind the first `drop`, and every
command of the plan copied.  All tests are made on the plan itself.
-/

namespace SchemaDdl

open scoped List

/-- One pass over some commands.  What stands ready for the first creation and for
the first drop is used up there. -/
def expand (setup removal : List TableCommand) : List TableCommand → List TableCommand
  | [] => []
  | .create :: rest => .create :: (setup ++ expand [] removal rest)
  | .drop :: rest => .drop :: (removal ++ expand setup [] rest)
  | command :: rest => command :: expand setup removal rest

theorem insertAfter_nil (target : TableCommand) (commands : List TableCommand) :
    insertAfter target [] commands = commands := by
  induction commands with
  | nil => rfl
  | cons command commands ih =>
      rw [insertAfter, ih]
      split <;> rfl

theorem sublist_insertAfter (target : TableCommand) (extra commands : List TableCommand) :
    commands <+ insertAfter target extra commands := by
  induction commands with
  | nil => exact List.Sublist.refl []
  | cons command commands ih =>
      rw [insertAfter]
      split
      · rw [List.cons_append]
        exact (List.sublist_append_right extra commands).cons_cons command
      · exact ih.cons_cons command

/-- The pass makes both insertions at once.  The second insertion does not stop
inside the commands of the first. -/
theorem expand_eq_insertAfter {setup removal : List TableCommand} (hsetup : .drop ∉ setup)
    (commands : List TableCommand) :
    expand setup removal commands =
      insertAfter .drop removal (insertAfter .create setup commands) := by
  induction commands generalizing setup removal with
  | nil => rfl
  | cons command commands ih =>
      cases command with
      | create =>
          have hrest : expand [] removal commands =
              insertAfter .drop removal (insertAfter .create [] commands) :=
            ih List.not_mem_nil
          rw [insertAfter_nil] at hrest
          have hfront : TableCommand.drop ∉ .create :: setup := by simpa using hsetup
          rw [expand, hrest, insertAfter, if_pos rfl, insertAfter_append_of_not_mem hfront]
          rfl
      | drop =>
          have hrest : expand setup [] commands =
              insertAfter .drop [] (insertAfter .create setup commands) := ih hsetup
          rw [insertAfter_nil] at hrest
          rw [expand, hrest, insertAfter, if_neg (by simp), insertAfter, if_pos rfl]
          rfl
      | _ =>
          rw [expand, ih hsetup, insertAfter, if_neg (by simp), insertAfter, if_neg (by simp)]
          all_goals simp

namespace TablePlan

variable (plan : TablePlan) (mode : IdentityMode)

/-- What stands in front of the commands of the plan. -/
def impliedAdd : List TableCommand :=
  if plan.columns ≠ [] ∧ .create ∉ plan.commands ∧ .add ∉ plan.commands then [.add] else []

/-- What stands behind the first creation. -/
def impliedSetup : List TableCommand :=
  match mode, plan.columns.find? Column.isSerial with
  | .emulated, some column =>
    if .createGenerator ∈ plan.commands then []
    else [.createGenerator, .generatorTrigger column.name]
  | _, _ => []

/-- What stands behind the first drop. -/
def impliedRemoval : List TableCommand :=
  if mode = .emulated ∧ .dropGenerator ∉ plan.commands then [.dropGenerator] else []

def onePass : List TableCommand :=
  plan.impliedAdd ++ expand (plan.impliedSetup mode) (plan.impliedRemoval mode) plan.commands

theorem withImpliedAdd_eq : plan.withImpliedAdd = plan.impliedAdd ++ plan.commands := by
  unfold withImpliedAdd impliedAdd isCreating
  by_cases h : plan.columns ≠ [] ∧ .create ∉ plan.commands ∧ .add ∉ plan.commands
  · simp [h]
  · rw [if_neg h, if_pos]
    · rfl
    · simp only [Bool.or_eq_true, List.isEmpty_iff, List.contains_iff_mem]
      tauto

theorem withImpliedGenerator_eq :
    plan.withImpliedGenerator plan.withImpliedAdd =
      insertAfter .create (plan.impliedSetup .emulated) plan.withImpliedAdd := by
  have hgenerator : .createGenerator ∈ plan.withImpliedAdd ↔ .createGenerator ∈ plan.commands :=
    mem_withImpliedAdd (by simp)
  unfold withImpliedGenerator impliedSetup serialColumn?
  cases plan.columns.find? Column.isSerial with
  | none => exact (insertAfter_nil _ _).symm
  | some column =>
      by_cases h : TableCommand.createGenerator ∈ plan.commands
      · simp [hgenerator, h, insertAfter_nil]
      · simp [hgenerator, h]

theorem withImpliedRemoval_eq :
    withImpliedRemoval (plan.withImpliedGenerator plan.withImpliedAdd) =
      insertAfter .drop (plan.impliedRemoval .emulated)
        (plan.withImpliedGenerator plan.withImpliedAdd) := by
  have hremoval : .dropGenerator ∈ plan.withImpliedGenerator plan.withImpliedAdd ↔
      .dropGenerator ∈ plan.commands := by
    rw [mem_withImpliedGenerator (by simp) (by simp), mem_withImpliedAdd (by simp)]
  unfold withImpliedRemoval impliedRemoval
  by_cases h : TableCommand.dropGenerator ∈ plan.commands
  · simp [hremoval, h, insertAfter_nil]
  · simp [hremoval, h]

theorem drop_not_mem_impliedSetup : .drop ∉ plan.impliedSetup mode := by
  unfold impliedSetup
  split
  · split <;> simp
  · simp

theorem allCommands_eq_insertAfter :
    plan.allCommands mode =
      insertAfter .drop (plan.impliedRemoval mode)
        (insertAfter .create (plan.impliedSetup mode) (plan.impliedAdd ++ plan.commands)) := by
  cases mode with
  | native =>
      have hremoval : plan.impliedRemoval .native = [] := by simp [impliedRemoval]
      have hsetup : plan.impliedSetup .native = [] := rfl
      rw [hremoval, hsetup, insertAfter_nil, insertAfter_nil, ← withImpliedAdd_eq]
      rfl
  | emulated =>
      rw [allCommands, withImpliedRemoval_eq, withImpliedGenerator_eq, withImpliedAdd_eq]

theorem mem_allCommands {plan : TablePlan} {command : TableCommand}
    (h : command ∈ plan.withImpliedAdd) (mode : IdentityMode) :
    command ∈ plan.allCommands mode := by
  rw [withImpliedAdd_eq] at h
  rw [allCommands_eq_insertAfter, mem_insertAfter, mem_insertAfter]
  exact .inl (.inl h)

theorem mem_allCommands_of_mem {plan : TablePlan} {command : TableCommand}
    (h : command ∈ plan.commands) (mode : IdentityMode) : command ∈ plan.allCommands mode := by
  refine mem_allCommands ?_ mode
  rw [withImpliedAdd_eq]
  exact List.mem_append_right _ h

/-- The columns of a plan always come into the table. -/
theorem exists_definer {plan : TablePlan} (h : plan.columns ≠ []) (mode : IdentityMode) :
    ∃ definer ∈ [TableCommand.create, .add], definer ∈ plan.allCommands mode := by
  by_cases hcommands : TableCommand.create ∈ plan.commands ∨ .add ∈ plan.commands
  · rcases hcommands with hcreate | hadd
    · exact ⟨.create, by simp, mem_allCommands_of_mem hcreate mode⟩
    · exact ⟨.add, by simp, mem_allCommands_of_mem hadd mode⟩
  · refine ⟨.add, by simp, mem_allCommands ?_ mode⟩
    rw [not_or] at hcommands
    rw [withImpliedAdd_eq, impliedAdd, if_pos ⟨h, hcommands⟩]
    exact List.mem_cons_self

/-- The rules come to one pass over the plan, and the commands of the plan stay in
their order and number. -/
theorem allCommands_eq_onePass :
    plan.allCommands mode = plan.onePass mode ∧ plan.commands <+ plan.allCommands mode := by
  constructor
  · have hcreate : TableCommand.create ∉ plan.impliedAdd := by
      unfold impliedAdd
      split <;> simp
    have hdrop : TableCommand.drop ∉ plan.impliedAdd := by
      unfold impliedAdd
      split <;> simp
    rw [allCommands_eq_insertAfter, onePass,
      expand_eq_insertAfter (plan.drop_not_mem_impliedSetup mode),
      insertAfter_append_of_not_mem hcreate, insertAfter_append_of_not_mem hdrop]
  · rw [allCommands_eq_insertAfter]
    calc
      plan.commands <+ plan.impliedAdd ++ plan.commands := List.sublist_append_right _ _
      _ <+ insertAfter .create (plan.impliedSetup mode) (plan.impliedAdd ++ plan.commands) :=
        sublist_insertAfter _ _ _
      _ <+ insertAfter .drop (plan.impliedRemoval mode)
          (insertAfter .create (plan.impliedSetup mode) (plan.impliedAdd ++ plan.commands)) :=
        sublist_insertAfter _ _ _

/-- The table is dropped before it is created, and created twice; the first of its two
serial columns gets the trigger. -/
theorem allCommands_eq_onePass_of_repeated_creation :
    let plan : TablePlan :=
      { table := "orders", columns := [.string "label", .increments "id", .bigIncrements "no"]
        commands := [.drop, .create, .drop, .create] }
    plan.allCommands .emulated =
      [.drop, .dropGenerator, .create, .createGenerator, .generatorTrigger "id", .drop,
        .create] := by
  intro plan
  rw [(plan.allCommands_eq_onePass .emulated).1]
  decide

end TablePlan

end SchemaDdl
