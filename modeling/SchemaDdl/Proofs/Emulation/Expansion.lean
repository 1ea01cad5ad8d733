import Mathlib.Data.List.Nodup
import SchemaDdl.Proofs.Emulation.OnePass
import SchemaDdl.Table.Ddl

/-!
# Plans with their implied commands written out

The implied commands of a plan may be written into the plan itself, which is then
expanded again wherever it is compiled.  `TablePlan.allCommands_expanded` states that
the second expansion adds nothing that the first one has added: every rule finds what it
would imply already there.

An expansion in one mode followed by one in the other comes to a single expansion.  That
is the emulated one, since it implies all that the native one does.
-/

namespace SchemaDdl

open scoped List

theorem count_insertAfter_le (command target : TableCommand) (extra commands : List TableCommand) :
    (insertAfter target extra commands).count command ≤
      extra.count command + commands.count command := by
  by_cases h : target ∈ commands
  · obtain ⟨before, after, hcommands, -, hinsert⟩ := exists_insertAfter_eq h
    rw [hinsert, hcommands]
    simp only [List.count_append, List.count_cons]
    omega
  · rw [insertAfter_eq_self h]
    exact Nat.le_add_left _ _

namespace TablePlan

variable {plan : TablePlan}

/-- The plan with the commands that it implies in a mode written out. -/
def expanded (plan : TablePlan) (mode : IdentityMode) : TablePlan :=
  { plan with commands := plan.allCommands mode }

/-! ## What an expansion leaves to be implied -/

/-- An expansion neither creates nor drops a table. -/
theorem mem_allCommands_iff {command : TableCommand} (h : command = .create ∨ command = .drop)
    (mode : IdentityMode) : command ∈ plan.allCommands mode ↔ command ∈ plan.commands := by
  have hadd : command ∈ plan.withImpliedAdd ↔ command ∈ plan.commands :=
    mem_withImpliedAdd (by rcases h with rfl | rfl <;> simp)
  cases mode with
  | native => exact hadd
  | emulated =>
      rw [allCommands, mem_withImpliedRemoval (by rcases h with rfl | rfl <;> simp),
        mem_withImpliedGenerator (by rcases h with rfl | rfl <;> simp)
          (by rcases h with rfl | rfl <;> simp), hadd]

theorem withImpliedAdd_expanded (plan : TablePlan) (mode : IdentityMode) :
    (plan.expanded mode).withImpliedAdd = plan.allCommands mode := by
  by_cases hcolumns : plan.columns = []
  · simp [withImpliedAdd, expanded, hcolumns]
  · obtain ⟨definer, hdefiner, hmem⟩ := exists_definer hcolumns mode
    simp only [List.mem_cons, List.not_mem_nil, or_false] at hdefiner
    rcases hdefiner with rfl | rfl <;> simp [withImpliedAdd, isCreating, expanded, hmem]

/-- The generator of a created table is set up, by the plan or for it. -/
theorem createGenerator_mem_of_create_mem {column : Column}
    (hserial : plan.serialColumn? = some column)
    (hcreate : .create ∈ plan.allCommands .emulated) :
    .createGenerator ∈ plan.allCommands .emulated := by
  by_cases hgenerator : TableCommand.createGenerator ∈ plan.commands
  · exact mem_allCommands_of_mem hgenerator .emulated
  · obtain ⟨before, after, hcommands, -⟩ :=
      exists_setup ((mem_allCommands_iff (.inl rfl) _).mp hcreate) hserial hgenerator
    simp [hcommands]

/-- The generator of a dropped table is removed, by the plan or for it. -/
theorem dropGenerator_mem_of_drop_mem (hdrop : .drop ∈ plan.allCommands .emulated) :
    .dropGenerator ∈ plan.allCommands .emulated := by
  by_cases hremoval : TableCommand.dropGenerator ∈ plan.commands
  · exact mem_allCommands_of_mem hremoval .emulated
  · obtain ⟨before, after, hcommands, -⟩ :=
      exists_removal ((mem_allCommands_iff (.inr rfl) _).mp hdrop) hremoval
    simp [hcommands]

theorem withImpliedGenerator_allCommands (plan : TablePlan) :
    plan.withImpliedGenerator (plan.allCommands .emulated) = plan.allCommands .emulated := by
  unfold withImpliedGenerator
  cases hserial : plan.serialColumn? with
  | none => rfl
  | some column =>
      by_cases hcreate : TableCommand.create ∈ plan.allCommands .emulated
      · simp [createGenerator_mem_of_create_mem hserial hcreate]
      · simp [insertAfter_eq_self hcreate]

theorem withImpliedRemoval_allCommands (plan : TablePlan) :
    withImpliedRemoval (plan.allCommands .emulated) = plan.allCommands .emulated := by
  unfold withImpliedRemoval
  by_cases hdrop : TableCommand.drop ∈ plan.allCommands .emulated
  · simp [dropGenerator_mem_of_drop_mem hdrop]
  · simp [insertAfter_eq_self hdrop]

/-! ## Two expansions -/

/-- Two expansions come to one, which is the emulated one if either of them is. -/
theorem allCommands_allCommands (plan : TablePlan) (mode mode' : IdentityMode) :
    (plan.expanded mode).allCommands mode' =
      if mode = .emulated ∨ mode' = .emulated then plan.allCommands .emulated
      else plan.allCommands .native := by
  have hgenerator : (plan.expanded mode).withImpliedGenerator = plan.withImpliedGenerator := rfl
  cases mode' with
  | native =>
      rw [allCommands, withImpliedAdd_expanded]
      cases mode <;> rfl
  | emulated =>
      rw [if_pos (.inr rfl), allCommands, withImpliedAdd_expanded, hgenerator]
      cases mode with
      | native => rfl
      | emulated => rw [withImpliedGenerator_allCommands, withImpliedRemoval_allCommands]

/-- All that a plan can imply. -/
theorem exists_implied_sublist (plan : TablePlan) (mode : IdentityMode) :
    ∃ column, plan.impliedRemoval mode ++ (plan.impliedSetup mode ++ plan.impliedAdd) <+
      [.dropGenerator, .createGenerator, .generatorTrigger column, .add] := by
  have hremoval : plan.impliedRemoval mode <+ [.dropGenerator] := by
    unfold impliedRemoval
    split <;> simp
  have hadd : plan.impliedAdd <+ [.add] := by
    unfold impliedAdd
    split <;> simp
  obtain ⟨column, hsetup⟩ :
      ∃ column, plan.impliedSetup mode <+ [.createGenerator, .generatorTrigger column] := by
    unfold impliedSetup
    split
    · next column _ =>
        refine ⟨column.name, ?_⟩
        split <;> simp
    · exact ⟨"", List.nil_sublist _⟩
  exact ⟨column, hremoval.append (hsetup.append hadd)⟩

/-- No command is implied more than once. -/
theorem count_allCommands_le (plan : TablePlan) (mode : IdentityMode) (command : TableCommand) :
    (plan.allCommands mode).count command ≤ plan.commands.count command + 1 := by
  obtain ⟨column, hsublist⟩ := plan.exists_implied_sublist mode
  have hnodup : (plan.impliedRemoval mode ++ (plan.impliedSetup mode ++ plan.impliedAdd)).Nodup :=
    List.Nodup.sublist hsublist (by simp)
  have himplied := List.nodup_iff_count_le_one.mp hnodup command
  simp only [List.count_append] at himplied
  rw [allCommands_eq_insertAfter]
  calc
    (insertAfter .drop (plan.impliedRemoval mode) (insertAfter .create (plan.impliedSetup mode)
        (plan.impliedAdd ++ plan.commands))).count command ≤
        (plan.impliedRemoval mode).count command + (insertAfter .create (plan.impliedSetup mode)
          (plan.impliedAdd ++ plan.commands)).count command := count_insertAfter_le _ _ _ _
    _ ≤ (plan.impliedRemoval mode).count command + ((plan.impliedSetup mode).count command +
          (plan.impliedAdd ++ plan.commands).count command) :=
      Nat.add_le_add_left (count_insertAfter_le _ _ _ _) _
    _ ≤ plan.commands.count command + 1 := by
      rw [List.count_append]
      omega

theorem compile_expanded (settings : Settings) (mode : IdentityMode) (command : TableCommand) :
    (plan.expanded mode).compile settings command = plan.compile settings command := by
  cases command <;> rfl

theorem statements_expanded {settings : Settings} {mode : IdentityMode}
    (h : mode = .native ∨ mode = plan.mode settings) :
    (plan.expanded mode).statements settings = plan.statements settings := by
  have hcommands : (plan.expanded mode).allCommands (plan.mode settings) =
      plan.allCommands (plan.mode settings) := by
    rw [allCommands_allCommands]
    rcases h with rfl | rfl <;> cases plan.mode settings <;> rfl
  have hcompile : (plan.expanded mode).compile settings = plan.compile settings :=
    funext (compile_expanded settings mode)
  calc
    (plan.expanded mode).statements settings =
        ((plan.expanded mode).allCommands (plan.mode settings)).mapM
          ((plan.expanded mode).compile settings) := rfl
    _ = plan.statements settings := by rw [hcommands, hcompile, statements]

/-- Expanding a plan twice comes to expanding it once, in emulated mode if either
expansion is in it, and over both no command is implied more than once.  A plan with its
implied commands written out compiles to the statements of the plan. -/
theorem allCommands_expanded (plan : TablePlan) :
    (∀ mode mode' : IdentityMode, (plan.expanded mode).allCommands mode' =
      if mode = .emulated ∨ mode' = .emulated then plan.allCommands .emulated
      else plan.allCommands .native) ∧
    (∀ (mode mode' : IdentityMode) (command : TableCommand),
      ((plan.expanded mode).allCommands mode').count command ≤
        plan.commands.count command + 1) ∧
    ∀ settings : Settings,
      (plan.expanded .native).statements settings = plan.statements settings ∧
      (plan.expanded (plan.mode settings)).statements settings = plan.statements settings := by
  refine ⟨plan.allCommands_allCommands, ?_, ?_⟩
  · intro mode mode' command
    rw [allCommands_allCommands]
    split <;> exact plan.count_allCommands_le _ command
  · intro settings
    exact ⟨statements_expanded (.inl rfl), statements_expanded (.inr rfl)⟩

/-- The removal is written out behind one of two drops, and the setup is partly there. -/
example :
    let plan : TablePlan :=
      { table := "orders", columns := [.increments "id"]
        commands := [.drop, .generatorTrigger "id", .create, .drop] }
    ((plan.expanded .native).expanded .emulated).allCommands .native =
      [.drop, .dropGenerator, .generatorTrigger "id", .create, .createGenerator,
        .generatorTrigger "id", .drop] := by
  decide

end TablePlan

end SchemaDdl
