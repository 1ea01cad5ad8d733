import Mathlib.Tactic.Tauto
import SchemaDdl.Table.Basic

/-!
# Where implied commands stand

In emulated mode a plan that creates a table with a serial column sets up the
generator and the trigger directly behind the first creation
(`TablePlan.exists_setup`), and a plan that drops a table removes them directly
behind the first drop (`TablePlan.exists_removal`).

Each insertion might separate what another one put together.  It does not: an
insertion changes a list only behind its own target
(`exists_insertAfter_append`).
-/

namespace SchemaDdl

variable {target command : TableCommand} {extra commands : List TableCommand}

theorem insertAfter_append_of_mem (h : target ∈ commands) (after : List TableCommand) :
    insertAfter target extra (commands ++ after) =
      insertAfter target extra commands ++ after := by
  induction commands with
  | nil => exact absurd h List.not_mem_nil
  | cons first commands ih =>
      rw [List.cons_append, insertAfter, insertAfter]
      by_cases hfirst : first = target
      · simp [hfirst]
      · have hcommands : target ∈ commands :=
          (List.mem_cons.mp h).resolve_left (Ne.symm hfirst)
        rw [if_neg hfirst, if_neg hfirst, ih hcommands, List.cons_append]

theorem insertAfter_append_of_not_mem (h : target ∉ commands) (after : List TableCommand) :
    insertAfter target extra (commands ++ after) =
      commands ++ insertAfter target extra after := by
  induction commands with
  | nil => rfl
  | cons first commands ih =>
      obtain ⟨hfirst, hcommands⟩ := List.ne_and_not_mem_of_not_mem_cons h
      rw [List.cons_append, insertAfter, if_neg (Ne.symm hfirst), ih hcommands,
        List.cons_append]

theorem insertAfter_eq_self (h : target ∉ commands) :
    insertAfter target extra commands = commands := by
  have happend : insertAfter target extra (commands ++ []) =
      commands ++ insertAfter target extra [] := insertAfter_append_of_not_mem h []
  simpa [insertAfter] using happend

/-- The insertion stands behind the first occurrence of its target. -/
theorem exists_insertAfter_eq (h : target ∈ commands) :
    ∃ before after, commands = before ++ target :: after ∧ target ∉ before ∧
      insertAfter target extra commands = before ++ target :: (extra ++ after) := by
  obtain ⟨before, after, rfl, hbefore⟩ := List.eq_append_cons_of_mem h
  refine ⟨before, after, rfl, hbefore, ?_⟩
  rw [insertAfter_append_of_not_mem hbefore, insertAfter, if_pos rfl, List.cons_append]

theorem mem_insertAfter :
    command ∈ insertAfter target extra commands ↔
      command ∈ commands ∨ target ∈ commands ∧ command ∈ extra := by
  by_cases h : target ∈ commands
  · obtain ⟨before, after, hcommands, -, hinsert⟩ := exists_insertAfter_eq h
    rw [hinsert]
    have hmem : command ∈ commands ↔ command ∈ before ++ target :: after := by
      rw [hcommands]
    simp only [List.mem_append, List.mem_cons] at hmem ⊢
    tauto
  · rw [insertAfter_eq_self h]
    tauto

/-- An insertion leaves commands together that its target is not among. -/
theorem exists_insertAfter_append {block : List TableCommand} (hblock : target ∉ block)
    (extra before after : List TableCommand) :
    ∃ before' after', insertAfter target extra (before ++ (block ++ after)) =
        before' ++ (block ++ after') ∧
      ∀ command ∈ before', command ∈ before ∨ command ∈ extra := by
  by_cases hbefore : target ∈ before
  · refine ⟨insertAfter target extra before, after, insertAfter_append_of_mem hbefore _, ?_⟩
    intro command hcommand
    exact (mem_insertAfter.mp hcommand).imp_right And.right
  · refine ⟨before, insertAfter target extra after, ?_, fun command hcommand => Or.inl hcommand⟩
    rw [insertAfter_append_of_not_mem hbefore, insertAfter_append_of_not_mem hblock]

namespace TablePlan

variable {plan : TablePlan} {column : Column}

/-- Behind the first creation of a table with a serial column stand the commands
that set up its generator and its trigger. -/
theorem exists_setup (hcreate : .create ∈ plan.commands)
    (hserial : plan.serialColumn? = some column)
    (hgenerator : .createGenerator ∉ plan.commands) :
    ∃ before after, plan.allCommands .emulated = before ++
        ([.create, .createGenerator, .generatorTrigger column.name] ++ after) ∧
      .create ∉ before := by
  have hadd : plan.withImpliedAdd = plan.commands := by
    simp [withImpliedAdd, isCreating, hcreate]
  have hsetup : plan.withImpliedGenerator plan.commands =
      insertAfter .create [.createGenerator, .generatorTrigger column.name]
        plan.commands := by
    simp [withImpliedGenerator, hserial, hgenerator]
  obtain ⟨before, after, -, hbefore, hinsert⟩ := exists_insertAfter_eq hcreate
  rw [allCommands, hadd, hsetup, hinsert, withImpliedRemoval]
  split
  · exact ⟨before, after, rfl, hbefore⟩
  · have hblock : TableCommand.drop ∉
        [.create, .createGenerator, .generatorTrigger column.name] := by simp
    obtain ⟨before', after', heq, hbefore'⟩ :=
      exists_insertAfter_append hblock [.dropGenerator] before after
    refine ⟨before', after', heq, ?_⟩
    intro hmem
    rcases hbefore' _ hmem with h | h
    · exact hbefore h
    · simp at h

theorem mem_withImpliedAdd {command : TableCommand} (h : command ≠ .add) :
    command ∈ plan.withImpliedAdd ↔ command ∈ plan.commands := by
  unfold withImpliedAdd
  split <;> simp [h]

theorem mem_withImpliedGenerator {command : TableCommand} {commands : List TableCommand}
    (hgenerator : command ≠ .createGenerator)
    (htrigger : ∀ column, command ≠ .generatorTrigger column) :
    command ∈ plan.withImpliedGenerator commands ↔ command ∈ commands := by
  unfold withImpliedGenerator
  split
  · rfl
  · split
    · rfl
    · simp [mem_insertAfter, hgenerator, htrigger]

theorem mem_withImpliedRemoval {command : TableCommand} {commands : List TableCommand}
    (hremoval : command ≠ .dropGenerator) :
    command ∈ withImpliedRemoval commands ↔ command ∈ commands := by
  unfold withImpliedRemoval
  split
  · rfl
  · simp [mem_insertAfter, hremoval]

/-- Behind the first drop of a table stands the command that removes its generator. -/
theorem exists_removal (hdrop : .drop ∈ plan.commands)
    (hremoval : .dropGenerator ∉ plan.commands) :
    ∃ before after, plan.allCommands .emulated = before ++
        ([.drop, .dropGenerator] ++ after) ∧
      .drop ∉ before := by
  have hdrop' : .drop ∈ plan.withImpliedGenerator plan.withImpliedAdd := by
    rw [mem_withImpliedGenerator (by simp) (by simp), mem_withImpliedAdd (by simp)]
    exact hdrop
  have hremoval' : .dropGenerator ∉ plan.withImpliedGenerator plan.withImpliedAdd := by
    rw [mem_withImpliedGenerator (by simp) (by simp), mem_withImpliedAdd (by simp)]
    exact hremoval
  obtain ⟨before, after, -, hbefore, hinsert⟩ := exists_insertAfter_eq hdrop'
  refine ⟨before, after, ?_, hbefore⟩
  rw [allCommands, withImpliedRemoval, if_neg (by simpa using hremoval'), hinsert]
  rfl

end TablePlan

end SchemaDdl
