import SchemaDdl.Proofs.Compilation.Forms
import SchemaDdl.Proofs.Reading.Number

/-!
# What altering a sequence does

The statement that alters a sequence is read back by the grammar of the dialect, a name
with at most a clause to restart and a clause for the step behind it, and its clauses are
given their meaning: an `Alteration` takes every state of a generator to the next.

The step is written only where it is not 1, so an alteration brings the value of every
generator to what the plan says, and its step unless the plan counts by 1.
-/

namespace SchemaDdl

open Reading

/-- The state of a generator. -/
@[ext]
structure Generator where
  /-- The value that the generator was created with. -/
  initial : Int
  value : Int
  increment : Int
deriving DecidableEq, Repr

/-- The clauses of a statement that alters a sequence. -/
structure Alteration where
  /-- Restart, with the value if one is given. -/
  restart : Option (Option Int) := none
  increment : Option Int := none
deriving DecidableEq, Repr

namespace Alteration

/-- What the clauses make of a generator. -/
def apply (alteration : Alteration) (generator : Generator) : Generator where
  initial := generator.initial
  value :=
    match alteration.restart with
    | some start => start.getD generator.initial
    | none => generator.value
  increment := alteration.increment.getD generator.increment

end Alteration

/-- Reads a clause that restarts a sequence. -/
def readRestart (tokens : List Token) : Option (Option Int × List Token) :=
  (readWords " RESTART".toList tokens).map (optionally (readSetting " WITH "))

/-- The sequence that a statement alters, and the clauses. -/
def readAlteration (text : String) : Option (Name × Alteration) :=
  match Form.read (naming "ALTER SEQUENCE ") (scan text.toList) with
  | some ([.name sequence], tokens) =>
    let (restart, tokens) := optionally readRestart tokens
    let (increment, tokens) := optionally (readSetting " INCREMENT BY ") tokens
    if tokens = [] then some (sequence, { restart, increment }) else none
  | _ => none

theorem readRestart_tokens (sql : Sql) :
    readRestart (Sql.tokens (.plain " RESTART" :: sql)) =
      some (optionally (readSetting " WITH ") (Sql.tokens sql)) :=
  congrArg (Option.map (optionally (readSetting " WITH ")))
    (readWords_bare " RESTART".toList (Sql.tokens sql))

namespace SequencePlan

variable {settings : Settings} {plan : SequencePlan}

/-- The clauses of a plan's alteration. -/
def alteration (plan : SequencePlan) : Alteration where
  restart := if plan.restart then some (plan.start.map Int64.toInt) else none
  increment := if plan.increment = 1 then none else some plan.increment.toInt

theorem optionally_incrementClause (plan : SequencePlan) :
    optionally (readSetting " INCREMENT BY ") (Sql.tokens plan.incrementClause) =
      (plan.alteration.increment, []) := by
  unfold incrementClause alteration
  by_cases hone : plan.increment = 1
  · rw [if_pos hone, if_pos hone]
    exact optionally_of_none rfl
  · have hend : EndsNumber (Sql.tokens []) := by
      rintro c ⟨⟩
    rw [if_neg hone, if_neg hone]
    exact optionally_of_some (readSetting_tokens _ _ hend)

/-- The clause for the step goes on neither with a number nor with a restart. -/
theorem tokens_incrementClause (plan : SequencePlan) :
    EndsNumber (Sql.tokens plan.incrementClause) ∧
      readSetting " WITH " (Sql.tokens plan.incrementClause) = none ∧
      readRestart (Sql.tokens plan.incrementClause) = none := by
  unfold incrementClause
  split
  · exact ⟨fun c hc => absurd hc (by simp), rfl, rfl⟩
  · refine ⟨?_, rfl, rfl⟩
    rintro c ⟨⟩
    rfl

theorem optionally_restartClause (plan : SequencePlan) :
    optionally readRestart (Sql.tokens (plan.restartClause ++ plan.incrementClause)) =
      (plan.alteration.restart, Sql.tokens plan.incrementClause) := by
  obtain ⟨hend, hwith, hrestart⟩ := plan.tokens_incrementClause
  unfold restartClause alteration
  cases plan.restart with
  | false => exact optionally_of_none hrestart
  | true =>
      cases plan.start with
      | none =>
          have hread := readRestart_tokens plan.incrementClause
          rw [optionally_of_none hwith] at hread
          exact optionally_of_some hread
      | some start =>
          have hread := readRestart_tokens
            (.plain " WITH " :: .integer start.toInt :: plan.incrementClause)
          rw [optionally_of_some (readSetting_tokens _ _ hend)] at hread
          exact optionally_of_some hread

/-- The alteration of a plan is read back from its statement. -/
theorem readAlteration_compileNamed (settings : Settings) (plan : SequencePlan) :
    readAlteration (plan.compileNamed settings .alter).text =
      some (plan.name settings, plan.alteration) := by
  have hsql : (plan.compileNamed settings .alter).sql = .plain "ALTER SEQUENCE " ::
      .name (plan.name settings) :: (plan.restartClause ++ plan.incrementClause) := by
    simp [compileNamed, Statement.sql]
  have hcontent := plan.content_compileNamed settings .alter
  rw [hsql] at hcontent
  rw [readAlteration, Statement.text, hsql, read_naming_text hcontent]
  simp only [optionally_restartClause, optionally_incrementClause, if_true]

end SequencePlan

/-- Altering a sequence takes every generator to the value that the plan tells, and to its
step unless that is 1, in which case the generator keeps its own. -/
theorem alteration_brings_generator {settings : Settings} {plan : SequencePlan}
    (hname : plan.sequence ≠ "") :
    ∃ statement alteration, plan.compile settings .alter = .ok statement ∧
      readAlteration statement.text = some (plan.name settings, alteration) ∧
      (plan.restart = true ∨ plan.increment ≠ 1 →
        alteration.restart.isSome = true ∨ alteration.increment.isSome = true) ∧
      ∀ generator : Generator,
        (alteration.apply generator).value =
          (if plan.restart then (plan.start.map Int64.toInt).getD generator.initial
            else generator.value) ∧
        (alteration.apply generator).increment =
          (if plan.increment = 1 then generator.increment else plan.increment.toInt) := by
  have hcompiles : plan.compile settings .alter = .ok (plan.compileNamed settings .alter) :=
    SequencePlan.compile_eq_ok_iff.mpr ⟨hname, rfl⟩
  refine ⟨_, plan.alteration, hcompiles, plan.readAlteration_compileNamed settings, ?_, ?_⟩
  · rintro (hrestart | hincrement)
    · exact .inl (by simp [SequencePlan.alteration, hrestart])
    · exact .inr (by simp [SequencePlan.alteration, hincrement])
  · intro generator
    constructor
    · cases hrestart : plan.restart <;>
        simp [SequencePlan.alteration, Alteration.apply, hrestart]
    · by_cases hone : plan.increment = 1 <;>
        simp [SequencePlan.alteration, Alteration.apply, hone]

/-- A sequence whose name looks like a clause, counted down from the least value. -/
theorem alteration_brings_generator_of_least_start :
    let settings : Settings := { tablePrefix := "app_" }
    let plan : SequencePlan :=
      { sequence := "no\" RESTART WITH 5", start := some Int64.minValue, increment := -3
        restart := true }
    ∃ statement alteration, plan.compile settings .alter = .ok statement ∧
      readAlteration statement.text = some (plan.name settings, alteration) ∧
      alteration.apply { initial := 0, value := 7, increment := 1 } =
        { initial := 0, value := -9223372036854775808, increment := -3 } := by
  intro settings plan
  have hname : plan.sequence ≠ "" := by decide
  obtain ⟨statement, alteration, hcompiles, hread, -, happly⟩ :=
    @alteration_brings_generator settings plan hname
  obtain ⟨hvalue, hincrement⟩ := happly { initial := 0, value := 7, increment := 1 }
  refine ⟨statement, alteration, hcompiles, hread, ?_⟩
  exact Generator.ext rfl (hvalue.trans (by decide)) (hincrement.trans (by decide))

/-- The statement may have no clause, and a generator may keep a step that is not the
plan's. -/
theorem alteration_keeps_increment :
    let settings : Settings := {}
    let plain : SequencePlan := { sequence := "invoice_no" }
    let restarted : SequencePlan := { sequence := "invoice_no", restart := true }
    (∃ statement, plain.compile settings .alter = .ok statement ∧
      readAlteration statement.text =
        some (plain.name settings, { restart := none, increment := none })) ∧
    ∃ statement alteration, restarted.compile settings .alter = .ok statement ∧
      readAlteration statement.text = some (restarted.name settings, alteration) ∧
      (alteration.apply { initial := 0, value := 0, increment := 5 }).increment ≠
        restarted.increment.toInt := by
  intro settings plain restarted
  exact ⟨⟨_, rfl, by decide⟩, _, { restart := some none }, rfl, by decide, by decide⟩

end SchemaDdl
