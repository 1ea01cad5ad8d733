import SchemaDdl.Proofs.Identifier.Segments
import SchemaDdl.Proofs.Sequence.Alteration

/-!
# What the statements on a sequence agree on

The statements that create, alter and drop a sequence name it by the same identifier, and
the block that drops it as far as it exists executes the text of its drop.

The creation leaves out the first value 0 and the step 1, which every sequence has unless
told otherwise.  Nothing is lost by that: read with these two defaults, the statement gives
back the name, the first value and the step (`SequencePlan.readSequence_compileNamed`).
-/

namespace SchemaDdl

open Reading

/-- The statement opens with some words and an identifier directly behind them. -/
structure Statement.Mentions (statement : Statement) (words : String) (name : Name) : Prop where
  written : words.toList ++ name.chars <+: statement.text.toList
  opens : (naming words).Opens statement.text [.name name]

/-- A sequence as the statement that creates it tells. -/
structure CreatedSequence where
  name : Name
  start : Int
  increment : Int
deriving DecidableEq, Repr

/-- The sequence that a statement creates.  A clause that is left out stands for its
default. -/
def readSequence (text : String) : Option CreatedSequence :=
  match Form.read (naming "CREATE SEQUENCE ") (scan text.toList) with
  | some ([.name name], tokens) =>
    let (start, tokens) := optionally (readSetting " START WITH ") tokens
    let (increment, tokens) := optionally (readSetting " INCREMENT BY ") tokens
    if tokens = [] then some { name, start := start.getD 0, increment := increment.getD 1 }
    else none
  | _ => none

namespace SequencePlan

variable {settings : Settings} {plan : SequencePlan}

/-! ## The identifier -/

/-- Every statement but the guarded block mentions the sequence by its name. -/
theorem mentions_compileNamed (settings : Settings) (plan : SequencePlan)
    {command : SequenceCommand} (hcommand : command ≠ .dropIfExists) :
    (plan.compileNamed settings command).Mentions (openingWords command)
      (plan.name settings) := by
  obtain ⟨tail, htail⟩ : ∃ tail, (plan.compileNamed settings command).sql =
      .plain (openingWords command) :: .name (plan.name settings) :: tail := by
    cases command with
    | create | alter => exact ⟨_, rfl⟩
    | drop => exact ⟨[], rfl⟩
    | dropIfExists => exact absurd rfl hcommand
  have hregular := (plan.content_compileNamed settings command).regular
  rw [htail] at hregular
  refine ⟨?_, ?_⟩
  · rw [Statement.text, Sql.toList_text, htail, Sql.chars_cons, Sql.chars_cons,
      ← List.append_assoc]
    exact List.prefix_append _ _
  · rw [Statement.text, htail]
    exact opens_naming hregular

/-- The block executes the text of the drop. -/
theorem executed_dropIfExists (settings : Settings) (plan : SequencePlan) :
    executed (scan (plan.compileNamed settings .dropIfExists).text.toList) =
      [(plan.compileNamed settings .drop).text.toList] := by
  have hcontent := plan.content_compileNamed settings .dropIfExists
  rw [Statement.text, Sql.toList_text, hcontent.executed_scan (by simp), Statement.text,
    Sql.toList_text]
  rfl

/-! ## The first value and the step -/

/-- No first value and the first value 0 are the same to the clause. -/
theorem startClause_eq (plan : SequencePlan) :
    plan.startClause = if plan.start.getD 0 = 0 then []
      else [.plain " START WITH ", .integer (plan.start.getD 0).toInt] := by
  unfold startClause
  cases plan.start with
  | none => rfl
  | some start => rfl

theorem readSetting_start_incrementClause (plan : SequencePlan) :
    readSetting " START WITH " (Sql.tokens plan.incrementClause) = none := by
  unfold incrementClause
  split <;> rfl

theorem optionally_startClause (plan : SequencePlan) :
    ∃ start, optionally (readSetting " START WITH ")
        (Sql.tokens (plan.startClause ++ plan.incrementClause)) =
          (start, Sql.tokens plan.incrementClause) ∧
      start.getD 0 = (plan.start.getD 0).toInt := by
  rw [startClause_eq]
  by_cases hzero : plan.start.getD 0 = 0
  · rw [if_pos hzero, hzero]
    exact ⟨none, optionally_of_none plan.readSetting_start_incrementClause, rfl⟩
  · rw [if_neg hzero]
    obtain ⟨hend, -, -⟩ := plan.tokens_incrementClause
    exact ⟨_, optionally_of_some (readSetting_tokens _ _ hend), rfl⟩

/-- The name, the first value and the step are read back from the creation. -/
theorem readSequence_compileNamed (settings : Settings) (plan : SequencePlan) :
    readSequence (plan.compileNamed settings .create).text =
      some {
        name := plan.name settings
        start := (plan.start.getD 0).toInt
        increment := plan.increment.toInt } := by
  have hsql : (plan.compileNamed settings .create).sql = .plain "CREATE SEQUENCE " ::
      .name (plan.name settings) :: (plan.startClause ++ plan.incrementClause) := by
    simp [compileNamed, Statement.sql]
  have hcontent := plan.content_compileNamed settings .create
  rw [hsql] at hcontent
  obtain ⟨start, hstart, hvalue⟩ := plan.optionally_startClause
  have hincrement : plan.alteration.increment.getD 1 = plan.increment.toInt := by
    by_cases hone : plan.increment = 1 <;> simp [alteration, hone]
  rw [readSequence, Statement.text, hsql, read_naming_text hcontent]
  simp only [hstart, optionally_incrementClause, if_true, hvalue, hincrement]

/-- The creation shows of a sequence its name, its first value and its step. -/
theorem creation_text_eq_iff {settings' : Settings} {plan' : SequencePlan} :
    (plan.compileNamed settings .create).text = (plan'.compileNamed settings' .create).text ↔
      keptSegments (settings.tablePrefix ++ plan.sequence) =
          keptSegments (settings'.tablePrefix ++ plan'.sequence) ∧
        plan.start.getD 0 = plan'.start.getD 0 ∧ plan.increment = plan'.increment := by
  constructor
  · intro htext
    have hread := plan.readSequence_compileNamed settings
    rw [htext, readSequence_compileNamed] at hread
    obtain ⟨hname, hstart, hincrement⟩ := CreatedSequence.mk.inj (Option.some.inj hread)
    exact ⟨(Name.ofString_eq_iff.mp hname).symm, (Int64.toInt_inj.mp hstart).symm,
      (Int64.toInt_inj.mp hincrement).symm⟩
  · rintro ⟨hsegments, hstart, hincrement⟩
    have hname : plan.name settings = plan'.name settings' := Name.ofString_eq_iff.mpr hsegments
    rw [compileNamed, compileNamed, hname, startClause_eq, startClause_eq, hstart, incrementClause,
      incrementClause, hincrement]

end SequencePlan

/-- The statements on a sequence name it by one identifier, the guarded block executes the
drop, and the creation tells exactly the name, the first value and the step. -/
theorem sequence_statements_agree {settings : Settings} {plan : SequencePlan}
    (hname : plan.sequence ≠ "") :
    ∃ creation alteration removal script,
      plan.compile settings .create = .ok creation ∧
      plan.compile settings .alter = .ok alteration ∧
      plan.compile settings .drop = .ok removal ∧
      plan.compile settings .dropIfExists = .ok script ∧
      creation.Mentions "CREATE SEQUENCE " (plan.name settings) ∧
      alteration.Mentions "ALTER SEQUENCE " (plan.name settings) ∧
      removal.Mentions "DROP SEQUENCE " (plan.name settings) ∧
      executed (scan script.text.toList) = [removal.text.toList] ∧
      readSequence creation.text = some {
        name := plan.name settings
        start := (plan.start.getD 0).toInt
        increment := plan.increment.toInt } ∧
      ∀ (settings' : Settings) (plan' : SequencePlan) (creation' : Statement),
        plan'.compile settings' .create = .ok creation' →
        (creation.text = creation'.text ↔
          keptSegments (settings.tablePrefix ++ plan.sequence) =
              keptSegments (settings'.tablePrefix ++ plan'.sequence) ∧
            plan.start.getD 0 = plan'.start.getD 0 ∧ plan.increment = plan'.increment) := by
  have hcompiles : ∀ command, plan.compile settings command =
      .ok (plan.compileNamed settings command) := fun _ =>
    SequencePlan.compile_eq_ok_iff.mpr ⟨hname, rfl⟩
  refine ⟨_, _, _, _, hcompiles .create, hcompiles .alter, hcompiles .drop,
    hcompiles .dropIfExists, plan.mentions_compileNamed settings (by decide),
    plan.mentions_compileNamed settings (by decide),
    plan.mentions_compileNamed settings (by decide), plan.executed_dropIfExists settings,
    plan.readSequence_compileNamed settings, ?_⟩
  intro settings' plan' creation' hcompile'
  obtain ⟨-, rfl⟩ := SequencePlan.compile_eq_ok_iff.mp hcompile'
  exact SequencePlan.creation_text_eq_iff

/-- Two names that hold a clause and differ behind the cut; one sequence starts at 0 because
it says so, the other because it says nothing. -/
theorem sequence_statements_agree_of_clause_in_name :
    let settings : Settings := { tablePrefix := "app_" }
    let plan : SequencePlan :=
      { sequence := "invoices\" START WITH 5 of 2024", start := some 0
        increment := Int64.minValue }
    let plan' : SequencePlan :=
      { sequence := "invoices\" START WITH 5 of 2025", increment := Int64.minValue }
    plan.sequence ≠ "" ∧ ∃ creation creation', plan.compile settings .create = .ok creation ∧
      plan'.compile settings .create = .ok creation' ∧
      readSequence creation.text = some {
        name := [.delimited "app_invoices\" START WITH 5 of 2".toList]
        start := 0
        increment := -9223372036854775808 } ∧
      creation.text = creation'.text := by
  intro settings plan plan'
  have hname : plan.sequence ≠ "" := by decide
  obtain ⟨creation, -, -, -, hcreation, -, -, -, -, -, -, -, hread, htexts⟩ :=
    @sequence_statements_agree settings plan hname
  have hshown : plan.name settings =
      [.delimited "app_invoices\" START WITH 5 of 2".toList] := by decide
  rw [hshown] at hread
  exact ⟨hname, creation, _, hcreation, rfl, hread,
    (htexts settings plan' _ rfl).mpr (by decide)⟩

end SchemaDdl
