import SchemaDdl.Proofs.Compilation.Forms

/-!
# What an existence check asks for

A guarded drop and the query for the columns of a table ask the catalog for an
object by a literal, and other statements mention the object by a name.  The two
agree if the name is the single delimited identifier that the literal spells
(`Name.Denotes`).

The literal is the source of the name cut as a whole; the name is split at dots
first, a lone star is written bare, and then each part is cut.  So the two agree
exactly if the source holds no dot and is not a lone star
(`Name.denotes_ofString_iff`).
-/

namespace SchemaDdl

open Reading

/-- The name is the single delimited identifier of the object that the catalog
lists under `entry`. -/
def Name.Denotes (name : Name) (entry : String) : Prop := name = [.delimited entry.toList]

theorem not_mem_of_splitOn_eq_singleton {α : Type} [BEq α] [LawfulBEq α] {separator : α}
    {text segment : List α} (h : text.splitOn separator = [segment]) : separator ∉ text := by
  intro hmem
  obtain ⟨before, after, rfl, hbefore⟩ := List.eq_append_cons_of_mem hmem
  rw [List.splitOn_append_cons_self_of_not_mem hbefore] at h
  have hafter : after.splitOn separator = [] := (List.cons.inj h).2
  exact List.splitOn_ne_nil separator after hafter

namespace Name

theorem denotes_ofString_iff {text entry : String} :
    (ofString text).Denotes entry ↔
      '.' ∉ text.toList ∧ text ≠ "*" ∧ entry = cut text := by
  constructor
  · intro h
    obtain ⟨segment, hsplit, hpart⟩ := List.map_eq_singleton_iff.mp h
    have hdot := not_mem_of_splitOn_eq_singleton hsplit
    rw [List.splitOn_eq_singleton hdot] at hsplit
    obtain rfl := (List.cons.inj hsplit).1
    by_cases hstar : text.toList = ['*']
    · rw [NamePart.ofSegment, if_pos hstar] at hpart
      exact NamePart.noConfusion hpart
    · rw [NamePart.ofSegment, if_neg hstar] at hpart
      refine ⟨hdot, ?_, ?_⟩
      · rintro rfl
        exact hstar rfl
      · have hentry := NamePart.delimited.inj hpart
        rw [cut, hentry, String.ofList_toList]
  · rintro ⟨hdot, hstar, rfl⟩
    have hsegment : text.toList ≠ ['*'] := by
      intro h
      exact hstar (String.toList_injective h)
    rw [Denotes, ofString, List.splitOn_eq_singleton hdot, List.map_singleton,
      NamePart.ofSegment, if_neg hsegment, cut, String.toList_ofList]

end Name

theorem cut_cut (text : String) : cut (cut text) = cut text := by
  simp [cut, List.take_take]

/-- A generated name is longer than a star and cut before it is quoted. -/
theorem Name.denotes_ofString_cut_iff {text : String} (h : cut text ≠ "*") :
    (ofString (cut text)).Denotes (cut text) ↔ '.' ∉ (cut text).toList := by
  rw [denotes_ofString_iff, cut_cut]
  simp [h]

/-! ## The three places that ask the catalog -/

/-- What a reader finds in the statements about the trigger and the generator of
a table: the names that create and drop them and the entries that are asked for. -/
structure TablePlan.GuardsGenerator (settings : Settings) (plan : TablePlan)
    (trigger generator : Name) (triggerEntry generatorEntry : String) : Prop where
  script : ∃ script, plan.compile settings .dropGenerator = .ok script ∧
    script.Decodes [⟨.trigger, triggerEntry, trigger⟩, ⟨.generator, generatorEntry, generator⟩]
  generator : ∃ creation, plan.compile settings .createGenerator = .ok creation ∧
    (naming "CREATE SEQUENCE ").Reads creation.text [.name generator]
  trigger : ∀ column ≠ "", ∃ creation values,
    plan.compile settings (.generatorTrigger column) = .ok creation ∧
      triggerForm.Reads creation.text (.name trigger :: values)

/-- What a reader finds in the statements about a sequence. -/
structure SequencePlan.Guards (settings : Settings) (plan : SequencePlan)
    (name : Name) (entry : String) : Prop where
  script : ∃ script, plan.compile settings .dropIfExists = .ok script ∧
    script.Decodes [⟨.generator, entry, name⟩]
  creation : ∃ creation, plan.compile settings .create = .ok creation ∧
    (naming "CREATE SEQUENCE ").Opens creation.text [.name name]
  removal : ∃ removal, plan.compile settings .drop = .ok removal ∧
    (naming "DROP SEQUENCE ").Reads removal.text [.name name]

/-- The form of the query for the columns of a table. -/
def columnProbeForm : Form :=
  [.words "SELECT TRIM(RDB$FIELD_NAME) AS ", .name,
    .words " FROM RDB$RELATION_FIELDS WHERE RDB$RELATION_NAME = ", .literal]

/-- What a reader finds in the query for the columns of a table, and in the
statements that create and drop the table. -/
structure Settings.Probes (settings : Settings) (table : String)
    (name : Name) (entry : String) : Prop where
  query : columnProbeForm.Reads (columnProbe settings table).text
    [.name [.delimited "column_name".toList], .literal entry]
  creation : ∀ (plan : TablePlan) (statement : Statement), plan.table = table →
    plan.compile settings .create = .ok statement →
    ∃ words ∈ tableCreations, (naming words).Opens statement.text [.name name]
  removal : ∀ plan : TablePlan, plan.table = table →
    ∃ statement, plan.compile settings .drop = .ok statement ∧
      (naming "DROP TABLE ").Reads statement.text [.name name]

theorem TablePlan.guardsGenerator (settings : Settings) (plan : TablePlan) :
    plan.GuardsGenerator settings (plan.trigger settings) (plan.generator settings)
      (settings.triggerName plan.table) (settings.generatorName plan.table) where
  script := ⟨_, rfl, plan.dropGenerator_decodes settings⟩
  generator := ⟨_, rfl, reads_generator .createGenerator⟩
  trigger := by
    intro column hcolumn
    have hcompiled : plan.Compiled settings (.generatorTrigger column) _ :=
      .generatorTrigger hcolumn
    exact ⟨_, _, hcompiled.compile, reads_trigger hcompiled⟩

theorem SequencePlan.opens_creation (settings : Settings) (plan : SequencePlan) :
    (naming "CREATE SEQUENCE ").Opens (plan.compileNamed settings .create).text
      [.name (plan.name settings)] :=
  opens_naming (plan.content_compileNamed settings .create).regular

theorem SequencePlan.guards (settings : Settings) {plan : SequencePlan}
    (h : plan.sequence ≠ "") :
    plan.Guards settings (plan.name settings) (settings.catalogName plan.sequence) where
  script := ⟨_, compile_eq_ok_iff.mpr ⟨h, rfl⟩, plan.dropIfExists_decodes settings⟩
  creation := ⟨_, compile_eq_ok_iff.mpr ⟨h, rfl⟩, plan.opens_creation settings⟩
  removal := ⟨_, compile_eq_ok_iff.mpr ⟨h, rfl⟩,
    reads_naming (by decide) (Name.ofString_ne_nil _)⟩

theorem Settings.probes (settings : Settings) (table : String) :
    settings.Probes table (settings.qualified table) (settings.catalogName table) where
  query := by
    refine Form.reads_text ?_ ?_
    · exact .words _ (.name _ (.words _ (.literal _ .nil)))
    · simp +decide [columnProbe, Sql.Regular, Sql.OpensPlain]
  creation := by
    rintro plan statement rfl hstatement
    have hopens := TablePlan.opens_creation (TablePlan.compile_eq_ok_iff.mp hstatement)
    exact ⟨plan.creationWords, plan.creationWords_mem, hopens⟩
  removal := by
    rintro plan rfl
    exact ⟨_, rfl, TablePlan.reads_removal .drop⟩

/-! ## When the entry is the object -/

/-- A generated name does not become a lone star. -/
theorem cut_ne_star {first : Char} (hfirst : first ≠ '*') (text : String) {words : String}
    (hwords : words.toList.head? = some first) : cut (words ++ text) ≠ "*" := by
  intro h
  have hchars := congrArg String.toList h
  rw [cut, String.toList_ofList, String.toList_append] at hchars
  obtain ⟨tail, htail⟩ := List.head?_eq_some_iff.mp hwords
  rw [htail] at hchars
  exact hfirst (List.cons.inj hchars).1

theorem Settings.triggerName_ne_star (settings : Settings) (table : String) :
    settings.triggerName table ≠ "*" := by
  rw [triggerName, String.append_assoc]
  exact cut_ne_star (by decide : 'T' ≠ '*') _ rfl

theorem Settings.generatorName_ne_star (settings : Settings) (table : String) :
    settings.generatorName table ≠ "*" := by
  rw [generatorName, String.append_assoc]
  exact cut_ne_star (by decide : 'G' ≠ '*') _ rfl

/-- Everywhere the catalog is asked for the object that the other statements name,
exactly if no dot splits the name and the name is not a lone star. -/
theorem entry_denotes_named_object_iff (settings : Settings) :
    (∀ plan : TablePlan,
      ∃ trigger generator triggerEntry generatorEntry,
        plan.GuardsGenerator settings trigger generator triggerEntry generatorEntry ∧
        (trigger.Denotes triggerEntry ↔
          '.' ∉ (settings.triggerName plan.table).toList) ∧
        (generator.Denotes generatorEntry ↔
          '.' ∉ (settings.generatorName plan.table).toList)) ∧
    (∀ plan : SequencePlan, plan.sequence ≠ "" →
      ∃ name entry, plan.Guards settings name entry ∧
        (name.Denotes entry ↔ '.' ∉ (settings.tablePrefix ++ plan.sequence).toList ∧
          settings.tablePrefix ++ plan.sequence ≠ "*")) ∧
    (∀ table : String,
      ∃ name entry, settings.Probes table name entry ∧
        (name.Denotes entry ↔ '.' ∉ (settings.tablePrefix ++ table).toList ∧
          settings.tablePrefix ++ table ≠ "*")) := by
  have hqualified : ∀ name : String,
      (settings.qualified name).Denotes (settings.catalogName name) ↔
        '.' ∉ (settings.tablePrefix ++ name).toList ∧ settings.tablePrefix ++ name ≠ "*" := by
    intro name
    rw [Settings.qualified, Settings.catalogName, Name.denotes_ofString_iff, Settings.prefixed]
    simp
  refine ⟨?_, ?_, ?_⟩
  · intro plan
    refine ⟨_, _, _, _, plan.guardsGenerator settings, ?_, ?_⟩
    · exact Name.denotes_ofString_cut_iff (settings.triggerName_ne_star plan.table)
    · exact Name.denotes_ofString_cut_iff (settings.generatorName_ne_star plan.table)
  · intro plan hsequence
    exact ⟨_, _, SequencePlan.guards settings hsequence, hqualified plan.sequence⟩
  · intro table
    exact ⟨_, _, settings.probes table, hqualified table⟩

theorem entry_denotes_named_object_of_quoted_sequence :
    let plan : SequencePlan := { sequence := "it\"s" }
    plan.sequence ≠ "" ∧ ∃ name entry, plan.Guards {} name entry ∧ name.Denotes entry := by
  intro plan
  have hsequence : plan.sequence ≠ "" := by decide
  obtain ⟨name, entry, hguards, hdenotes⟩ :=
    (entry_denotes_named_object_iff {}).2.1 plan hsequence
  exact ⟨hsequence, name, entry, hguards, hdenotes.mpr (by decide)⟩

/-- The guard of a sequence with a dot in its name asks for one object and the drop
behind it names two. -/
theorem entry_of_dotted_sequence_not_denoted :
    let plan : SequencePlan := { sequence := "a.b" }
    ∃ script, plan.compile {} .dropIfExists = .ok script ∧
      script.Decodes [⟨.generator, "a.b", [.delimited ['a'], .delimited ['b']]⟩] ∧
      ¬Name.Denotes [.delimited ['a'], .delimited ['b']] "a.b" := by
  intro plan
  have hentry : Settings.catalogName {} "a.b" = "a.b" := by decide
  have hname : Settings.qualified {} "a.b" = [.delimited ['a'], .delimited ['b']] := by decide
  have hdecodes := plan.dropIfExists_decodes {}
  rw [SequencePlan.decodedDrop, SequencePlan.name, hentry, hname] at hdecodes
  exact ⟨_, rfl, hdecodes, by simp [Name.Denotes]⟩

end SchemaDdl
