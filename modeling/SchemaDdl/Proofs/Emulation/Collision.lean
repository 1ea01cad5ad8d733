import SchemaDdl.Proofs.Compilation.Payload
import SchemaDdl.Proofs.Emulation.Completeness

/-!
# When two tables share an emulation object

The generator and the trigger of a table are named by fixed words around the prefixed
name of the table, and the name is cut as a whole.  So the cut may reach into the words
that close the name, and even tables whose names differ in length can share an object:
exactly those that agree, closing words included, on what the opening words leave of the
limit (`emulation_names_eq_iff`).

Tables whose prefixed names leave room for the closing words share nothing.  Then no
statement about the one drops an object of the other, neither by itself nor by a literal
that it executes (`Statement.Drops`).
-/

namespace SchemaDdl

open Reading

/-- The statement, or a literal that it executes, drops an object of some kind. -/
def Statement.Drops (statement : Statement) (object : CatalogObject) (name : Name) : Prop :=
  ∃ text ∈ statement.text.toList :: executed (scan statement.text.toList),
    Form.read (naming object.dropWords) (scan text) = some ([.name name], [])

/-- A drop is read back to the kind of its object and to its name. -/
theorem read_drop_inj {object object' : CatalogObject} {name name' : Name} (hname : name ≠ [])
    (h : Form.read (naming object'.dropWords)
      (scan (Sql.chars [.plain object.dropWords, .name name])) = some ([.name name'], [])) :
    object = object' ∧ name = name' := by
  have hread := reads_naming object.keywords_dropWords hname
  rw [Form.Reads, Sql.toList_text] at hread
  have hexcludes : ∀ object object' : CatalogObject, object ≠ object' →
      (naming object.dropWords).Excludes (naming object'.dropWords) := by
    intro object object' hne
    cases object <;> cases object' <;> first | exact absurd rfl hne | decide
  have hobject : object = object' := by
    by_contra hne
    exact (hexcludes object object' hne).not_begins ⟨_, _, hread⟩ ⟨_, _, h⟩
  subst hobject
  rw [hread] at h
  obtain ⟨hvalues, -⟩ := Prod.mk.inj (Option.some.inj h)
  exact ⟨rfl, FormValue.name.inj (List.cons.inj hvalues).1⟩

namespace TablePlan

variable {settings : Settings} {plan : TablePlan} {command : TableCommand}
  {statement : Statement}

/-- No statement of a plan is itself the drop of a generator or trigger. -/
theorem Compiled.not_opens_drop (h : plan.Compiled settings command statement)
    {object : CatalogObject} (hobject : object ≠ .table) (values : List FormValue) :
    ¬(naming object.dropWords).Opens statement.text values := by
  intro hopens
  have hapart : ∀ other ∈ openings, Apart object.dropWords other := by
    cases object with
    | table => exact absurd rfl hobject
    | generator | trigger => decide
  exact h.not_startsWith (hapart _ (plan.openingWords_mem command))
    (Statement.startsWith_of_opens hopens)

theorem commandExecuted_dropGenerator :
    plan.commandExecuted settings .dropGenerator =
      (plan.decodedDrops settings).map fun drop => drop.encoded.statement := by
  have hguarded : plan.commandExecuted settings .dropGenerator =
      (plan.guardedDrops settings).map GuardedDrop.statement := rfl
  rw [hguarded, guardedDrops_eq, List.map_map]
  rfl

/-- A statement of a plan drops no generator or trigger but those of its own table. -/
theorem Compiled.exists_decodedDrop (h : plan.Compiled settings command statement)
    (hverbatims : ∀ text ∈ plan.commandVerbatims command, QuoteFree text)
    {object : CatalogObject} (hobject : object ≠ .table) {name : Name}
    (hdrops : statement.Drops object name) :
    ∃ drop ∈ plan.decodedDrops settings, drop.object = object ∧ drop.name = name := by
  obtain ⟨text, htext, hread⟩ := hdrops
  rcases List.mem_cons.mp htext with rfl | htext
  · exact absurd ⟨[], hread⟩ (h.not_opens_drop hobject _)
  · rw [Statement.text, Sql.toList_text, h.content.executed_scan hverbatims] at htext
    obtain ⟨sql, hsql, rfl⟩ := List.mem_map.mp htext
    cases command with
    | dropGenerator =>
        rw [commandExecuted_dropGenerator] at hsql
        obtain ⟨drop, hdrop, rfl⟩ := List.mem_map.mp hsql
        exact ⟨drop, hdrop, read_drop_inj (plan.decodedDrops_named settings drop hdrop) hread⟩
    | _ => exact absurd hsql List.not_mem_nil

theorem Compiled.eq_generator (h : plan.Compiled settings command statement)
    (hverbatims : ∀ text ∈ plan.commandVerbatims command, QuoteFree text) {name : Name}
    (hdrops : statement.Drops .generator name) : name = plan.generator settings := by
  obtain ⟨drop, hdrop, hobject, rfl⟩ := h.exists_decodedDrop hverbatims (by decide) hdrops
  rcases List.mem_pair.mp hdrop with rfl | rfl
  · cases hobject
  · dsimp only

theorem Compiled.eq_trigger (h : plan.Compiled settings command statement)
    (hverbatims : ∀ text ∈ plan.commandVerbatims command, QuoteFree text) {name : Name}
    (hdrops : statement.Drops .trigger name) : name = plan.trigger settings := by
  obtain ⟨drop, hdrop, hobject, rfl⟩ := h.exists_decodedDrop hverbatims (by decide) hdrops
  rcases List.mem_pair.mp hdrop with rfl | rfl
  · dsimp only
  · cases hobject

end TablePlan

/-! ## Names around the name of a table -/

/-- Names with a common opening are told apart by what the opening leaves of the limit. -/
theorem Name.chars_cut_append_eq_iff (opening : String) {text text' : String} :
    Name.chars (.ofString (cut (opening ++ text))) =
        Name.chars (.ofString (cut (opening ++ text'))) ↔
      text.toList.take (identifierLimit - opening.length) =
        text'.toList.take (identifierLimit - opening.length) := by
  rw [Name.chars_ofString_inj, Name.ofString_cut_eq_iff, cut_append_eq_iff]

/-- Where there is room for the closing words, the cut tells the names apart. -/
theorem eq_of_take_append_eq {opening closing table table' : String} {room : Nat}
    (h : (opening ++ table).length + closing.length ≤ room)
    (h' : (opening ++ table').length + closing.length ≤ room)
    (htake : (opening ++ table ++ closing).toList.take room =
      (opening ++ table' ++ closing).toList.take room) : table = table' := by
  have hwhole : ∀ name : String, name.length + closing.length ≤ room →
      (name ++ closing).toList.take room = name.toList ++ closing.toList := by
    intro name hname
    rw [String.toList_append]
    exact List.take_of_length_le (by rwa [List.length_append, String.length_toList,
      String.length_toList])
  rw [hwhole _ h, hwhole _ h', List.append_cancel_right_eq, String.toList_append,
    String.toList_append, List.append_cancel_left_eq] at htake
  exact String.toList_injective htake

namespace Settings

variable {settings : Settings} {table table' : String}

/-- A name around the prefixed name of the table is cut as a whole. -/
theorem chars_around_eq_iff (opening closing : String) :
    Name.chars (.ofString (cut (opening ++ settings.prefixed table ++ closing))) =
        Name.chars (.ofString (cut (opening ++ settings.prefixed table' ++ closing))) ↔
      (settings.tablePrefix ++ table ++ closing).toList.take
          (identifierLimit - opening.length) =
        (settings.tablePrefix ++ table' ++ closing).toList.take
          (identifierLimit - opening.length) := by
  have haround : ∀ name, opening ++ settings.prefixed name ++ closing =
      opening ++ (settings.tablePrefix ++ name ++ closing) := by
    intro name
    rw [prefixed, String.append_assoc]
  rw [haround, haround]
  exact Name.chars_cut_append_eq_iff opening

theorem generator_chars_eq_iff :
    Name.chars (.ofString (settings.generatorName table)) =
        Name.chars (.ofString (settings.generatorName table')) ↔
      (settings.tablePrefix ++ table ++ "_ID").toList.take 27 =
        (settings.tablePrefix ++ table' ++ "_ID").toList.take 27 :=
  chars_around_eq_iff "GEN_" "_ID"

theorem trigger_chars_eq_iff :
    Name.chars (.ofString (settings.triggerName table)) =
        Name.chars (.ofString (settings.triggerName table')) ↔
      (settings.tablePrefix ++ table ++ "_BI").toList.take 28 =
        (settings.tablePrefix ++ table' ++ "_BI").toList.take 28 :=
  chars_around_eq_iff "TR_" "_BI"

end Settings

/-- Two tables share a generator or a trigger exactly if their names, with the words that
close the generated name, agree as far as the cut lets them show.  Different tables whose
prefixed names have at most 24 characters share neither, and no statement about the one
drops an object of the other. -/
theorem emulation_names_eq_iff (settings : Settings) (table table' : String) :
    (Name.chars (.ofString (settings.generatorName table)) =
        Name.chars (.ofString (settings.generatorName table')) ↔
      (settings.tablePrefix ++ table ++ "_ID").toList.take 27 =
        (settings.tablePrefix ++ table' ++ "_ID").toList.take 27) ∧
    (Name.chars (.ofString (settings.triggerName table)) =
        Name.chars (.ofString (settings.triggerName table')) ↔
      (settings.tablePrefix ++ table ++ "_BI").toList.take 28 =
        (settings.tablePrefix ++ table' ++ "_BI").toList.take 28) ∧
    (table ≠ table' → (settings.tablePrefix ++ table).length ≤ 24 →
      (settings.tablePrefix ++ table').length ≤ 24 →
      Name.chars (.ofString (settings.generatorName table)) ≠
          Name.chars (.ofString (settings.generatorName table')) ∧
        Name.chars (.ofString (settings.triggerName table)) ≠
          Name.chars (.ofString (settings.triggerName table')) ∧
        ∀ (plan plan' : TablePlan) (command : TableCommand) (statement : Statement),
          plan.table = table → plan'.table = table' →
          plan.compile settings command = .ok statement →
          (∀ text ∈ plan.commandVerbatims command, QuoteFree text) →
          ¬statement.Drops .generator (plan'.generator settings) ∧
            ¬statement.Drops .trigger (plan'.trigger settings)) := by
  refine ⟨Settings.generator_chars_eq_iff, Settings.trigger_chars_eq_iff, ?_⟩
  intro htables hshort hshort'
  have hgenerator : Name.chars (.ofString (settings.generatorName table)) ≠
      Name.chars (.ofString (settings.generatorName table')) := by
    intro h
    refine htables (eq_of_take_append_eq ?_ ?_ (Settings.generator_chars_eq_iff.mp h))
    · exact Nat.add_le_add_right hshort 3
    · exact Nat.add_le_add_right hshort' 3
  have htrigger : Name.chars (.ofString (settings.triggerName table)) ≠
      Name.chars (.ofString (settings.triggerName table')) := by
    intro h
    refine htables (eq_of_take_append_eq ?_ ?_ (Settings.trigger_chars_eq_iff.mp h))
    · exact Nat.le_succ_of_le (Nat.add_le_add_right hshort 3)
    · exact Nat.le_succ_of_le (Nat.add_le_add_right hshort' 3)
  refine ⟨hgenerator, htrigger, ?_⟩
  rintro plan plan' command statement rfl rfl hcompile hverbatims
  have hcompiled := TablePlan.compile_eq_ok_iff.mp hcompile
  constructor
  · intro hdrops
    exact hgenerator (congrArg Name.chars (hcompiled.eq_generator hverbatims hdrops).symm)
  · intro hdrops
    exact htrigger (congrArg Name.chars (hcompiled.eq_trigger hverbatims hdrops).symm)

/-- Behind 24 characters the cut reaches into the closing words: names of 25 and of 27
characters can share a generator. -/
example :
    Settings.generatorName {} "customer_invoices_archive" =
      Settings.generatorName {} "customer_invoices_archive_I" := by
  decide

/-- Two tables with prefixed names of 24 characters that differ in the last. -/
theorem emulation_names_eq_iff_of_yearly_orders :
    let settings : Settings := { tablePrefix := "app_" }
    let plan : TablePlan := { table := "customer.orders\"2024" }
    let plan' : TablePlan := { table := "customer.orders\"2025" }
    plan.table ≠ plan'.table ∧ (settings.tablePrefix ++ plan.table).length ≤ 24 ∧
      (settings.tablePrefix ++ plan'.table).length ≤ 24 ∧
      Name.chars (plan.generator settings) =
        "\"GEN_app_customer\".\"orders\"\"2024_ID\"".toList ∧
      Name.chars (plan.trigger settings) = "\"TR_app_customer\".\"orders\"\"2024_BI\"".toList ∧
      Name.chars (plan'.generator settings) ≠ Name.chars (plan.generator settings) ∧
      Name.chars (plan'.trigger settings) ≠ Name.chars (plan.trigger settings) ∧
      ∃ statement, plan.compile settings .dropGenerator = .ok statement ∧
        ¬statement.Drops .generator (plan'.generator settings) ∧
        ¬statement.Drops .trigger (plan'.trigger settings) := by
  intro settings plan plan'
  have htables : plan.table ≠ plan'.table := by decide
  have hshort : (settings.tablePrefix ++ plan.table).length ≤ 24 := by decide
  have hshort' : (settings.tablePrefix ++ plan'.table).length ≤ 24 := by decide
  obtain ⟨hgenerator, htrigger, hdrops⟩ :=
    (emulation_names_eq_iff settings plan.table plan'.table).2.2 htables hshort hshort'
  have hverbatims : ∀ text ∈ plan.commandVerbatims .dropGenerator, QuoteFree text := by decide
  exact ⟨htables, hshort, hshort', by decide, by decide, hgenerator.symm, htrigger.symm, _, rfl,
    hdrops plan plan' .dropGenerator _ rfl rfl rfl hverbatims⟩

end SchemaDdl
