import SchemaDdl.Proofs.Compilation.Content

/-!
# The identifier limit

A name is written from a source: a prefixed table or sequence name, a generated
name, or a name given by the model.  `Name.Renders` states what is left of the
source.  The parts of the name show the first dot-separated segments of the
source, none longer than the 31 characters that the engine keeps; and a source within
that limit is written whole.

The limit counts characters of the identifier, after prefixing and generation
and before any quote is doubled.  So it is stated of the decoded identifiers
that a reader finds in the statement, and in the literals the statement executes.
-/

namespace SchemaDdl

open Reading

/-! ## Segments of a cut text -/

/-- The segments of a beginning of a text are beginnings of its first segments. -/
theorem splitOn_isPrefix {α : Type} [BEq α] (separator : α) {beginning text : List α}
    (h : beginning <+: text) :
    ∃ covered rest, text.splitOn separator = covered ++ rest ∧
      List.Forall₂ (· <+: ·) (beginning.splitOn separator) covered := by
  induction beginning generalizing text with
  | nil =>
      obtain ⟨segment, rest, hsplit⟩ :=
        List.exists_cons_of_ne_nil (List.splitOn_ne_nil separator text)
      refine ⟨[segment], rest, hsplit, ?_⟩
      rw [List.splitOn_nil]
      exact .cons List.nil_prefix .nil
  | cons c beginning ih =>
      obtain ⟨tail, rfl⟩ := h
      obtain ⟨covered, rest, hsplit, hcovered⟩ := ih (List.prefix_append beginning tail)
      rw [List.cons_append, List.splitOn_cons_eq_if_modifyHead,
        List.splitOn_cons_eq_if_modifyHead]
      by_cases hc : c == separator
      · rw [if_pos hc, if_pos hc, hsplit]
        exact ⟨[] :: covered, rest, rfl, .cons List.nil_prefix hcovered⟩
      · obtain ⟨segment, segments, hbeginning⟩ :=
          List.exists_cons_of_ne_nil (List.splitOn_ne_nil separator beginning)
        rw [hbeginning, List.forall₂_cons_left_iff] at hcovered
        obtain ⟨whole, others, hsegment, hsegments, rfl⟩ := hcovered
        rw [if_neg hc, if_neg hc, hsplit, hbeginning]
        have hcons : c :: segment <+: c :: whole :=
          (List.prefix_cons_inj c).mpr hsegment
        exact ⟨(c :: whole) :: others, rest, rfl, .cons hcons hsegments⟩

theorem length_le_of_mem_splitOn {α : Type} [BEq α] {separator : α} {text segment : List α}
    (h : segment ∈ text.splitOn separator) : segment.length ≤ text.length := by
  induction text generalizing segment with
  | nil => simpa using h
  | cons c text ih =>
      rw [List.splitOn_cons_eq_if_modifyHead] at h
      by_cases hc : c == separator
      · rw [if_pos hc] at h
        rcases List.mem_cons.mp h with rfl | h
        · exact Nat.zero_le _
        · exact Nat.le_succ_of_le (ih h)
      · obtain ⟨head, others, hsplit⟩ :=
          List.exists_cons_of_ne_nil (List.splitOn_ne_nil separator text)
        rw [if_neg hc, hsplit, List.modifyHead_cons] at h
        rcases List.mem_cons.mp h with rfl | h
        · exact Nat.succ_le_succ (ih (by simp [hsplit]))
        · exact Nat.le_succ_of_le (ih (by simp [hsplit, h]))

/-! ## Rendered names -/

namespace NamePart

/-- The part shows what it can of a segment. -/
def Shows : NamePart → List Char → Prop
  | star, segment => ['*'] <+: segment
  | delimited content, segment =>
    content <+: segment ∧ content.length ≤ 31

/-- The part that shows a segment uncut. -/
def whole (segment : List Char) : NamePart :=
  if segment = ['*'] then star else delimited segment

theorem ofSegment_shows {segment source : List Char} (h : segment <+: source) :
    (ofSegment segment).Shows source := by
  by_cases hstar : segment = ['*']
  · rw [ofSegment, if_pos hstar]
    rwa [hstar] at h
  · rw [ofSegment, if_neg hstar]
    exact ⟨(List.take_prefix _ _).trans h, List.length_take_le _ _⟩

theorem ofSegment_eq_whole {segment : List Char} (h : segment.length ≤ 31) :
    ofSegment segment = whole segment := by
  have hkept : segment.take identifierLimit = segment := List.take_of_length_le h
  rw [ofSegment, whole, hkept]

end NamePart

/-- The name is what the engine's limit leaves of a source. -/
structure Name.Renders (name : Name) (source : String) : Prop where
  nonempty : name ≠ []
  shows : ∃ covered rest, source.toList.splitOn '.' = covered ++ rest ∧
    List.Forall₂ NamePart.Shows name covered
  uncut : source.length ≤ 31 →
    name = (source.toList.splitOn '.').map NamePart.whole

namespace Name

theorem renders_beginning {text source : String} (h : text.toList <+: source.toList)
    (huncut : source.length ≤ 31 → text = source) :
    (ofString text).Renders source := by
  obtain ⟨covered, rest, hsplit, hcovered⟩ := splitOn_isPrefix '.' h
  refine ⟨ofString_ne_nil text, ⟨covered, rest, hsplit, ?_⟩, ?_⟩
  · rw [ofString, List.forall₂_map_left_iff]
    exact hcovered.imp fun _ _ => NamePart.ofSegment_shows
  · intro hlength
    obtain rfl := huncut hlength
    refine List.map_congr_left fun segment hsegment => NamePart.ofSegment_eq_whole ?_
    have hle : segment.length ≤ text.toList.length := length_le_of_mem_splitOn hsegment
    rw [String.length_toList] at hle
    exact Nat.le_trans hle hlength

/-- A given name shows every segment. -/
theorem renders_ofString (source : String) : (ofString source).Renders source :=
  renders_beginning List.prefix_rfl fun _ => rfl

/-- A generated name is cut as a whole before it is split. -/
theorem renders_cut (source : String) : (ofString (cut source)).Renders source := by
  refine renders_beginning ?_ ?_
  · rw [cut, String.toList_ofList]
    exact List.take_prefix _ _
  · intro hlength
    rw [← String.length_toList] at hlength
    have hkept : source.toList.take identifierLimit = source.toList :=
      List.take_of_length_le hlength
    rw [cut, hkept, String.ofList_toList]

theorem Renders.length_le {name : Name} {source : String} (h : name.Renders source)
    {content : List Char} (hcontent : content ∈ name.contents) :
    content.length ≤ 31 := by
  obtain ⟨covered, -, -, hshows⟩ := h.shows
  obtain ⟨segment, -, hsegment⟩ := exists_of_mem_forall₂ hshows (mem_contents_iff.mp hcontent)
  exact hsegment.2

end Name

/-- The identifiers that a reader finds in a text fit the limit of 31 characters and are
rendered from some sources. -/
structure IdentifiersRender (sources : List String) (text : List Char) : Prop where
  closed : Closed (scan text)
  fits : ∀ content ∈ delimited (scan text), content.length ≤ 31
  rendered : ∃ names : List Name,
    delimited (scan text) = names.flatMap Name.contents ∧
      List.Forall₂ Name.Renders names sources

theorem Sql.Content.identifiersRender {verbatims : List String} {names : List Name}
    {executed : List Sql} {sql : Sql} (h : Sql.Content verbatims names executed sql)
    (hverbatims : ∀ text ∈ verbatims, QuoteFree text) {sources : List String}
    (hsources : List.Forall₂ Name.Renders names sources) :
    IdentifiersRender sources (Sql.chars sql) := by
  have hdelimited := h.delimited_scan hverbatims
  refine ⟨?_, ?_, names, hdelimited, hsources⟩
  · rw [h.scan_chars hverbatims]
    exact Sql.closed_tokens sql
  · intro content hcontent
    rw [hdelimited] at hcontent
    obtain ⟨name, hname, hcontent⟩ := List.mem_flatMap.mp hcontent
    obtain ⟨source, -, hrenders⟩ := exists_of_mem_forall₂ hsources hname
    exact hrenders.length_le hcontent

theorem forall₂_renders_ofString (sources : List String) :
    List.Forall₂ Name.Renders (sources.map .ofString) sources := by
  rw [List.forall₂_map_left_iff, List.forall₂_same]
  intro source _
  exact Name.renders_ofString source

/-! ## Table commands -/

namespace Settings

/-- What the name of the generator of a table is cut from. -/
def generatorSource (settings : Settings) (table : String) : String :=
  "GEN_" ++ settings.prefixed table ++ "_ID"

/-- What the name of the trigger of a table is cut from. -/
def triggerSource (settings : Settings) (table : String) : String :=
  "TR_" ++ settings.prefixed table ++ "_BI"

end Settings

namespace TablePlan

/-- What the statement of a command names things after, nothing cut. -/
def nameSources (settings : Settings) (plan : TablePlan) : TableCommand → List String
  | .create | .add =>
    settings.prefixed plan.table :: plan.columns.flatMap Column.mentions
  | .drop => [settings.prefixed plan.table]
  | .primary columns => settings.prefixed plan.table :: columns
  | .unique given columns =>
    settings.prefixed plan.table :: plan.chosenName settings .unique given columns :: columns
  | .index given columns =>
    plan.chosenName settings .index given columns :: settings.prefixed plan.table :: columns
  | .foreign key =>
    settings.prefixed plan.table ::
      plan.chosenName settings .foreign key.name key.columns ::
      (key.columns ++ key.on.toList.map settings.prefixed ++ key.references)
  | .dropForeign name => [settings.prefixed plan.table, name]
  | .createGenerator => [settings.generatorSource plan.table]
  | .dropGenerator => []
  | .generatorTrigger column =>
    [settings.triggerSource plan.table, settings.prefixed plan.table, column, column,
      settings.generatorSource plan.table]

/-- What the statements that a statement executes name things after. -/
def executedSources (settings : Settings) (plan : TablePlan) :
    TableCommand → List (List String)
  | .dropGenerator =>
    [[settings.triggerSource plan.table], [settings.generatorSource plan.table]]
  | _ => []

variable (settings : Settings) (plan : TablePlan)

theorem renders_generator :
    (plan.generator settings).Renders (settings.generatorSource plan.table) :=
  Name.renders_cut _

theorem renders_trigger :
    (plan.trigger settings).Renders (settings.triggerSource plan.table) :=
  Name.renders_cut _

theorem forall₂_renders_commandNames (command : TableCommand) :
    List.Forall₂ Name.Renders (plan.commandNames settings command)
      (plan.nameSources settings command) := by
  have htable : (plan.tableName settings).Renders (settings.prefixed plan.table) :=
    Name.renders_ofString _
  cases command with
  | create | add => exact .cons htable (forall₂_renders_ofString _)
  | drop => exact .cons htable .nil
  | primary columns => exact .cons htable (forall₂_renders_ofString columns)
  | unique given columns => exact .cons htable (forall₂_renders_ofString (_ :: columns))
  | index given columns =>
      exact .cons (Name.renders_ofString _) (.cons htable (forall₂_renders_ofString columns))
  | foreign key =>
      have hsources := forall₂_renders_ofString (settings.prefixed plan.table ::
        plan.chosenName settings .foreign key.name key.columns ::
        (key.columns ++ key.on.toList.map settings.prefixed ++ key.references))
      have hqualified : settings.qualified = .ofString ∘ settings.prefixed := rfl
      simpa [commandNames, nameSources, tableName, hqualified] using hsources
  | dropForeign name => exact .cons htable (forall₂_renders_ofString [name])
  | createGenerator => exact .cons (plan.renders_generator settings) .nil
  | dropGenerator => exact .nil
  | generatorTrigger column =>
      have hcolumn := Name.renders_ofString column
      exact .cons (plan.renders_trigger settings) (.cons htable (.cons hcolumn
        (.cons hcolumn (.cons (plan.renders_generator settings) .nil))))

theorem forall₂_identifiersRender_commandExecuted (command : TableCommand) :
    List.Forall₂ IdentifiersRender (plan.executedSources settings command)
      ((plan.commandExecuted settings command).map Sql.chars) := by
  cases command with
  | dropGenerator =>
      have htrigger := content_naming (by decide : Keywords "DROP TRIGGER ")
        (Name.ofString_ne_nil (settings.triggerName plan.table))
      have hgenerator := content_naming (by decide : Keywords "DROP SEQUENCE ")
        (Name.ofString_ne_nil (settings.generatorName plan.table))
      exact .cons
        (htrigger.identifiersRender (by simp) (.cons (plan.renders_trigger settings) .nil))
        (.cons
          (hgenerator.identifiersRender (by simp)
            (.cons (plan.renders_generator settings) .nil))
          .nil)
  | _ => exact .nil

end TablePlan

/-! ## Sequence commands -/

namespace SequencePlan

/-- What the statement of a command names the sequence after. -/
def nameSources (settings : Settings) (plan : SequencePlan) : SequenceCommand → List String
  | .create | .alter | .drop => [settings.prefixed plan.sequence]
  | .dropIfExists => []

/-- What the statements that a statement executes name the sequence after. -/
def executedSources (settings : Settings) (plan : SequencePlan) :
    SequenceCommand → List (List String)
  | .create | .alter | .drop => []
  | .dropIfExists => [[settings.prefixed plan.sequence]]

variable (settings : Settings) (plan : SequencePlan)

theorem forall₂_renders_commandNames (command : SequenceCommand) :
    List.Forall₂ Name.Renders (plan.commandNames settings command)
      (plan.nameSources settings command) := by
  cases command with
  | dropIfExists => exact .nil
  | _ => exact .cons (Name.renders_ofString _) .nil

theorem forall₂_identifiersRender_commandExecuted (command : SequenceCommand) :
    List.Forall₂ IdentifiersRender (plan.executedSources settings command)
      ((plan.commandExecuted settings command).map Sql.chars) := by
  cases command with
  | dropIfExists =>
      have hdrop := content_naming (by decide : Keywords "DROP SEQUENCE ")
        (Name.ofString_ne_nil (settings.prefixed plan.sequence))
      exact .cons
        (hdrop.identifiersRender (by simp) (.cons (Name.renders_ofString _) .nil)) .nil
  | _ => exact .nil

end SequencePlan

/-! ## The limit -/

/-- The identifiers in a statement, and those in the literals that it executes,
are rendered from the sources that its command tells.  Only texts that the model
passes through could hold quotes of their own. -/
theorem identifiers_within_limit (settings : Settings) :
    (∀ (plan : TablePlan) (command : TableCommand)
        (statement : Statement), plan.compile settings command = .ok statement →
      (∀ text ∈ plan.verbatims, QuoteFree text) →
      IdentifiersRender (plan.nameSources settings command) statement.text.toList ∧
        List.Forall₂ IdentifiersRender (plan.executedSources settings command)
          (executed (scan statement.text.toList))) ∧
    (∀ (plan : SequencePlan) (command : SequenceCommand)
        (statement : Statement), plan.compile settings command = .ok statement →
      IdentifiersRender (plan.nameSources settings command) statement.text.toList ∧
        List.Forall₂ IdentifiersRender (plan.executedSources settings command)
          (executed (scan statement.text.toList))) := by
  constructor
  · intro plan command statement hcompile hverbatims
    have hcontent := (TablePlan.compile_eq_ok_iff.mp hcompile).content
    have hquoteFree : ∀ text ∈ plan.commandVerbatims command, QuoteFree text :=
      fun text htext => hverbatims text (TablePlan.mem_verbatims_of_command htext)
    rw [Statement.text, Sql.toList_text, hcontent.executed_scan hquoteFree]
    exact ⟨hcontent.identifiersRender hquoteFree
        (plan.forall₂_renders_commandNames settings command),
      plan.forall₂_identifiersRender_commandExecuted settings command⟩
  · intro plan command statement hcompile
    obtain ⟨-, rfl⟩ := SequencePlan.compile_eq_ok_iff.mp hcompile
    have hcontent := plan.content_compileNamed settings command
    rw [Statement.text, Sql.toList_text, hcontent.executed_scan (by simp)]
    exact ⟨hcontent.identifiersRender (by simp)
        (plan.forall₂_renders_commandNames settings command),
      plan.forall₂_identifiersRender_commandExecuted settings command⟩

/-- A table name with a quote and dots, and a generator name longer than the limit. -/
theorem identifiers_within_limit_of_quarterly_ledger :
    let settings : Settings := { tablePrefix := "app_" }
    let plan : TablePlan :=
      { table := "quarterly\"ledger.of.every.branch"
        columns := [{ name := "no", type := .text, charset := some "UTF8" }] }
    ∃ statement, plan.compile settings .dropGenerator = .ok statement ∧
      (∀ text ∈ plan.verbatims, QuoteFree text) ∧
      IdentifiersRender [] statement.text.toList ∧
      List.Forall₂ IdentifiersRender
        [["TR_app_quarterly\"ledger.of.every.branch_BI"],
          ["GEN_app_quarterly\"ledger.of.every.branch_ID"]]
        (executed (scan statement.text.toList)) := by
  have hverbatims : ∀ text ∈ ["UTF8"], QuoteFree text := by decide
  exact ⟨_, rfl, hverbatims, (identifiers_within_limit _).1 _ .dropGenerator _ rfl hverbatims⟩

end SchemaDdl
