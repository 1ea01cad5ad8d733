import SchemaDdl.Proofs.Compilation.Content
import SchemaDdl.Proofs.Reading.Form

/-!
# The forms of compiled statements

The statement forms by which a reader takes the names and literals back out of
compiled statements: `naming` for statements that name one object, `additionForm`
for additions of columns, `triggerForm` for the trigger of a serial column and
`blockForm` for a block of guarded drops.

A form is read exactly (`Form.Reads`) where the statement holds nothing else, and
up to some rest (`Form.Opens`) where clauses follow.
-/

namespace SchemaDdl

open Reading

namespace Form

/-- The text is an instance of the form, filled with the values. -/
def Reads (form : Form) (text : String) (values : List FormValue) : Prop :=
  form.read (scan text.toList) = some (values, [])

/-- The text begins with an instance of the form, filled with the values. -/
def Opens (form : Form) (text : String) (values : List FormValue) : Prop :=
  ∃ rest, form.read (scan text.toList) = some (values, rest)

theorem reads_text {form : Form} {values : List FormValue} {sql : Sql}
    (h : Fills form values sql) (hregular : Sql.Regular sql) :
    form.Reads sql.text values := by
  rw [Reads, Sql.toList_text]
  exact read_scan h hregular

theorem reads_statement {form : Form} {values : List FormValue} {statement : Statement}
    (h : Fills form values statement.sql) (hregular : Sql.Regular statement.sql) :
    form.Reads statement.text values :=
  reads_text h hregular

/-- What stands behind the form need only be told apart from a name. -/
theorem opens_text {form : Form} {values : List FormValue} {sql tail : Sql}
    (h : Fills form values sql) (hregular : Sql.Regular sql)
    (htail : Sql.Regular tail) (hopen : Sql.OpensPlain tail) :
    form.Opens (Sql.text (sql ++ tail)) values := by
  have hhead : ∀ c ∈ (Sql.chars tail ++ []).head?, Inert c ∧ c ≠ '.' :=
    Sql.head_of_opensPlain (fun _ => And.intro) htail hopen (by simp)
  rw [List.append_nil] at hhead
  refine ⟨scan (Sql.chars tail), ?_⟩
  rw [Sql.toList_text, Sql.chars_append]
  exact read_scan_append h hregular hhead

theorem Fills.append {form form' : Form} {values values' : List FormValue} {sql sql' : Sql}
    (h : Fills form values sql) (h' : Fills form' values' sql') :
    Fills (form ++ form') (values ++ values') (sql ++ sql') := by
  induction h with
  | nil => exact h'
  | words text _ ih => exact .words text ih
  | name parts _ ih => exact .name parts ih
  | literal value _ ih => exact .literal value ih

end Form

/-! ## Statements that name an object -/

/-- The form of a statement that names one object. -/
def naming (words : String) : Form := [.words words, .name]

theorem fills_naming (words : String) (parts : Name) :
    Form.Fills (naming words) [.name parts] [.plain words, .name parts] :=
  .words words (.name parts .nil)

theorem reads_naming {words : String} (hwords : Keywords words) {parts : Name}
    (hparts : parts ≠ []) :
    (naming words).Reads (Sql.text [.plain words, .name parts]) [.name parts] :=
  Form.reads_text (fills_naming words parts) (content_naming hwords hparts).regular

/-- The form is also read where clauses follow the name. -/
theorem opens_naming {words : String} {parts : Name} {tail : Sql}
    (h : Sql.Regular (.plain words :: .name parts :: tail)) :
    (naming words).Opens (Sql.text (.plain words :: .name parts :: tail)) [.name parts] := by
  obtain ⟨hwords, -, hparts, hopen, htail⟩ := h
  have hnaming : Sql.Regular [.plain words, .name parts] :=
    ⟨hwords, fun hlead => absurd rfl hlead, hparts, trivial, trivial⟩
  have hopens : (naming words).Opens (Sql.text ([.plain words, .name parts] ++ tail))
      [.name parts] := Form.opens_text (fills_naming words parts) hnaming htail hopen
  simpa using hopens

theorem read_naming_append {words : String} {table : Name} {sql : Sql} (htable : table ≠ [])
    (hopen : Sql.OpensPlain sql) (form : Form) :
    Form.read (naming words ++ form) (Sql.tokens (.plain words :: .name table :: sql)) =
      (form.read (Sql.tokens sql)).map fun (values, rest) => (.name table :: values, rest) := by
  have hhead : (Sql.tokens sql ++ []).head? ≠ some (.bare '.') :=
    Form.head_tokens_ne_dot hopen (by simp)
  rw [List.append_nil] at hhead
  have hwords := readWords_bare words.toList (Name.tokens table ++ Sql.tokens sql)
  calc
    Form.read (naming words ++ form) (Sql.tokens (.plain words :: .name table :: sql)) =
        Form.read (.name :: form) (Name.tokens table ++ Sql.tokens sql) :=
      congrArg (Option.bind · (Form.read (.name :: form))) hwords
    _ = (form.read (Sql.tokens sql)).map fun (values, rest) => (.name table :: values, rest) := by
      rw [Form.read, readName_tokens htable hhead, Option.bind_some]

/-- What stands behind the name is left to be read. -/
theorem read_naming_text {words : String} {parts : Name} {clauses : Sql}
    {names : List Name} {executed : List Sql}
    (h : Sql.Content [] names executed (.plain words :: .name parts :: clauses)) :
    Form.read (naming words)
        (scan (Sql.text (.plain words :: .name parts :: clauses)).toList) =
      some ([.name parts], Sql.tokens clauses) := by
  obtain ⟨-, -, hparts, hopen, -⟩ := h.regular
  rw [Sql.toList_text, h.scan_chars (by simp)]
  exact read_naming_append hparts hopen []

/-- The words that can open the creation of a table. -/
def tableCreations : List String := ["CREATE TABLE ", "CREATE GLOBAL TEMPORARY TABLE "]

theorem TablePlan.creationWords_mem (plan : TablePlan) :
    plan.creationWords ∈ tableCreations := by
  unfold creationWords
  split <;> simp [tableCreations]

theorem TablePlan.opens_creation {settings : Settings} {plan : TablePlan}
    {statement : Statement} (h : plan.Compiled settings .create statement) :
    (naming plan.creationWords).Opens statement.text [.name (plan.tableName settings)] := by
  have hregular := h.content.regular
  cases h with
  | create hcolumns hdefinitions => exact opens_naming hregular

theorem TablePlan.reads_removal {settings : Settings} {plan : TablePlan}
    {statement : Statement} (h : plan.Compiled settings .drop statement) :
    (naming "DROP TABLE ").Reads statement.text [.name (plan.tableName settings)] := by
  cases h with
  | drop => exact reads_naming (by decide) (Name.ofString_ne_nil _)

theorem TablePlan.reads_generator {settings : Settings} {plan : TablePlan}
    {statement : Statement} (h : plan.Compiled settings .createGenerator statement) :
    (naming "CREATE SEQUENCE ").Reads statement.text [.name (plan.generator settings)] := by
  cases h with
  | createGenerator => exact reads_naming (by decide) (Name.ofString_ne_nil _)

/-! ## Additions of columns -/

/-- The form of a statement that adds columns, up to the name of the first of them. -/
def additionForm : Form := naming "ALTER TABLE " ++ [.words " ", .words "ADD ", .name]

/-- A statement that changes its table otherwise is not read as an addition: where the
name of the first column should stand, it has a keyword. -/
theorem not_opens_addition {table : Name} {words : String} {sql : Sql}
    (hregular : Sql.Regular (.plain "ALTER TABLE " :: .name table :: .plain words :: sql))
    (hverbatims : Sql.verbatims sql = [])
    (hwords : ∀ tokens, Form.read [.words " ", .words "ADD ", .name]
      (words.toList.map .bare ++ tokens) = none) (values : List FormValue) :
    ¬additionForm.Opens (Sql.text (.plain "ALTER TABLE " :: .name table :: .plain words :: sql))
      values := by
  rintro ⟨rest, hread⟩
  have hscan := Sql.scan_chars hregular (by simp [hverbatims])
  have hnone : Form.read [.words " ", .words "ADD ", .name] (Sql.tokens (.plain words :: sql)) =
    none := hwords (Sql.tokens sql)
  rw [Sql.toList_text, hscan, additionForm, read_naming_append hregular.2.2.1 hregular.2.2.2.1,
    hnone] at hread
  exact absurd hread (by simp)

theorem TablePlan.opens_addition {settings : Settings} {plan : TablePlan}
    {statement : Statement} (h : plan.Compiled settings .add statement) :
    ∃ first, additionForm.Opens statement.text
      [.name (plan.tableName settings), .name first] := by
  have hregular := h.content.regular
  cases h with
  | @add definitions hcolumns hdefinitions =>
      obtain ⟨column, columns, hplan⟩ := List.exists_cons_of_ne_nil hcolumns
      have hdefinitions := definitions_eq_ok_iff.mp hdefinitions
      rw [hplan] at hdefinitions
      obtain ⟨definition, rest, hdefinition, -, rfl⟩ := List.forall₂_cons_left_iff.mp hdefinitions
      obtain ⟨-, type, -, rfl⟩ := Column.definition_eq_ok_iff.mp hdefinition
      let opening : Sql := [.plain "ALTER TABLE ", .name (plan.tableName settings), .plain " ",
        .plain "ADD ", .name (.ofString column.name)]
      obtain ⟨tail, htail⟩ : ∃ tail, Sql.separated ", "
          (((.name (.ofString column.name) :: .plain " " ::
            (type ++ column.modifiers (plan.mode settings))) :: rest).map (.plain "ADD " :: ·)) =
          .plain "ADD " :: .name (.ofString column.name) :: tail := by
        cases rest with
        | nil => exact ⟨_, Sql.separated_singleton ", " _⟩
        | cons next rest => exact ⟨_, Sql.separated_cons_cons ", " _ _ _⟩
      rw [htail] at hregular ⊢
      obtain ⟨hwords, -, hname, -, hblank, -, hadd, -, hkey, hopen, hregular⟩ := hregular
      refine ⟨.ofString column.name, ?_⟩
      have hopens : additionForm.Opens (Sql.text (opening ++ tail))
          [.name (plan.tableName settings), .name (.ofString column.name)] := by
        refine Form.opens_text ?_ ?_ hregular hopen
        · exact .words _ (.name _ (.words _ (.words _ (.name _ .nil))))
        · exact ⟨hwords, fun h => absurd rfl h, hname, rfl, hblank, fun h => absurd rfl h, hadd,
            fun h => absurd rfl h, hkey, trivial, trivial⟩
      exact hopens

/-! ## Triggers -/

/-- The form of the trigger of a serial column. -/
def triggerForm : Form :=
  [.words "CREATE OR ALTER TRIGGER ", .name, .words " FOR ", .name,
    .words "\nACTIVE BEFORE INSERT\nAS\nBEGIN\n  IF (NEW.", .name,
    .words " IS NULL) THEN\n    NEW.", .name, .words " = GEN_ID(", .name,
    .words ", 1);\nEND"]

theorem TablePlan.reads_trigger {settings : Settings} {plan : TablePlan} {column : String}
    {statement : Statement} (h : plan.Compiled settings (.generatorTrigger column) statement) :
    triggerForm.Reads statement.text
      [.name (plan.trigger settings), .name (plan.tableName settings),
        .name (.ofString column), .name (.ofString column),
        .name (plan.generator settings)] := by
  refine Form.reads_statement ?_ h.content.regular
  cases h with
  | generatorTrigger hcolumn =>
      exact .words _ (.name _ (.words _ (.name _ (.words _ (.name _ (.words _ (.name _
        (.words _ (.name _ (.words _ .nil))))))))))

/-! ## Guarded drops -/

namespace GuardedDrop

/-- The form of a guarded drop of an object of some kind. -/
def form (object : CatalogObject) : Form :=
  [.words "  IF (EXISTS(", .words "SELECT * FROM ", .words object.listing, .words " WHERE ",
    .words object.nameColumn, .words " = ", .literal,
    .words ")) THEN\n    EXECUTE STATEMENT ", .literal, .words ";"]

/-- The form of a block of guarded drops. -/
def blockForm (objects : List CatalogObject) : Form :=
  .words "EXECUTE BLOCK\nAS\nBEGIN\n" ::
    [FormItem.words "\n"].intercalate (objects.map form) ++ [.words "\nEND"]

/-- The literals of a guarded drop. -/
def literals (drop : GuardedDrop) : List FormValue :=
  [.literal drop.catalogName, .literal drop.statement.text]

theorem fills_sql (drop : GuardedDrop) :
    Form.Fills (form drop.object) drop.literals drop.sql :=
  .words _ (.words _ (.words _ (.words _ (.words _ (.words _ (.literal _
    (.words _ (.literal _ (.words _ .nil)))))))))

theorem fills_separated (drops : List GuardedDrop) :
    Form.Fills ([FormItem.words "\n"].intercalate (drops.map fun drop => form drop.object))
      (drops.flatMap literals) (Sql.separated "\n" (drops.map sql)) := by
  induction drops with
  | nil => exact .nil
  | cons drop drops ih =>
      cases drops with
      | nil => simpa using drop.fills_sql
      | cons next drops =>
          have hforms : [FormItem.words "\n"].intercalate
              ((drop :: next :: drops).map fun drop => form drop.object) =
              form drop.object ++ .words "\n" ::
                [FormItem.words "\n"].intercalate
                  ((next :: drops).map fun drop => form drop.object) := by
            simp
          have hsql : Sql.separated "\n" ((drop :: next :: drops).map sql) =
              drop.sql ++ .plain "\n" :: Sql.separated "\n" ((next :: drops).map sql) :=
            Sql.separated_cons_cons "\n" drop.sql next.sql (drops.map sql)
          rw [hforms, hsql]
          exact drop.fills_sql.append (.words "\n" ih)

/-- A block is read back to the literals of its drops. -/
theorem reads_block (drops : List GuardedDrop) :
    (blockForm (drops.map object)).Reads (block drops).text (drops.flatMap literals) := by
  refine Form.reads_statement ?_ (content_block drops).regular
  have hdrops := (fills_separated drops).append (.words "\nEND" .nil)
  have hblock := Form.Fills.words "EXECUTE BLOCK\nAS\nBEGIN\n" hdrops
  simpa [blockForm, block, Statement.sql, Function.comp_def] using hblock

end GuardedDrop

/-- The words of the statement that drops an object of some kind. -/
def CatalogObject.dropWords : CatalogObject → String
  | table => "DROP TABLE "
  | generator => "DROP SEQUENCE "
  | trigger => "DROP TRIGGER "

theorem CatalogObject.keywords_dropWords (object : CatalogObject) :
    Keywords object.dropWords := by
  cases object <;> decide

/-- A guarded drop as a reader decodes it. -/
structure DecodedDrop where
  object : CatalogObject
  /-- The name that the catalog is asked for. -/
  entry : String
  /-- The name in the executed statement. -/
  name : Name

namespace DecodedDrop

/-- The text of the executed statement. -/
def statement (drop : DecodedDrop) : String :=
  drop.object.dropWords ++ String.ofList drop.name.chars

/-- What the reader finds in the two literals. -/
def values (drop : DecodedDrop) : List FormValue :=
  [.literal drop.entry, .literal drop.statement]

/-- The guarded drop that is written. -/
def encoded (drop : DecodedDrop) : GuardedDrop :=
  ⟨drop.object, drop.entry, [.plain drop.object.dropWords, .name drop.name]⟩

theorem text_encoded (drop : DecodedDrop) : drop.encoded.statement.text = drop.statement := by
  apply String.toList_injective
  rw [Sql.toList_text, statement, String.toList_append, String.toList_ofList]
  simp [encoded, SqlPiece.chars]

end DecodedDrop

/-- The statement is a block that a reader decodes to exactly the given drops. -/
structure Statement.Decodes (statement : Statement) (drops : List DecodedDrop) : Prop where
  isBlock : statement.isBlock = true
  reads : (GuardedDrop.blockForm (drops.map DecodedDrop.object)).Reads statement.text
    (drops.flatMap DecodedDrop.values)
  executes : ∀ drop ∈ drops,
    (naming drop.object.dropWords).Reads drop.statement [.name drop.name]

theorem decodes_block {drops : List DecodedDrop} (hnames : ∀ drop ∈ drops, drop.name ≠ []) :
    (GuardedDrop.block (drops.map DecodedDrop.encoded)).Decodes drops := by
  refine ⟨rfl, ?_, ?_⟩
  · have hreads := GuardedDrop.reads_block (drops.map DecodedDrop.encoded)
    rw [List.map_map, List.flatMap_map] at hreads
    have hvalues : ∀ drop : DecodedDrop, drop.encoded.literals = drop.values := by
      intro drop
      rw [GuardedDrop.literals, drop.text_encoded]
      rfl
    simp only [hvalues] at hreads
    exact hreads
  · intro drop hdrop
    rw [← drop.text_encoded]
    exact reads_naming drop.object.keywords_dropWords (hnames drop hdrop)

namespace TablePlan

variable (settings : Settings) (plan : TablePlan)

/-- The guarded drops of the trigger and the generator of a table, decoded. -/
def decodedDrops : List DecodedDrop :=
  [⟨.trigger, settings.triggerName plan.table, plan.trigger settings⟩,
    ⟨.generator, settings.generatorName plan.table, plan.generator settings⟩]

theorem decodedDrops_named : ∀ drop ∈ plan.decodedDrops settings, drop.name ≠ [] := by
  simp [decodedDrops, trigger, generator, Name.ofString_ne_nil]

theorem guardedDrops_eq :
    plan.guardedDrops settings = (plan.decodedDrops settings).map DecodedDrop.encoded := by
  simp only [guardedDrops, decodedDrops, List.map_cons, List.map_nil, DecodedDrop.encoded,
    CatalogObject.dropWords, dropTrigger, dropSequence, trigger]

theorem dropGenerator_decodes :
    (plan.dropGenerator settings).Decodes (plan.decodedDrops settings) := by
  rw [dropGenerator_eq, guardedDrops_eq]
  exact decodes_block (plan.decodedDrops_named settings)

end TablePlan

namespace SequencePlan

variable (settings : Settings) (plan : SequencePlan)

/-- The guarded drop of a sequence, decoded. -/
def decodedDrop : DecodedDrop :=
  ⟨.generator, settings.catalogName plan.sequence, plan.name settings⟩

theorem dropIfExists_decodes :
    (plan.compileNamed settings .dropIfExists).Decodes [plan.decodedDrop settings] := by
  have hnames : ∀ drop ∈ [plan.decodedDrop settings], drop.name ≠ [] := by
    simp [decodedDrop, name, Settings.qualified, Name.ofString_ne_nil]
  exact decodes_block hnames

end SequencePlan

end SchemaDdl
