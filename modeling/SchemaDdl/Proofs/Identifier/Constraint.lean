import SchemaDdl.Proofs.Catalog.Guard
import SchemaDdl.Proofs.Identifier.Generated
import SchemaDdl.Proofs.Identifier.Segments

/-!
# Names of generated constraints

A foreign key without a name of its own gets a generated one, and whoever drops it later
has to tell that name.  `generated_constraint_is_droppable` states that this works out: a
generated name is a single identifier whatever its parts are called, so the whole name and
the name as the engine keeps it stand for the same constraint.
-/

namespace SchemaDdl

open Reading

/-! ## Generated names are single identifiers -/

/-- A single identifier stays what it is when its source is cut beforehand. -/
theorem Name.ofString_cut_eq_self {text : String} (h : (ofString text).Denotes (cut text)) :
    ofString (cut text) = ofString text := by
  obtain ⟨hdot, hstar, -⟩ := denotes_ofString_iff.mp h
  have hcut : (ofString (cut text)).Denotes (cut text) := by
    refine denotes_ofString_iff.mpr ⟨?_, ?_, (cut_cut text).symm⟩
    · intro hmem
      rw [cut, String.toList_ofList] at hmem
      exact hdot (List.mem_of_mem_take hmem)
    · intro hcut
      have hchars := congrArg String.toList hcut
      rw [cut, String.toList_ofList] at hchars
      exact hstar (String.toList_injective (NamePart.take_eq_star_iff.mp hchars))
  exact hcut.trans h.symm

namespace Settings

variable (settings : Settings) (table kind : String) (columns : List String)

theorem denotes_indexName :
    (Name.ofString (settings.indexName table kind columns)).Denotes
      (cut (settings.indexName table kind columns)) := by
  refine Name.denotes_ofString_iff.mpr ⟨not_mem_indexName (.inr rfl) _ _ _, ?_, rfl⟩
  intro hstar
  have hlength := two_le_length_indexName (settings.prefixed table) kind columns
  rw [indexName] at hstar
  rw [hstar] at hlength
  exact absurd hlength (by decide)

theorem ofString_indexName :
    Name.ofString (settings.indexName table kind columns) =
      [.delimited ((settings.indexName table kind columns).toList.take identifierLimit)] := by
  have h := settings.denotes_indexName table kind columns
  rwa [Name.Denotes, cut, String.toList_ofList] at h

/-- Both ways to tell a generated name are the same identifier, and neither is empty. -/
theorem ofString_eq_of_mem {given : String}
    (h : given ∈ [settings.indexName table kind columns,
      cut (settings.indexName table kind columns)]) :
    given ≠ "" ∧ Name.ofString given = Name.ofString (settings.indexName table kind columns) := by
  have hname : settings.indexName table kind columns ≠ "" := indexName_ne_empty _ _ _
  rcases List.mem_pair.mp h with rfl | rfl
  · exact ⟨hname, rfl⟩
  · refine ⟨?_, Name.ofString_cut_eq_self (settings.denotes_indexName table kind columns)⟩
    intro hempty
    have hchars := congrArg String.toList hempty
    rw [cut, String.toList_ofList] at hchars
    rcases List.take_eq_nil_iff.mp hchars with hlimit | hnil
    · exact absurd hlimit (by decide)
    · exact hname (String.toList_injective hnil)

end Settings

/-! ## Constraints by name -/

/-- The form of a statement that does something to a constraint of a table. -/
def constraintForm (words : String) : Form := naming "ALTER TABLE " ++ naming words

theorem opens_constraint {words : String} {table constraint : Name} {tail : Sql}
    (h : Sql.Regular (.plain "ALTER TABLE " :: .name table :: .plain words ::
      .name constraint :: tail)) :
    (constraintForm words).Opens (Sql.text (.plain "ALTER TABLE " :: .name table ::
      .plain words :: .name constraint :: tail)) [.name table, .name constraint] := by
  obtain ⟨halter, -, htable, hopen, hwords, -, hconstraint, hopen', htail⟩ := h
  let opening : Sql :=
    [.plain "ALTER TABLE ", .name table, .plain words, .name constraint]
  have hopening : Sql.Regular opening :=
    ⟨halter, fun h => absurd rfl h, htable, hopen, hwords, fun h => absurd rfl h, hconstraint,
      trivial, trivial⟩
  have hfills : Form.Fills (constraintForm words) [.name table, .name constraint] opening :=
    (fills_naming "ALTER TABLE " table).append (fills_naming words constraint)
  have hopens : (constraintForm words).Opens (Sql.text (opening ++ tail))
      [.name table, .name constraint] := Form.opens_text hfills hopening htail hopen'
  exact hopens

namespace TablePlan

variable {settings : Settings} {plan : TablePlan} {statement : Statement}

theorem opens_foreign {key : ForeignKey}
    (h : plan.Compiled settings (.foreign key) statement) :
    (constraintForm " ADD CONSTRAINT ").Opens statement.text
      [.name (plan.tableName settings),
        .name (.ofString (plan.chosenName settings .foreign key.name key.columns))] := by
  have hregular := h.content.regular
  cases h with
  | foreign hname hcolumns hon htable hreferences => exact opens_constraint hregular

theorem reads_dropForeign {name : String}
    (h : plan.Compiled settings (.dropForeign name) statement) :
    (constraintForm " DROP CONSTRAINT ").Reads statement.text
      [.name (plan.tableName settings), .name (.ofString name)] := by
  refine Form.reads_statement ?_ h.content.regular
  cases h with
  | dropForeign hname =>
      exact (fills_naming "ALTER TABLE " _).append (fills_naming " DROP CONSTRAINT " _)

end TablePlan

/-- A generated name is a single identifier without dots and dashes, and a foreign key that
got one is dropped by it, told whole or as the engine keeps it. -/
theorem generated_constraint_is_droppable (settings : Settings) :
    (∀ (table kind : String) (columns : List String),
      let name := settings.indexName table kind columns
      name ≠ "" ∧ '.' ∉ name.toList ∧ '-' ∉ name.toList ∧
        scan (Name.chars (.ofString name)) =
          [.quoted '"' (name.toList.take identifierLimit)]) ∧
    (∀ (plan : TablePlan) (key : ForeignKey) (addition : Statement), key.name = none →
      plan.compile settings (.foreign key) = .ok addition →
      let name := settings.indexName plan.table "foreign" key.columns
      let constraint : Name := [.delimited (name.toList.take identifierLimit)]
      (constraintForm " ADD CONSTRAINT ").Opens addition.text
          [.name (plan.tableName settings), .name constraint] ∧
        ∀ drop : TablePlan, drop.table = plan.table → ∀ given ∈ [name, cut name],
          ∃ removal, drop.compile settings (.dropForeign given) = .ok removal ∧
            (constraintForm " DROP CONSTRAINT ").Reads removal.text
              [.name (plan.tableName settings), .name constraint]) := by
  constructor
  · intro table kind columns name
    refine ⟨indexName_ne_empty _ _ _, not_mem_indexName (.inr rfl) _ _ _,
      not_mem_indexName (.inl rfl) _ _ _, ?_⟩
    have hname := settings.ofString_indexName table kind columns
    have hscan := Name.scan_chars (Name.ofString_ne_nil name) (by simp : [].head? ≠ some '"')
    rw [hname, List.append_nil, Name.tokens_singleton] at hscan
    rw [hname]
    exact hscan
  · intro plan key addition hgenerated hcompile name constraint
    have hconstraint : Name.ofString name = constraint := settings.ofString_indexName _ _ _
    have hchosen : plan.chosenName settings .foreign key.name key.columns = name := by
      rw [hgenerated]
      rfl
    have hopens := TablePlan.opens_foreign (TablePlan.compile_eq_ok_iff.mp hcompile)
    rw [hchosen, hconstraint] at hopens
    refine ⟨hopens, ?_⟩
    intro drop htable given hgiven
    obtain ⟨hnonempty, hsame⟩ := settings.ofString_eq_of_mem _ _ _ hgiven
    have hcompiles : ∃ removal, drop.Compiled settings (.dropForeign given) removal :=
      ⟨_, .dropForeign hnonempty⟩
    obtain ⟨removal, hremoval⟩ := hcompiles
    have hreads := TablePlan.reads_dropForeign hremoval
    have htableName : drop.tableName settings = plan.tableName settings :=
      congrArg settings.qualified htable
    rw [hsame, hconstraint, htableName] at hreads
    exact ⟨removal, hremoval.compile, hreads⟩

/-- A key whose name is built from capitals, dashes and a dotted column and is cut. -/
theorem generated_constraint_is_droppable_of_dotted_column :
    let settings : Settings := { tablePrefix := "App." }
    let plan : TablePlan := { table := "Order-Lines" }
    let key : ForeignKey := { columns := ["Kunde.Nr"], on := some "kunden", references := ["*"] }
    let constraint : Name := [.delimited "app_order_lines_kunde_nr_foreig".toList]
    key.name = none ∧ ∃ addition removal, plan.compile settings (.foreign key) = .ok addition ∧
      plan.compile settings (.dropForeign "app_order_lines_kunde_nr_foreign") = .ok removal ∧
      (constraintForm " ADD CONSTRAINT ").Opens addition.text
        [.name (plan.tableName settings), .name constraint] ∧
      (constraintForm " DROP CONSTRAINT ").Reads removal.text
        [.name (plan.tableName settings), .name constraint] := by
  intro settings plan key constraint
  have hgenerated : plan.chosenName settings .foreign key.name key.columns ≠ "" :=
    TablePlan.chosenName_ne_empty_iff.mpr (by decide)
  have hadded : plan.Compiled settings (.foreign key) _ :=
    .foreign hgenerated (by decide) rfl (by decide) (by decide)
  have hname : settings.indexName plan.table "foreign" key.columns =
      "app_order_lines_kunde_nr_foreign" := by decide +kernel
  obtain ⟨hopens, hdrops⟩ :=
    (generated_constraint_is_droppable settings).2 plan key _ rfl hadded.compile
  rw [hname] at hopens hdrops
  obtain ⟨removal, hremoval, hreads⟩ := hdrops plan rfl _ List.mem_cons_self
  exact ⟨rfl, _, removal, hadded.compile, hremoval, hopens, hreads⟩

end SchemaDdl
