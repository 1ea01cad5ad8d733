import Mathlib.Data.List.Forall2
import SchemaDdl.Proofs.Reading.Regular

/-!
# The content of SQL text

`Sql.Content` says of a text, all at once, that it is regular and which texts of
the model, names and executed literals it holds.  The content of a statement is
put together from the contents of its clauses, so a clause that changes needs one
new lemma and no new reading of the statements it stands in.
-/

namespace SchemaDdl

open Reading

/-- Text of the dialect that ends neither in the execution words nor in a part
of them, so that no literal behind it is executed. -/
def Keywords (text : String) : Prop :=
  InertText text ∧ text.toList.head?.any (· ≠ '.') ∧
    ¬executionWords <:+ text.toList ∧ ¬text.toList <:+ executionWords

instance : DecidablePred Keywords :=
  fun text => inferInstanceAs
    (Decidable (InertText text ∧ text.toList.head?.any (· ≠ '.') ∧
      ¬executionWords <:+ text.toList ∧ ¬text.toList <:+ executionWords))

theorem Name.ofString_ne_nil (text : String) : Name.ofString text ≠ [] := by
  simp [Name.ofString]

theorem flatMap_nil {α β : Type} (items : List α) :
    items.flatMap (fun _ => ([] : List β)) = [] :=
  List.flatMap_eq_nil_iff.mpr fun _ _ => rfl

/-- A literal or a number. -/
def SqlPiece.IsValue : SqlPiece → Prop
  | .literal _ | .integer _ | .real _ => True
  | _ => False

namespace Sql

theorem opensPlain_cons {text : String} (h : Keywords text) (sql : Sql) :
    OpensPlain (.plain text :: sql) := h.2.1

@[simp]
theorem toList_text (sql : Sql) : (text sql).toList = chars sql := String.toList_ofList

/-- What a regular text holds: texts of the model, names and executed literals. -/
structure Content (verbatims : List String) (names : List Name) (executed : List Sql)
    (sql : Sql) : Prop where
  regular : Regular sql
  verbatims_eq : Sql.verbatims sql = verbatims
  names_eq : Sql.names sql = names
  executed_eq : Sql.executed sql = executed.map text

namespace Content

variable {verbatims verbatims' : List String} {names names' : List Name}
  {executed executed' : List Sql} {sql sql' : Sql}

theorem nil : Content [] [] [] [] := ⟨trivial, rfl, rfl, rfl⟩

/-- Keywords hold nothing. -/
theorem keywords {text : String} (htext : Keywords text)
    (h : Content verbatims names executed sql) :
    Content verbatims names executed (.plain text :: sql) := by
  obtain ⟨hinert, -, hwords, hpart⟩ := htext
  refine ⟨⟨hinert, fun _ => Or.inr hpart, h.regular⟩, ?_, ?_, ?_⟩
  · simpa using h.verbatims_eq
  · simpa using h.names_eq
  · simpa [Sql.executed, hwords] using h.executed_eq

/-- A blank is the end of the execution words, but no literal stands behind it. -/
theorem blank (hopen : OpensPlain sql) (h : Content verbatims names executed sql) :
    Content verbatims names executed (.plain " " :: sql) := by
  have hlead := leadingLiteral?_eq_none hopen
  refine ⟨⟨by decide, fun hsome => absurd hlead hsome, h.regular⟩, ?_, ?_, ?_⟩
  · simpa using h.verbatims_eq
  · simpa using h.names_eq
  · simpa [Sql.executed, hlead] using h.executed_eq

theorem name {parts : Name} (hparts : parts ≠ []) (hopen : OpensPlain sql)
    (h : Content verbatims names executed sql) :
    Content verbatims (parts :: names) executed (.name parts :: sql) := by
  refine ⟨⟨hparts, hopen, h.regular⟩, ?_, ?_, h.executed_eq⟩
  · simpa using h.verbatims_eq
  · simpa using h.names_eq

/-- A name that a text stands for, with keywords behind it. -/
theorem named (text : String) {words : String} (hwords : Keywords words)
    (h : Content verbatims names executed sql) :
    Content verbatims (.ofString text :: names) executed
      (.name (.ofString text) :: .plain words :: sql) :=
  name (Name.ofString_ne_nil text) (opensPlain_cons hwords sql) (keywords hwords h)

theorem value {piece : SqlPiece} (hvalue : piece.IsValue) (hopen : OpensPlain sql)
    (h : Content verbatims names executed sql) :
    Content verbatims names executed (piece :: sql) := by
  cases piece with
  | literal | integer | real =>
      exact ⟨⟨hopen, h.regular⟩, h.verbatims_eq, h.names_eq, h.executed_eq⟩
  | _ => exact hvalue.elim

theorem verbatim (text : String) (hopen : OpensPlain sql)
    (h : Content verbatims names executed sql) :
    Content (text :: verbatims) names executed (.verbatim text :: sql) := by
  refine ⟨⟨hopen, h.regular⟩, ?_, ?_, h.executed_eq⟩
  · simpa using h.verbatims_eq
  · simpa using h.names_eq

theorem append (h : Content verbatims names executed sql)
    (h' : Content verbatims' names' executed' sql') (hopen : OpensPlain sql') :
    Content (verbatims ++ verbatims') (names ++ names') (executed ++ executed')
      (sql ++ sql') := by
  refine ⟨regular_append h.regular h'.regular hopen, ?_, ?_, ?_⟩
  · rw [verbatims_append, h.verbatims_eq, h'.verbatims_eq]
  · rw [names_append, h.names_eq, h'.names_eq]
  · rw [executed_append sql hopen, h.executed_eq, h'.executed_eq, List.map_append]

/-- The content of clauses with a separator between them. -/
theorem separated {α : Type} {separator : String} (hseparator : Keywords separator)
    {verbatims : α → List String} {names : α → List Name} {executed : α → List Sql}
    {items : List α} {parts : List Sql}
    (h : List.Forall₂
      (fun item part => Content (verbatims item) (names item) (executed item) part)
      items parts) :
    Content (items.flatMap verbatims) (items.flatMap names) (items.flatMap executed)
      (Sql.separated separator parts) := by
  induction h with
  | nil => exact nil
  | @cons item part items parts hpart hparts ih =>
      cases parts with
      | nil =>
          cases hparts
          simpa using hpart
      | cons next parts =>
          rw [separated_cons_cons]
          exact hpart.append (keywords hseparator ih) (opensPlain_cons hseparator _)

/-- The content of clauses one after another. -/
theorem flatMap {α : Type} {clause : α → Sql}
    {verbatims : α → List String} {names : α → List Name} {executed : α → List Sql}
    (hopen : ∀ item, OpensPlain (clause item))
    (h : ∀ item, Content (verbatims item) (names item) (executed item) (clause item))
    (items : List α) :
    Content (items.flatMap verbatims) (items.flatMap names) (items.flatMap executed)
        (items.flatMap clause) ∧
      OpensPlain (items.flatMap clause) := by
  induction items with
  | nil => exact ⟨nil, trivial⟩
  | cons item items ih =>
      obtain ⟨hcontent, hplain⟩ := ih
      exact ⟨(h item).append hcontent hplain, opensPlain_append (hopen item) hplain⟩

/-- A reader meets the pieces of a text with content one by one. -/
theorem scan_chars (h : Content verbatims names executed sql)
    (hverbatims : ∀ text ∈ verbatims, QuoteFree text) :
    scan (chars sql) = tokens sql := by
  rw [← h.verbatims_eq] at hverbatims
  exact Sql.scan_chars h.regular hverbatims

theorem delimited_scan (h : Content verbatims names executed sql)
    (hverbatims : ∀ text ∈ verbatims, QuoteFree text) :
    delimited (scan (chars sql)) = names.flatMap Name.contents := by
  rw [h.scan_chars hverbatims, delimited_tokens, h.names_eq]

theorem executed_scan (h : Content verbatims names executed sql)
    (hverbatims : ∀ text ∈ verbatims, QuoteFree text) :
    Reading.executed (scan (chars sql)) = executed.map chars := by
  rw [h.scan_chars hverbatims, executed_tokens h.regular, h.executed_eq, List.map_map]
  exact List.map_congr_left fun statement _ => toList_text statement

end Content


/-- A list of columns holds their names. -/
theorem content_columnNames (columns : List String) :
    Content [] (columns.map .ofString) [] (columnNames columns) := by
  have hcolumn : List.Forall₂
      (fun column part => Content [] [.ofString column] [] part) columns
      (columns.map fun column => [.name (.ofString column)]) := by
    rw [List.forall₂_map_right_iff, List.forall₂_same]
    intro column _
    exact .name (Name.ofString_ne_nil column) trivial .nil
  have hcomma : Keywords ", " := by decide
  have hcontent := Content.separated hcomma hcolumn
  rwa [flatMap_nil, flatMap_nil, ← List.map_eq_flatMap] at hcontent

end Sql

end SchemaDdl
