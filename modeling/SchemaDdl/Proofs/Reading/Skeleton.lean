import SchemaDdl.Proofs.Reading.Content
import SchemaDdl.Proofs.Text.Joined

/-!
# The skeleton of SQL text

The skeleton of a text is what a reader is left with when the contents of all
quoted regions are erased.

The outline of a text that is held as pieces keeps which pieces there are, and of
names and literals nothing else.  Besides the outline, a skeleton shows of each name
how many parts it has and which of them are stars (`Name.shape`), and no more
(`Sql.Content.sameStructure`).
-/

namespace SchemaDdl

open Reading

namespace Reading

/-- The token without the content of its region. -/
def Token.erased : Token → Token
  | bare c => bare c
  | quoted quote _ => quoted quote []
  | unclosed quote _ => unclosed quote []

/-- What is left of a text when the contents of its regions are erased. -/
def skeleton (text : List Char) : List Token := (scan text).map Token.erased

theorem map_erased_bare (text : List Char) :
    (text.map Token.bare).map Token.erased = text.map .bare := by
  rw [List.map_map]
  rfl

end Reading

/-! ## Names -/

namespace Name

/-- Which parts of a name are stars, one after another. -/
def shape (name : Name) : List Bool := name.map (· == .star)

/-- A text has the shape that its dot-separated segments tell. -/
theorem shape_ofString (text : String) :
    (ofString text).shape = (text.toList.splitOn '.').map (· == ['*']) := by
  rw [shape, ofString, List.map_map]
  refine List.map_congr_left fun segment _ => ?_
  by_cases h : segment = ['*'] <;> simp [NamePart.ofSegment, h]

/-- A part of a name without its content. -/
def emptied (star : Bool) : NamePart := if star then .star else .delimited []

theorem erased_token (part : NamePart) :
    part.token.erased = (emptied (part == .star)).token := by
  cases part <;> rfl

theorem erased_tokens (name : Name) :
    (tokens name).map Token.erased = tokens (name.shape.map emptied) := by
  induction name with
  | nil => rfl
  | cons part name ih =>
      by_cases hnil : name = []
      · subst hnil
        simp [shape, erased_token]
      · have hshape : (shape name).map emptied ≠ [] := by simpa [shape] using hnil
        have hcons : (shape (part :: name)).map emptied =
            emptied (part == .star) :: (shape name).map emptied := rfl
        rw [hcons, tokens_cons_of_ne_nil part hnil, tokens_cons_of_ne_nil _ hshape,
          List.map_cons, List.map_cons, ih, erased_token]
        rfl

end Name

/-! ## Outlines -/

/-- The piece without what it quotes. -/
@[simp]
def SqlPiece.outline : SqlPiece → SqlPiece
  | .name _ => .name []
  | .literal _ => .literal ""
  | piece => piece

namespace Sql

def outline (sql : Sql) : Sql := sql.map SqlPiece.outline

@[simp]
theorem outline_nil : outline [] = [] := rfl

@[simp]
theorem outline_cons (piece : SqlPiece) (sql : Sql) :
    outline (piece :: sql) = piece.outline :: outline sql := rfl

@[simp]
theorem outline_append (a b : Sql) : outline (a ++ b) = outline a ++ outline b :=
  List.map_append

theorem outline_separated (separator : String) (parts : List Sql) :
    outline (separated separator parts) = separated separator (parts.map outline) :=
  apply_intercalate rfl (fun _ _ => List.map_append) parts

theorem outline_separated_congr {parts parts' : List Sql}
    (h : parts.map outline = parts'.map outline) (separator : String) :
    (separated separator parts).outline = (separated separator parts').outline := by
  rw [outline_separated, outline_separated, h]

theorem verbatims_outline (sql : Sql) : verbatims (outline sql) = verbatims sql := by
  induction sql with
  | nil => rfl
  | cons piece sql ih => cases piece <;> simp [SqlPiece.outline, ih]

/-- The shapes of the names that a text writes. -/
def nameShapes (sql : Sql) : List (List Bool) := (names sql).map Name.shape

/-- What a reader meets in an outline whose names get the given shapes. -/
def framed : Sql → List (List Bool) → List Token
  | .name _ :: sql, shape :: shapes => Name.tokens (shape.map Name.emptied) ++ framed sql shapes
  | piece :: sql, shapes => piece.tokens ++ framed sql shapes
  | [], _ => []

theorem erased_tokens (sql : Sql) :
    (tokens sql).map Token.erased = framed sql.outline sql.nameShapes := by
  induction sql with
  | nil => rfl
  | cons piece sql ih =>
      rw [tokens_cons, List.map_append, ih]
      cases piece with
      | name parts => exact congrArg (· ++ _) (Name.erased_tokens parts)
      | literal value => rfl
      | plain text | integer value | real value | verbatim text =>
          exact congrArg (· ++ _) (map_erased_bare _)

end Sql

/-- Two texts with the same skeleton that leave no region open. -/
structure SameStructure (text text' : List Char) : Prop where
  skeleton_eq : skeleton text = skeleton text'
  closed_left : Closed (scan text)
  closed_right : Closed (scan text')

namespace Sql

theorem Content.verbatims_eq_of_outline_eq {verbatims verbatims' : List String}
    {names names' : List Name} {executed executed' : List Sql} {sql sql' : Sql}
    (h : Content verbatims names executed sql) (h' : Content verbatims' names' executed' sql')
    (houtline : sql.outline = sql'.outline) : verbatims = verbatims' := by
  rw [← h.verbatims_eq, ← h'.verbatims_eq, ← verbatims_outline sql, houtline, verbatims_outline]

/-- The outline and the shapes of the names decide the skeleton. -/
theorem Content.sameStructure {verbatims verbatims' : List String} {names names' : List Name}
    {executed executed' : List Sql} {sql sql' : Sql}
    (h : Content verbatims names executed sql) (h' : Content verbatims' names' executed' sql')
    (hverbatims : ∀ text ∈ verbatims, QuoteFree text)
    (houtline : sql.outline = sql'.outline)
    (hshapes : names.map Name.shape = names'.map Name.shape) :
    SameStructure (chars sql) (chars sql') := by
  have hverbatims' : ∀ text ∈ verbatims', QuoteFree text := by
    rwa [← h.verbatims_eq_of_outline_eq h' houtline]
  have hscan := h.scan_chars hverbatims
  have hscan' := h'.scan_chars hverbatims'
  refine ⟨?_, ?_, ?_⟩
  · rw [skeleton, skeleton, hscan, hscan', erased_tokens, erased_tokens, houtline, nameShapes,
      nameShapes, h.names_eq, h'.names_eq, hshapes]
  · rw [hscan]
    exact closed_tokens sql
  · rw [hscan']
    exact closed_tokens sql'

/-- The same for some texts one by one. -/
theorem forall₂_sameStructure {sqls sqls' : List Sql}
    (h : ∀ sql ∈ sqls, Content [] (names sql) [] sql)
    (h' : ∀ sql ∈ sqls', Content [] (names sql) [] sql)
    (houtlines : sqls.map outline = sqls'.map outline)
    (hshapes : sqls.map nameShapes = sqls'.map nameShapes) :
    List.Forall₂ SameStructure (sqls.map chars) (sqls'.map chars) := by
  induction sqls generalizing sqls' with
  | nil =>
      obtain rfl := List.map_eq_nil_iff.mp houtlines.symm
      exact .nil
  | cons sql sqls ih =>
      cases sqls' with
      | nil => exact absurd houtlines (by simp)
      | cons sql' sqls' =>
          obtain ⟨hsql, hsqls⟩ := List.forall_mem_cons.mp h
          obtain ⟨hsql', hsqls'⟩ := List.forall_mem_cons.mp h'
          obtain ⟨houtline, houtlines⟩ := List.cons.inj houtlines
          obtain ⟨hshape, hshapes⟩ := List.cons.inj hshapes
          have hstructure := hsql.sameStructure hsql' (by simp) houtline hshape
          exact .cons hstructure (ih hsqls hsqls' houtlines hshapes)

end Sql

end SchemaDdl
