import SchemaDdl.Proofs.Identifier.Limit
import SchemaDdl.Proofs.Reading.Unique

/-!
# What a name keeps of its text

A name is written from a text by splitting it at dots and cutting each segment.  The
segments that are left are all that the name shows: two texts stand for the same name
exactly if their cut segments agree (`Name.ofString_eq_iff`).  The bare star is no
exception, since a segment that is cut is longer than a star.

Nor does writing forget anything.  Names that are written alike, by themselves or in a list
of columns, stand for texts that differ only behind the cut (`written_names_eq_iff`).
-/

namespace SchemaDdl

theorem map_eq_map_iff_forall₂ {α β : Type} {f : α → β} {items items' : List α} :
    items.map f = items'.map f ↔
      List.Forall₂ (fun item item' => f item = f item') items items' := by
  rw [← List.forall₂_eq_eq_eq, List.forall₂_map_left_iff, List.forall₂_map_right_iff]

/-- The segments of a dotted name. -/
abbrev Segments := List (List Char)

/-- The dot-separated segments of a text, each cut to the 31 characters that the engine
keeps. -/
def keptSegments (text : String) : Segments :=
  (text.toList.splitOn '.').map (·.take 31)

/-- The segment that a part of a name shows. -/
def NamePart.shown : NamePart → List Char
  | star => ['*']
  | delimited content => content

namespace NamePart

theorem take_eq_star_iff {segment : List Char} :
    segment.take identifierLimit = ['*'] ↔ segment = ['*'] := by
  constructor
  · intro h
    have hlength := congrArg List.length h
    rw [List.length_take, identifierLimit, List.length_singleton] at hlength
    rwa [List.take_of_length_le (by rw [identifierLimit]; omega)] at h
  · rintro rfl
    rfl

/-- The part of a segment is the whole part of what is kept of it. -/
theorem ofSegment_eq_whole_take (segment : List Char) :
    ofSegment segment = whole (segment.take identifierLimit) := by
  simp only [ofSegment, whole, take_eq_star_iff]

theorem shown_ofSegment (segment : List Char) :
    (ofSegment segment).shown = segment.take identifierLimit := by
  by_cases h : segment = ['*']
  · subst h
    rfl
  · simp [ofSegment, h, shown]

end NamePart

namespace Name

theorem ofString_eq_map_keptSegments (text : String) :
    ofString text = (keptSegments text).map NamePart.whole := by
  rw [ofString, keptSegments, List.map_map]
  exact List.map_congr_left fun segment _ => NamePart.ofSegment_eq_whole_take segment

theorem keptSegments_eq_map_ofString (text : String) :
    keptSegments text = (ofString text).map NamePart.shown := by
  rw [ofString, keptSegments, List.map_map]
  exact List.map_congr_left fun segment _ => (NamePart.shown_ofSegment segment).symm

/-- A name forgets only what the cut removes. -/
theorem ofString_eq_iff {text text' : String} :
    ofString text = ofString text' ↔ keptSegments text = keptSegments text' := by
  constructor
  · intro h
    rw [keptSegments_eq_map_ofString, h, ← keptSegments_eq_map_ofString]
  · intro h
    rw [ofString_eq_map_keptSegments, h, ← ofString_eq_map_keptSegments]

/-- The same for a list of texts, one by one. -/
theorem map_ofString_eq_iff {texts texts' : List String} :
    texts.map ofString = texts'.map ofString ↔
      texts.map keptSegments = texts'.map keptSegments := by
  rw [map_eq_map_iff_forall₂, map_eq_map_iff_forall₂]
  simp only [ofString_eq_iff]

end Name

/-! ## Written names -/

/-- Two names are written alike exactly if the cut leaves the same of their texts. -/
theorem Name.chars_ofString_eq_iff {text text' : String} :
    Name.chars (.ofString text) = Name.chars (.ofString text') ↔
      keptSegments text = keptSegments text' := by
  rw [chars_ofString_inj, ofString_eq_iff]

/-- Two lists of columns are written alike exactly if they have equally many columns and
these are written alike one by one. -/
theorem Sql.chars_columnNames_eq_iff {columns columns' : List String} :
    chars (columnNames columns) = chars (columnNames columns') ↔
      List.Forall₂ (fun column column' =>
        Name.chars (.ofString column) = Name.chars (.ofString column')) columns columns' := by
  rw [chars_columnNames_inj, map_eq_map_iff_forall₂]
  simp only [Name.chars_ofString_inj]

/-- Writing a name forgets of its text only what the cut removes from the segments, and
writing a list of columns forgets neither how many there are nor how each is written.  The
settings have no part in how a name is written. -/
theorem written_names_eq_iff :
    (∀ text text' : String,
      Name.chars (.ofString text) = Name.chars (.ofString text') ↔
        keptSegments text = keptSegments text') ∧
    (∀ columns columns' : List String,
      Sql.text (Sql.columnNames columns) = Sql.text (Sql.columnNames columns') ↔
        List.Forall₂ (fun column column' =>
          Name.chars (.ofString column) = Name.chars (.ofString column')) columns columns') := by
  constructor
  · intro text text'
    exact Name.chars_ofString_eq_iff
  · intro columns columns'
    rw [← String.toList_inj, Sql.toList_text, Sql.toList_text]
    exact Sql.chars_columnNames_eq_iff

/-- One column whose name looks like two written columns is not written as two. -/
example :
    Sql.text (Sql.columnNames ["id\", \"*"]) = "\"id\"\", \"\"*\"" ∧
      Sql.text (Sql.columnNames ["id", "*"]) = "\"id\", *" := by
  decide

/-! ## Texts that were cut as a whole -/

/-- The segments of a text that was cut are within the limit already. -/
theorem keptSegments_cut (text : String) :
    keptSegments (cut text) = (cut text).toList.splitOn '.' := by
  have hkept : ∀ segment ∈ (cut text).toList.splitOn '.',
      segment.take 31 = segment := by
    intro segment hsegment
    have hlength : segment.length ≤ (cut text).toList.length := length_le_of_mem_splitOn hsegment
    have hcut : (cut text).toList.length ≤ 31 := by
      rw [cut, String.toList_ofList]
      exact List.length_take_le _ _
    exact List.take_of_length_le (Nat.le_trans hlength hcut)
  rw [keptSegments, List.map_congr_left hkept, List.map_id']

/-- The name of a text that was cut shows all that is left of it. -/
theorem Name.ofString_cut_eq_iff {text text' : String} :
    ofString (cut text) = ofString (cut text') ↔ cut text = cut text' := by
  rw [ofString_eq_iff, keptSegments_cut, keptSegments_cut]
  constructor
  · intro h
    have hchars := congrArg ['.'].intercalate h
    rw [List.intercalate_splitOn, List.intercalate_splitOn] at hchars
    exact String.toList_injective hchars
  · intro h
    rw [h]

/-- Behind a common opening, a cut leaves what the opening leaves of the limit. -/
theorem cut_append_eq_iff (opening : String) {text text' : String} :
    cut (opening ++ text) = cut (opening ++ text') ↔
      text.toList.take (identifierLimit - opening.length) =
        text'.toList.take (identifierLimit - opening.length) := by
  have hcut : ∀ text : String, (cut (opening ++ text)).toList =
      opening.toList.take identifierLimit ++
        text.toList.take (identifierLimit - opening.length) := by
    intro text
    rw [cut, String.toList_ofList, String.toList_append, List.take_append, String.length_toList]
  rw [← String.toList_inj, hcut, hcut, List.append_cancel_left_eq]

end SchemaDdl
