import SchemaDdl.Proofs.Text.Lowercase
import SchemaDdl.Settings

/-!
# Generated names part by part

A generated name is put together from the names of a table and of columns before it is
lower-cased, and lower-casing looks at what stands around a letter.  The underscores
between the parts keep them apart: `indexName_eq_parts` states that each part goes into
the name as it would stand by itself.  Inside a part a dot does not keep anything apart,
although it ends up as an underscore too.
-/

namespace SchemaDdl

open LetterCase

/-- A part of a generated name: in small letters and without dashes and dots. -/
def indexPart (part : String) : String :=
  String.ofList ((lowercase part.toList).map underscored)

theorem toList_indexPart (part : String) :
    (indexPart part).toList = (lowercase part.toList).map underscored := String.toList_ofList

/-- What a generated name joins; without columns there is an empty part between the table
and the kind. -/
def joinedParts (table kind : String) (columns : List String) : List String :=
  table :: ((if columns = [] then [""] else columns) ++ [kind])

theorem underscores_append (text : String) : "_" ++ ("_" ++ text) = "__" ++ text := by
  rw [← String.append_assoc]
  rfl

theorem indexName_eq_indexPart (table kind : String) (columns : List String) :
    indexName table kind columns =
      indexPart ("_".intercalate (joinedParts table kind columns)) := by
  have hjoined : "_".intercalate (joinedParts table kind columns) =
      table ++ "_" ++ "_".intercalate columns ++ "_" ++ kind := by
    unfold joinedParts
    cases columns with
    | nil => simp [String.append_assoc, underscores_append]
    | cons column columns =>
        rw [if_neg (List.cons_ne_nil column columns),
          String.intercalate_cons_of_ne_nil (by simp),
          String.intercalate_append_of_ne_nil (List.cons_ne_nil column columns) (by simp),
          String.intercalate_singleton]
        simp only [String.append_assoc]
  rw [indexName, hjoined, indexPart]

theorem underscored_underscored (c : Char) : underscored (underscored c) = underscored c := by
  by_cases hmark : c = '-' ∨ c = '.'
  · simp [underscored, hmark]
  · simp [underscored, hmark]

theorem isSmall_underscore : IsSmall '_' := by decide +kernel

theorem map_underscored_intercalate (parts : List (List Char)) :
    (['_'].intercalate parts).map underscored =
      ['_'].intercalate (parts.map (List.map underscored)) :=
  apply_intercalate rfl (fun _ _ => List.map_append) parts

/-- Parts with underscores between them go into a name one by one. -/
theorem indexPart_intercalate (parts : List String) :
    indexPart ("_".intercalate parts) = "_".intercalate (parts.map indexPart) := by
  have hunderscore : IsSeparator '_' := by decide +kernel
  have hparts : (parts.map indexPart).map String.toList =
      ((parts.map String.toList).map lowercase).map (List.map underscored) := by
    simp [List.map_map, Function.comp_def, toList_indexPart]
  have hjoin : "_".toList = ['_'] := rfl
  apply String.toList_injective
  rw [toList_indexPart, String.toList_intercalate, String.toList_intercalate, hjoin,
    lowercase_intercalate hunderscore isSmall_underscore.2, map_underscored_intercalate, hparts]

/-- A part that has been made small and underscored stays as it is. -/
theorem indexPart_indexPart (part : String) : indexPart (indexPart part) = indexPart part := by
  have hsmall : ∀ c ∈ (indexPart part).toList, IsSmall c := by
    intro c hc
    rw [toList_indexPart] at hc
    obtain ⟨letter, hletter, rfl⟩ := List.mem_map.mp hc
    unfold underscored
    split
    · exact isSmall_underscore
    · exact isSmall_of_mem_lowercaseAfter hletter
  have hmarks : ∀ c ∈ (indexPart part).toList, underscored c = c := by
    intro c hc
    rw [toList_indexPart] at hc
    obtain ⟨letter, -, rfl⟩ := List.mem_map.mp hc
    exact underscored_underscored letter
  apply String.toList_injective
  rw [toList_indexPart, lowercase, lowercaseAfter_eq_self hsmall, List.map_congr_left hmarks,
    List.map_id']

/-- A generated name joins its parts by underscores, each part lower-cased by itself and
without its dashes and dots.  Doing so to the name again leaves it as it is. -/
theorem indexName_eq_parts (table kind : String) (columns : List String) :
    (indexName table kind columns =
      if columns = [] then indexPart table ++ "__" ++ indexPart kind
      else "_".intercalate ((table :: columns ++ [kind]).map indexPart)) ∧
    indexPart (indexName table kind columns) = indexName table kind columns := by
  constructor
  · rw [indexName_eq_indexPart, indexPart_intercalate, joinedParts]
    split
    · have hempty : indexPart "" = "" := rfl
      simp [hempty, String.append_assoc, underscores_append]
    · rfl
  · rw [indexName_eq_indexPart, indexPart_indexPart]

/-- A sigma before a dot does not end a word, but one at the end of a part does. -/
example : indexName "ΑΣ.Β" "index" ["ΑΣ", "Β-Σ"] = "ασ_β_ας_β_σ_index" := by decide +kernel

end SchemaDdl
