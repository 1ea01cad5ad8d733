import SchemaDdl.Table.Ddl

/-!
# Generated names

A name that is generated for an index or a constraint is never the empty text,
whatever the prefix, the table and the columns are called: lower-casing turns no
character into nothing, and underscores stand between the parts.  Nor does it hold a dot
or a dash, since both become underscores after lower-casing.
-/

namespace SchemaDdl

namespace LetterCase

theorem lower_ne_nil (c : Char) : lower c ≠ [] := by
  unfold lower
  split
  · simp
  · split <;> simp

/-- Lower-casing makes no text shorter. -/
theorem length_le_lowercaseAfter (before text : List Char) :
    text.length ≤ (lowercaseAfter before text).length := by
  induction text generalizing before with
  | nil => exact Nat.zero_le _
  | cons c rest ih =>
      rw [lowercaseAfter, List.length_append, List.length_cons, Nat.add_comm]
      refine Nat.add_le_add (List.length_pos_iff.mpr ?_) (ih _)
      split
      · simp
      · exact lower_ne_nil c

end LetterCase

/-- The two underscores around the columns are always there. -/
theorem two_le_length_indexName (table kind : String) (columns : List String) :
    2 ≤ (indexName table kind columns).toList.length := by
  rw [indexName, String.toList_ofList, List.length_map]
  refine Nat.le_trans ?_ (LetterCase.length_le_lowercaseAfter _ _)
  simp only [String.toList_append, List.length_append, String.length_toList]
  have hunderscore : "_".length = 1 := rfl
  omega

theorem indexName_ne_empty (table kind : String) (columns : List String) :
    indexName table kind columns ≠ "" := by
  intro hempty
  have hlength := two_le_length_indexName table kind columns
  rw [hempty] at hlength
  exact absurd hlength (by decide)

theorem underscored_ne {mark : Char} (hmark : mark = '-' ∨ mark = '.') (c : Char) :
    underscored c ≠ mark := by
  unfold underscored
  split
  · rcases hmark with rfl | rfl <;> decide
  · next hc =>
      rintro rfl
      exact hc hmark

theorem not_mem_indexName {mark : Char} (hmark : mark = '-' ∨ mark = '.') (table kind : String)
    (columns : List String) : mark ∉ (indexName table kind columns).toList := by
  rw [indexName, String.toList_ofList]
  intro hmem
  obtain ⟨c, -, hc⟩ := List.mem_map.mp hmem
  exact underscored_ne hmark c hc

namespace TablePlan

variable {settings : Settings} {plan : TablePlan} {kind : CommandKind} {given : Option String}
  {columns : List String}

/-- What no generated name is, a chosen name is only if it was given so. -/
theorem chosenName_iff {p : String → Prop}
    (hgenerated : ∀ table kind columns, ¬p (indexName table kind columns)) :
    p (plan.chosenName settings kind given columns) ↔ ∃ name ∈ given, p name := by
  cases given with
  | none =>
      have hname := hgenerated (settings.prefixed plan.table) kind.text columns
      simpa [chosenName, Settings.indexName] using hname
  | some name => simp [chosenName]

/-- Only an explicit name can be empty. -/
theorem chosenName_ne_empty_iff :
    plan.chosenName settings kind given columns ≠ "" ↔ given ≠ some "" := by
  have hempty : plan.chosenName settings kind given columns = "" ↔ ∃ name ∈ given, name = "" :=
    chosenName_iff (p := (· = "")) indexName_ne_empty
  simpa using not_congr hempty

end TablePlan

end SchemaDdl
