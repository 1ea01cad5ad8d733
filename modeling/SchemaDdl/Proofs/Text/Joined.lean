import Mathlib.Data.List.Infix

/-!
# Joined texts

A text joined from parts has a separator between any two of them.  A function that goes
through the separator goes through the joined text part by part (`apply_intercalate`), and
what outlives putting texts together holds of the joined text if it holds of its parts
(`intercalate_of_append`).
-/

namespace SchemaDdl

variable {α β : Type}

theorem apply_intercalate {f : List α → List β} {separator : α} {separator' : β}
    (hnil : f [] = [])
    (happend : ∀ part rest, f (part ++ separator :: rest) = f part ++ separator' :: f rest)
    (parts : List (List α)) :
    f ([separator].intercalate parts) = [separator'].intercalate (parts.map f) := by
  induction parts with
  | nil => exact hnil
  | cons part parts ih =>
      cases parts with
      | nil => simp
      | cons next parts =>
          rw [List.map_cons, List.map_cons, List.intercalate_cons_cons,
            List.intercalate_cons_cons, List.append_assoc, List.singleton_append, happend, ih,
            List.map_cons, List.append_assoc, List.singleton_append]

theorem intercalate_of_append {p : List α → Prop} (hnil : p [])
    (happend : ∀ a b, p a → p b → p (a ++ b)) {separator : List α} (hseparator : p separator)
    {parts : List (List α)} (h : ∀ part ∈ parts, p part) : p (separator.intercalate parts) := by
  induction parts with
  | nil => exact hnil
  | cons part parts ih =>
      obtain ⟨hpart, hparts⟩ := List.forall_mem_cons.mp h
      cases parts with
      | nil => simpa using hpart
      | cons next parts =>
          rw [List.intercalate_cons_cons]
          exact happend _ _ (happend _ _ hpart hseparator) (ih hparts)

/-- A joined text holds each of its parts. -/
theorem infix_intercalate (separator : List α) {part : List α} {parts : List (List α)}
    (h : part ∈ parts) : part <:+: separator.intercalate parts := by
  induction parts with
  | nil => exact absurd h List.not_mem_nil
  | cons first parts ih =>
      cases parts with
      | nil =>
          obtain rfl := List.mem_singleton.mp h
          simp
      | cons next parts =>
          rw [List.intercalate_cons_cons]
          rcases List.mem_cons.mp h with rfl | h
          · rw [List.append_assoc]
            exact (List.prefix_append part _).isInfix
          · exact (ih h).trans (List.suffix_append _ _).isInfix

end SchemaDdl
