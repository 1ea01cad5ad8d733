import SchemaDdl.Proofs.Reading.Content
import SchemaDdl.Proofs.Text.Joined

/-!
# Bracket-aware reading

A reader of lists that knows the quotes and the brackets.  `readItems` cuts a list
at its commas, except those that stand in brackets or quotes, and stops at the
bracket that closes the list.

The reader takes a part of a text for a part of one item as long as `depthAfter`
can follow its brackets.  `Sql.Nests` says of the pieces of a text how deep in
brackets they begin and end; a list of pieces that begin and end on its own level
is read back item by item (`Sql.readList_separated`).
-/

namespace SchemaDdl

namespace Reading

/-- How many brackets are open behind a token; `none` where it closes a bracket that
is not open. -/
def nest (depth : Nat) (token : Token) : Option Nat :=
  if token = .bare '(' then some (depth + 1)
  else if token = .bare ')' then if depth = 0 then none else some (depth - 1)
  else some depth

/-- How many brackets are open behind a part of an item; `none` where the item ends
before the part does. -/
def depthAfter : Nat → List Token → Option Nat
  | depth, [] => some depth
  | depth, token :: tokens =>
    if depth = 0 ∧ token = .bare ',' then none
    else (nest depth token).bind fun depth => depthAfter depth tokens

/-- The items of a list, and what stands behind the bracket that closes it.  A list
may also end with the text. -/
def readItems : Nat → List Token → List (List Token) × Option (List Token)
  | _, [] => ([[]], none)
  | depth, token :: tokens =>
    if depth = 0 ∧ token = .bare ',' then (readItems 0 tokens).map ([] :: ·) id
    else
      match nest depth token with
      | none => ([[]], some tokens)
      | some depth => (readItems depth tokens).map (·.modifyHead (token :: ·)) id

/-- An item without the blanks before it. -/
def trimmedItem (item : List Token) : List Token := item.dropWhile (· = .bare ' ')

/-- The items of a list without the blanks before them, and what stands behind it. -/
def readList (tokens : List Token) : List (List Token) × Option (List Token) :=
  (readItems 0 tokens).map (List.map trimmedItem) id

/-! ## Parts of an item -/

theorem depthAfter_append (depth : Nat) (a b : List Token) :
    depthAfter depth (a ++ b) = (depthAfter depth a).bind (depthAfter · b) := by
  induction a generalizing depth with
  | nil => rfl
  | cons token a ih =>
      rw [List.cons_append, depthAfter, depthAfter]
      split
      · rfl
      · rw [Option.bind_assoc]
        exact congrArg _ (funext ih)

/-- A token that neither brackets nor separates. -/
def Token.Quiet (token : Token) : Prop :=
  token ≠ .bare '(' ∧ token ≠ .bare ')' ∧ token ≠ .bare ','

instance : DecidablePred Token.Quiet :=
  fun token => inferInstanceAs
    (Decidable (token ≠ .bare '(' ∧ token ≠ .bare ')' ∧ token ≠ .bare ','))

theorem depthAfter_quiet {tokens : List Token} (h : ∀ token ∈ tokens, token.Quiet)
    (depth : Nat) : depthAfter depth tokens = some depth := by
  induction tokens with
  | nil => rfl
  | cons token tokens ih =>
      obtain ⟨⟨hopen, hclose, hcomma⟩, htokens⟩ := List.forall_mem_cons.mp h
      simp [depthAfter, nest, hopen, hclose, hcomma, ih htokens]

/-- What is a part of an item on one level is so inside further brackets. -/
theorem depthAfter_add {tokens : List Token} {depth depth' : Nat}
    (h : depthAfter depth tokens = some depth') (further : Nat) :
    depthAfter (depth + further) tokens = some (depth' + further) := by
  induction tokens generalizing depth with
  | nil =>
      obtain rfl := Option.some.inj h
      rfl
  | cons token tokens ih =>
      rw [depthAfter] at h
      split at h
      · exact absurd h (by simp)
      · next hcomma =>
        obtain ⟨inner, hinner, h⟩ := Option.bind_eq_some_iff.mp h
        have hnest : nest (depth + further) token = some (inner + further) := by
          unfold nest at hinner ⊢
          grind
        have hcomma' : ¬(depth + further = 0 ∧ token = .bare ',') := by
          rintro ⟨hzero, htoken⟩
          exact hcomma ⟨by omega, htoken⟩
        rw [depthAfter, if_neg hcomma', hnest]
        exact ih h

/-- A part of an item goes to the front of the first item that is read. -/
theorem readItems_append {part : List Token} {depth depth' : Nat}
    (h : depthAfter depth part = some depth') (tokens : List Token) :
    readItems depth (part ++ tokens) =
      (readItems depth' tokens).map (·.modifyHead (part ++ ·)) id := by
  induction part generalizing depth with
  | nil =>
      obtain rfl := Option.some.inj h
      have hnone : (fun items : List (List Token) => items.modifyHead ([] ++ ·)) = id :=
        List.modifyHead_id
      rw [hnone, Prod.map_id]
      rfl
  | cons token part ih =>
      rw [depthAfter] at h
      split at h
      · exact absurd h (by simp)
      · next hcomma =>
        obtain ⟨inner, hinner, h⟩ := Option.bind_eq_some_iff.mp h
        rw [List.cons_append, readItems, if_neg hcomma, hinner]
        simp [ih h, Prod.map, Function.comp_def]

theorem trimmedItem_eq_self {item : List Token} (h : item.head? ≠ some (.bare ' ')) :
    trimmedItem item = item := by
  cases item with
  | nil => rfl
  | cons token item =>
      have htoken : token ≠ .bare ' ' := by simpa using h
      exact List.dropWhile_cons_of_neg (by simpa using htoken)

end Reading

open Reading

theorem Name.quiet_of_mem_tokens {name : Name} {token : Token} (h : token ∈ name.tokens) :
    token.Quiet := by
  rcases mem_tokens h with rfl | ⟨part, -, rfl⟩
  · decide
  · cases part with
    | star => decide
    | delimited content => exact ⟨Token.noConfusion, Token.noConfusion, Token.noConfusion⟩

theorem IsNumeral.quiet {c : Char} (h : IsNumeral c) : (Token.bare c).Quiet := by
  refine ⟨?_, ?_, ?_⟩
  · rintro ⟨⟩
    exact absurd h (by decide)
  · rintro ⟨⟩
    exact absurd h (by decide)
  · rintro ⟨⟩
    exact absurd h (by decide)

/-- Values hold no brackets outside quotes. -/
theorem SqlPiece.IsValue.quiet {piece : SqlPiece} (h : piece.IsValue) :
    ∀ token ∈ piece.tokens, token.Quiet := by
  cases piece with
  | literal value =>
      simp [SqlPiece.tokens, Token.Quiet]
  | integer value =>
      simpa [SqlPiece.tokens, SqlPiece.chars] using
        fun c hc => (isNumeral_of_mem_ofInt hc).quiet
  | real value =>
      simpa [SqlPiece.tokens, SqlPiece.chars] using
        fun c hc => (isNumeral_of_mem_real hc).quiet
  | _ => exact h.elim

/-- A text in which nothing brackets or separates. -/
def QuietText (text : String) : Prop := ∀ c ∈ text.toList, (Token.bare c).Quiet

instance : DecidablePred QuietText :=
  fun text => List.decidableBAll (fun c => (Token.bare c).Quiet) text.toList

/-- The brackets of the text match, and its commas stand in brackets. -/
def Nested (text : String) : Prop := depthAfter 0 (text.toList.map .bare) = some 0

instance : DecidablePred Nested :=
  fun text => inferInstanceAs (Decidable (depthAfter 0 (text.toList.map .bare) = some 0))

namespace Sql

/-- The text is a part of an item, which begins and ends behind so many open
brackets. -/
def Nests (depth : Nat) (sql : Sql) (depth' : Nat) : Prop :=
  depthAfter depth (tokens sql) = some depth'

variable {depth depth' depth'' : Nat} {sql sql' : Sql}

theorem Nests.nil : Nests depth [] depth := rfl

theorem Nests.append (h : Nests depth sql depth') (h' : Nests depth' sql' depth'') :
    Nests depth (sql ++ sql') depth'' := by
  rw [Nests, tokens_append, depthAfter_append, h]
  exact h'

theorem Nests.plain {text : String}
    (htext : depthAfter depth (text.toList.map .bare) = some depth')
    (h : Nests depth' sql depth'') : Nests depth (.plain text :: sql) depth'' := by
  rw [Nests, tokens_cons, depthAfter_append]
  exact (congrArg (Option.bind · _) htext).trans h

/-- Words of the dialect that close their own brackets. -/
theorem Nests.words {text : String} (htext : Nested text) (h : Nests 0 sql depth) :
    Nests 0 (.plain text :: sql) depth :=
  .plain htext h

theorem Nests.quiet {piece : SqlPiece} (hpiece : ∀ token ∈ piece.tokens, token.Quiet)
    (h : Nests depth sql depth') : Nests depth (piece :: sql) depth' := by
  rw [Nests, tokens_cons, depthAfter_append, depthAfter_quiet hpiece]
  exact h

theorem Nests.name (parts : Name) (h : Nests depth sql depth') :
    Nests depth (.name parts :: sql) depth' :=
  h.quiet fun _ => Name.quiet_of_mem_tokens

theorem Nests.value {piece : SqlPiece} (hvalue : piece.IsValue) (h : Nests depth sql depth') :
    Nests depth (piece :: sql) depth' :=
  h.quiet hvalue.quiet

theorem Nests.verbatim {text : String} (htext : Nested text) (h : Nests depth sql depth') :
    Nests depth (.verbatim text :: sql) depth' := by
  have hdepth := depthAfter_add htext depth
  rw [Nat.zero_add] at hdepth
  rw [Nests, tokens_cons, depthAfter_append]
  exact (congrArg (Option.bind · _) hdepth).trans h

theorem Nests.separated {separator : String}
    (hseparator : depthAfter depth (separator.toList.map .bare) = some depth) {parts : List Sql}
    (h : ∀ part ∈ parts, Nests depth part depth) :
    Nests depth (Sql.separated separator parts) depth :=
  intercalate_of_append .nil (fun _ _ => .append) (.plain hseparator .nil) h

theorem Nests.flatMap {α : Type} {clause : α → Sql} {items : List α}
    (h : ∀ item ∈ items, Nests depth (clause item) depth) :
    Nests depth (items.flatMap clause) depth := by
  induction items with
  | nil => exact .nil
  | cons item items ih =>
      obtain ⟨hitem, hitems⟩ := List.forall_mem_cons.mp h
      exact hitem.append (ih hitems)

theorem exists_readItems_separated {parts : List Sql} (hparts : parts ≠ [])
    (hnests : ∀ part ∈ parts, Nests 0 part 0)
    (hopens : ∀ part ∈ parts, (tokens part).head? ≠ some (.bare ' '))
    {tail : List Token} {rest : Option (List Token)} (htail : readItems 0 tail = ([[]], rest)) :
    ∃ items, readItems 0 (tokens (Sql.separated ", " parts) ++ tail) = (items, rest) ∧
      items.map trimmedItem = parts.map tokens := by
  induction parts with
  | nil => exact absurd rfl hparts
  | cons part parts ih =>
      obtain ⟨hpart, hnests⟩ := List.forall_mem_cons.mp hnests
      obtain ⟨hopen, hopens⟩ := List.forall_mem_cons.mp hopens
      have htrimmed := trimmedItem_eq_self hopen
      cases parts with
      | nil =>
          refine ⟨[tokens part], ?_, by simp [htrimmed]⟩
          simp [readItems_append hpart, htail]
      | cons next parts =>
          obtain ⟨items, hitems, hmap⟩ := ih (List.cons_ne_nil _ _) hnests hopens
          obtain ⟨first, others, rfl⟩ : ∃ first others, items = first :: others :=
            List.exists_cons_of_ne_nil fun hnil => by simp [hnil] at hmap
          -- The blank behind the comma goes to the next item, which is trimmed of it.
          refine ⟨tokens part :: (.bare ' ' :: first) :: others, ?_, ?_⟩
          · have hcomma : readItems 0 (.bare ',' :: .bare ' ' ::
                (tokens (Sql.separated ", " (next :: parts)) ++ tail)) =
                ([] :: (.bare ' ' :: first) :: others, rest) := by
              simp [readItems, nest, hitems]
            rw [separated_cons_cons, tokens_append, tokens_cons, List.append_assoc,
              readItems_append hpart, List.append_assoc]
            exact (congrArg (Prod.map _ id) hcomma).trans (by simp)
          · have hfirst : trimmedItem (.bare ' ' :: first) = trimmedItem first := rfl
            rw [List.map_cons, List.map_cons, htrimmed, hfirst, ← List.map_cons, hmap]
            rfl

/-- A list is read back item by item, up to what ends it. -/
theorem readList_separated {parts : List Sql} (hparts : parts ≠ [])
    (hnests : ∀ part ∈ parts, Nests 0 part 0)
    (hopens : ∀ part ∈ parts, (tokens part).head? ≠ some (.bare ' '))
    {tail : List Token} {rest : Option (List Token)} (htail : readItems 0 tail = ([[]], rest)) :
    readList (tokens (Sql.separated ", " parts) ++ tail) = (parts.map tokens, rest) := by
  obtain ⟨items, hitems, hmap⟩ := exists_readItems_separated hparts hnests hopens htail
  rw [readList, hitems, Prod.map_apply, hmap, id]

end Sql

end SchemaDdl
