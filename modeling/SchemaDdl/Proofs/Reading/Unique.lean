import SchemaDdl.Proofs.Reading.Content
import SchemaDdl.Proofs.Reading.Form

/-!
# Unique reading

Two texts that a reader cannot tell apart are built alike.  The module holds the two
halves of that.

Forms exclude each other if they clash at a position before which they agree
(`Form.Excludes`); no tokens begin with both (`Form.Excludes.not_begins`).  And of two
regular texts with the same tokens (`Sql.Alike`), names and lists of columns at the front
are the same, and what stands behind them is alike again (`Sql.Alike.name`,
`Sql.Alike.columns`).
-/

namespace SchemaDdl

open Reading

/-! ## Forms that exclude each other -/

/-- One position of a form. -/
inductive Slot
  /-- A character of the dialect. -/
  | word (c : Char)
  | name
  | literal
deriving DecidableEq

namespace Slot

/-- Reads what one position stands for; what is left behind it is given back. -/
def read : Slot → List Token → Option (List Token)
  | word c, tokens => readWords [c] tokens
  | name, tokens => (readName tokens).map Prod.snd
  | literal, tokens => (readLiteral tokens).map Prod.snd

/-- Whether what a position stands for can begin with a token. -/
def Accepts : Slot → Token → Prop
  | word c, token => token = .bare c
  | name, token => (readPart token).isSome = true
  | literal, token => ∃ content, token = .quoted '\'' content

/-- Whether nothing can stand for both of two positions.  A name may begin with a star. -/
def clash : Slot → Slot → Bool
  | word c, name | name, word c => c != '*'
  | slot, slot' => slot != slot'

theorem exists_accepts {slot : Slot} {tokens rest : List Token}
    (h : slot.read tokens = some rest) : ∃ token ∈ tokens.head?, slot.Accepts token := by
  cases tokens with
  | nil => cases slot <;> exact absurd h (by simp [read, readWords, readName, readLiteral])
  | cons token tokens =>
      refine ⟨token, rfl, ?_⟩
      cases slot with
      | word c =>
          have htokens := eq_append_of_readWords h
          exact (List.cons.inj htokens).1
      | name =>
          cases hpart : readPart token with
          | some part => simp [Accepts, hpart]
          | none => cases tokens <;> exact absurd h (by simp [read, readName, hpart])
      | literal =>
          cases token with
          | quoted quote content =>
              by_cases hquote : quote = '\''
              · exact ⟨content, by rw [hquote]⟩
              · exact absurd h (by simp [read, readLiteral, hquote])
          | bare c => exact absurd h (by simp [read, readLiteral])
          | unclosed quote content => exact absurd h (by simp [read, readLiteral])

theorem not_accepts_of_clash {slot slot' : Slot} (h : slot.clash slot' = true) {token : Token}
    (haccepts : slot.Accepts token) : ¬slot'.Accepts token := by
  intro haccepts'
  cases slot with
  | word c =>
      obtain rfl : token = .bare c := haccepts
      cases slot' with
      | word d =>
          obtain rfl : c = d := by simpa [Accepts] using haccepts'
          simp [clash] at h
      | name =>
          have hstar : c = '*' := by simpa [Accepts, readPart] using haccepts'
          simp [clash, hstar] at h
      | literal => simp [Accepts] at haccepts'
  | name =>
      cases slot' with
      | word c =>
          obtain rfl : token = .bare c := haccepts'
          have hstar : c = '*' := by simpa [Accepts, readPart] using haccepts
          simp [clash, hstar] at h
      | name => simp [clash] at h
      | literal =>
          obtain ⟨content, rfl⟩ := haccepts'
          simp [Accepts, readPart] at haccepts
  | literal =>
      obtain ⟨content, rfl⟩ := haccepts
      cases slot' with
      | word c => simp [Accepts] at haccepts'
      | name => simp [Accepts, readPart] at haccepts'
      | literal => simp [clash] at h

end Slot

namespace Form

/-- The positions of a form. -/
def slots : Form → List Slot
  | [] => []
  | .words text :: form => text.toList.map .word ++ slots form
  | .name :: form => .name :: slots form
  | .literal :: form => .literal :: slots form

/-- Reads some positions one by one. -/
def readSlots : List Slot → List Token → Option (List Token)
  | [], tokens => some tokens
  | slot :: slots, tokens => (slot.read tokens).bind (readSlots slots)

theorem readSlots_word (words : List Char) (slots : List Slot) (tokens : List Token) :
    readSlots (words.map .word ++ slots) tokens =
      (readWords words tokens).bind (readSlots slots) := by
  induction words generalizing tokens with
  | nil => rfl
  | cons c words ih =>
      cases tokens with
      | nil => rfl
      | cons token tokens =>
          cases token with
          | bare d =>
              by_cases hc : c = d
              · simp [readSlots, Slot.read, readWords, hc, ih]
              · simp [readSlots, Slot.read, readWords, hc]
          | quoted quote content => rfl
          | unclosed quote content => rfl

/-- A form is read position by position. -/
theorem readSlots_slots (form : Form) (tokens : List Token) :
    readSlots form.slots tokens = (form.read tokens).map Prod.snd := by
  induction form generalizing tokens with
  | nil => rfl
  | cons item form ih =>
      cases item with
      | words text =>
          rw [slots, readSlots_word, read]
          cases readWords text.toList tokens with
          | none => rfl
          | some rest => exact ih rest
      | name =>
          rw [slots, readSlots, Slot.read, read]
          cases readName tokens with
          | none => rfl
          | some found =>
              rw [Option.map_some, Option.bind_some, Option.bind_some, ih, Option.map_map]
              rfl
      | literal =>
          rw [slots, readSlots, Slot.read, read]
          cases readLiteral tokens with
          | none => rfl
          | some found =>
              rw [Option.map_some, Option.bind_some, Option.bind_some, ih, Option.map_map]
              rfl

/-- Whether two lists of positions clash somewhere behind positions that are the same. -/
def clashing : List Slot → List Slot → Bool
  | slot :: slots, slot' :: slots' =>
    slot.clash slot' || slot == slot' && clashing slots slots'
  | _, _ => false

theorem readSlots_eq_none_of_clashing {slots slots' : List Slot}
    (h : clashing slots slots' = true) {tokens rest : List Token}
    (hread : readSlots slots tokens = some rest) : readSlots slots' tokens = none := by
  induction slots generalizing slots' tokens with
  | nil => simp [clashing] at h
  | cons slot slots ih =>
      cases slots' with
      | nil => simp [clashing] at h
      | cons slot' slots' =>
          obtain ⟨next, hslot, hslots⟩ := Option.bind_eq_some_iff.mp hread
          rw [clashing, Bool.or_eq_true, Bool.and_eq_true, beq_iff_eq] at h
          rcases h with hclash | ⟨rfl, hclashing⟩
          · obtain ⟨token, htoken, haccepts⟩ := Slot.exists_accepts hslot
            cases hslot' : slot'.read tokens with
            | none => simp [readSlots, hslot']
            | some next' =>
                obtain ⟨token', htoken', haccepts'⟩ := Slot.exists_accepts hslot'
                obtain rfl := Option.mem_unique htoken htoken'
                exact absurd haccepts' (Slot.not_accepts_of_clash hclash haccepts)
          · rw [readSlots, hslot, Option.bind_some]
            exact ih hclashing hslots

/-- The forms differ at a position before which they agree. -/
def Excludes (form form' : Form) : Prop := clashing form.slots form'.slots = true

instance (form form' : Form) : Decidable (Excludes form form') :=
  inferInstanceAs (Decidable (clashing form.slots form'.slots = true))

/-- The tokens begin with an instance of the form. -/
def Begins (form : Form) (tokens : List Token) : Prop :=
  ∃ values rest, form.read tokens = some (values, rest)

/-- No tokens begin with instances of two forms that exclude each other. -/
theorem Excludes.not_begins {form form' : Form} (h : form.Excludes form') {tokens : List Token}
    (hform : form.Begins tokens) : ¬form'.Begins tokens := by
  obtain ⟨values, rest, hread⟩ := hform
  rintro ⟨values', rest', hread'⟩
  have hslots : readSlots form.slots tokens = some rest := by
    rw [readSlots_slots, hread]
    rfl
  have hnone := readSlots_eq_none_of_clashing h hslots
  rw [readSlots_slots, hread'] at hnone
  exact absurd hnone (by simp)

end Form

/-! ## Texts that are read alike -/

namespace Name

theorem exists_tokens_eq_cons {name : Name} (hname : name ≠ []) :
    ∃ part tail, Name.tokens name = NamePart.token part :: tail := by
  obtain ⟨part, name, rfl⟩ := List.exists_cons_of_ne_nil hname
  by_cases hnil : name = []
  · subst hnil
    exact ⟨part, [], tokens_singleton part⟩
  · exact ⟨part, _, tokens_cons_of_ne_nil part hnil⟩

/-- What stands behind a name does not extend it, so it is clear where the name ends. -/
theorem tokens_append_inj {name name' : Name} (hname : name ≠ []) (hname' : name' ≠ [])
    {rest rest' : List Token} (hrest : rest.head? ≠ some (.bare '.'))
    (hrest' : rest'.head? ≠ some (.bare '.'))
    (h : Name.tokens name ++ rest = Name.tokens name' ++ rest') :
    name = name' ∧ rest = rest' := by
  have hread : some (name, rest) = some (name', rest') := by
    rw [← readName_tokens hname hrest, h, readName_tokens hname' hrest']
  exact Prod.mk.inj (Option.some.inj hread)

/-- A name is read back from its written form. -/
theorem chars_inj {name name' : Name} (hname : name ≠ []) (hname' : name' ≠ []) :
    Name.chars name = Name.chars name' ↔ name = name' := by
  constructor
  · intro h
    have hscan : ∀ {name : Name}, name ≠ [] →
        scan (Name.chars name ++ []) = Name.tokens name ++ [] := fun hname =>
      Name.scan_chars hname (by simp)
    have htokens : Name.tokens name ++ [] = Name.tokens name' ++ [] := by
      rw [← hscan hname, h, hscan hname']
    exact (tokens_append_inj hname hname' (by simp) (by simp) htokens).1
  · intro h
    rw [h]

theorem chars_ofString_inj {text text' : String} :
    Name.chars (.ofString text) = Name.chars (.ofString text') ↔ ofString text = ofString text' :=
  chars_inj (ofString_ne_nil text) (ofString_ne_nil text')

end Name

namespace Sql

/-- What a reader meets behind the first name of a list of columns. -/
def furtherColumns : List String → List Token
  | [] => []
  | column :: columns => .bare ',' :: .bare ' ' :: tokens (columnNames (column :: columns))

theorem tokens_columnNames_cons (column : String) (columns : List String) :
    tokens (columnNames (column :: columns)) =
      Name.tokens (.ofString column) ++ furtherColumns columns := by
  cases columns with
  | nil =>
      rw [columnNames, List.map_singleton, separated_singleton, furtherColumns]
      rfl
  | cons next columns =>
      rw [columnNames, List.map_cons, List.map_cons, separated_cons_cons, furtherColumns]
      rfl

/-- The end of a list of columns is nothing or a closing bracket. -/
def EndsColumns (rest : List Token) : Prop := ∀ token ∈ rest.head?, token = .bare ')'

theorem EndsColumns.head_ne_dot {rest : List Token} (hrest : EndsColumns rest)
    (columns : List String) : (furtherColumns columns ++ rest).head? ≠ some (.bare '.') := by
  cases columns with
  | nil =>
      intro hdot
      exact absurd (hrest _ hdot) (by decide)
  | cons column columns => simp [furtherColumns]

theorem EndsColumns.ne_tokens_columnNames {rest : List Token} (hrest : EndsColumns rest)
    (column : String) (columns : List String) (rest' : List Token) :
    rest ≠ tokens (columnNames (column :: columns)) ++ rest' := by
  obtain ⟨part, tail, htokens⟩ := Name.exists_tokens_eq_cons (Name.ofString_ne_nil column)
  rw [tokens_columnNames_cons, htokens]
  rintro rfl
  have hpart : NamePart.token part = .bare ')' := hrest _ rfl
  cases part <;> exact absurd hpart (by simp [NamePart.token])

/-- A list of columns is read back to the names of the columns, however many there are. -/
theorem tokens_columnNames_inj {columns columns' : List String} {rest rest' : List Token}
    (hrest : EndsColumns rest) (hrest' : EndsColumns rest')
    (h : tokens (columnNames columns) ++ rest = tokens (columnNames columns') ++ rest') :
    columns.map Name.ofString = columns'.map Name.ofString ∧ rest = rest' := by
  induction columns generalizing columns' with
  | nil =>
      cases columns' with
      | nil => exact ⟨rfl, h⟩
      | cons column' columns' => exact absurd h (hrest.ne_tokens_columnNames _ _ _)
  | cons column columns ih =>
      cases columns' with
      | nil => exact absurd h.symm (hrest'.ne_tokens_columnNames _ _ _)
      | cons column' columns' =>
          rw [tokens_columnNames_cons, tokens_columnNames_cons, List.append_assoc,
            List.append_assoc] at h
          obtain ⟨hcolumn, hfurther⟩ :=
            Name.tokens_append_inj (Name.ofString_ne_nil column) (Name.ofString_ne_nil column')
              (hrest.head_ne_dot columns) (hrest'.head_ne_dot columns') h
          -- A comma stands behind a name exactly where another name follows.
          have hcolumns : columns.map Name.ofString = columns'.map Name.ofString ∧
              rest = rest' := by
            cases columns with
            | nil =>
                cases columns' with
                | nil => exact ⟨rfl, hfurther⟩
                | cons next' columns' =>
                    exact absurd (hrest _ (congrArg List.head? hfurther)) (by simp)
            | cons next columns =>
                cases columns' with
                | nil => exact absurd (hrest' _ (congrArg List.head? hfurther.symm)) (by simp)
                | cons next' columns' =>
                    exact ih (List.cons.inj (List.cons.inj hfurther).2).2
          exact ⟨congrArg₂ List.cons hcolumn hcolumns.1, hcolumns.2⟩

/-- Only the names of the columns go into the list. -/
theorem columnNames_congr {columns columns' : List String}
    (h : columns.map Name.ofString = columns'.map Name.ofString) :
    columnNames columns = columnNames columns' := by
  have hnames : ∀ columns : List String, (columns.map fun column => [.name (.ofString column)]) =
      (columns.map Name.ofString).map fun name => [SqlPiece.name name] := by
    intro columns
    rw [List.map_map]
    rfl
  rw [columnNames, columnNames, hnames, hnames, h]

/-- A list of columns is read back from its written form, although a comma may stand inside
a name as well as between two. -/
theorem chars_columnNames_inj {columns columns' : List String} :
    chars (columnNames columns) = chars (columnNames columns') ↔
      columns.map Name.ofString = columns'.map Name.ofString := by
  constructor
  · intro h
    have hscan : ∀ columns : List String,
        scan (chars (columnNames columns)) = tokens (columnNames columns) := fun columns =>
      (content_columnNames columns).scan_chars (by simp)
    have htokens : tokens (columnNames columns) ++ [] = tokens (columnNames columns') ++ [] := by
      rw [List.append_nil, List.append_nil, ← hscan columns, h, hscan columns']
    have hend : EndsColumns [] := by simp [EndsColumns]
    exact (tokens_columnNames_inj hend hend htokens).1
  · intro h
    rw [columnNames_congr h]

theorem regular_right_of_append {a b : Sql} (h : Regular (a ++ b)) : Regular b := by
  induction a with
  | nil => exact h
  | cons piece a ih =>
      cases piece with
      | plain text | name parts => exact ih h.2.2
      | literal value | integer value | real value | verbatim text => exact ih h.2

/-- Two regular texts that a reader cannot tell apart. -/
structure Alike (a b : Sql) : Prop where
  regular_left : Regular a
  regular_right : Regular b
  tokens_eq : tokens a = tokens b

namespace Alike

variable {a b : Sql}

theorem plain {text : String} (h : Alike (.plain text :: a) (.plain text :: b)) : Alike a b :=
  ⟨h.regular_left.2.2, h.regular_right.2.2, List.append_cancel_left h.tokens_eq⟩

theorem name {parts parts' : Name} (h : Alike (.name parts :: a) (.name parts' :: b)) :
    parts = parts' ∧ Alike a b := by
  obtain ⟨⟨hparts, hopen, hregular⟩, ⟨hparts', hopen', hregular'⟩, htokens⟩ := h
  have hdot : ∀ {sql : Sql}, OpensPlain sql → (tokens sql).head? ≠ some (.bare '.') := by
    intro sql hopen
    have hhead : (tokens sql ++ []).head? ≠ some (.bare '.') :=
      Form.head_tokens_ne_dot hopen (by simp)
    rwa [List.append_nil] at hhead
  obtain ⟨hname, hrest⟩ :=
    Name.tokens_append_inj hparts hparts' (hdot hopen) (hdot hopen') htokens
  exact ⟨hname, hregular, hregular', hrest⟩

/-- The same words, and a name behind them. -/
theorem naming {text : String} {parts parts' : Name}
    (h : Alike (.plain text :: .name parts :: a) (.plain text :: .name parts' :: b)) :
    parts = parts' ∧ Alike a b := h.plain.name

theorem columns {columns columns' : List String}
    (h : Alike (columnNames columns ++ a) (columnNames columns' ++ b))
    (ha : EndsColumns (tokens a)) (hb : EndsColumns (tokens b)) :
    columns.map Name.ofString = columns'.map Name.ofString ∧ Alike a b := by
  have htokens : tokens (columnNames columns) ++ tokens a =
      tokens (columnNames columns') ++ tokens b := by
    simpa [tokens] using h.tokens_eq
  obtain ⟨hcolumns, hrest⟩ := tokens_columnNames_inj ha hb htokens
  exact ⟨hcolumns, regular_right_of_append h.regular_left,
    regular_right_of_append h.regular_right, hrest⟩

end Alike

end Sql

end SchemaDdl
