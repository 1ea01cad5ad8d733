import SchemaDdl.Proofs.Reading.Brackets

/-!
# Words outside quotes and brackets

A reader of keywords passes over everything that stands in quotes or brackets and
takes the rest apart into words.  `surface` is what is left for it to see, with a blank
in the place of everything else, and `words` are the words in that, in capitals.

`Sql.Shows` says of the pieces of a text which words the reader finds in them and how
deep in brackets they begin and end.  Texts that do not begin inside a word show their
words one after another (`Sql.Shows.append`).
-/

namespace SchemaDdl

namespace Reading

/-- A character of a word outside quotes. -/
def isWordChar (c : Char) : Bool := c.isAlphanum || c = '_' || c = '$' || 127 < c.toNat

/-- What a reader of words sees of a token: of a quoted region, nothing. -/
def Token.face : Token → Char
  | .bare c => c
  | _ => ' '

/-- What a reader sees outside quotes and brackets. -/
def surface : Nat → List Token → List Char
  | _, [] => []
  | depth, token :: tokens =>
    (if depth = 0 then token.face else ' ') :: surface ((nest depth token).getD 0) tokens

/-- The words of a text, in capitals. -/
def words (text : List Char) : List String :=
  ((text.splitOnP fun c => !isWordChar c).filter (· ≠ [])).map fun word =>
    String.ofList (word.map Char.toUpper)

/-- The text does not go on with a word that has begun before it. -/
def Breaks (text : List Char) : Prop := text.head?.any isWordChar = false

instance : DecidablePred Breaks :=
  fun text => inferInstanceAs (Decidable (text.head?.any isWordChar = false))

theorem breaks_of_forall {text : List Char} (h : ∀ c ∈ text, isWordChar c = false) :
    Breaks text := by
  cases text with
  | nil => rfl
  | cons c text => exact h c List.mem_cons_self

@[simp]
theorem words_nil : words [] = [] := rfl

theorem words_cons_of_break {c : Char} (hc : isWordChar c = false) (text : List Char) :
    words (c :: text) = words text := by
  simp [words, List.splitOnP_cons_eq_if_modifyHead, hc]

/-- Words end where a text that breaks them begins. -/
theorem words_append {text : List Char} (htext : Breaks text) (before : List Char) :
    words (before ++ text) = words before ++ words text := by
  cases text with
  | nil => simp
  | cons c text =>
      have hc : isWordChar c = false := htext
      rw [words_cons_of_break hc, words, List.splitOnP_append_cons _ _ (by simp [hc])]
      simp [words]

/-- Words end where a text that closes them ends. -/
theorem words_append_of_getLast? {before : List Char} (hbefore : before.getLast? = some ' ')
    (text : List Char) : words (before ++ text) = words before ++ words text := by
  obtain ⟨init, rfl⟩ := List.getLast?_eq_some_iff.mp hbefore
  have hblank : isWordChar ' ' = false := rfl
  have hbreaks : Breaks (' ' :: text) := hblank
  rw [List.append_assoc, List.singleton_append, words_append hbreaks, words_cons_of_break hblank,
    words_append (rfl : Breaks [' ']), words_cons_of_break hblank, words_nil, List.append_nil]

theorem words_eq_nil {text : List Char} (h : ∀ c ∈ text, isWordChar c = false) :
    words text = [] := by
  induction text with
  | nil => rfl
  | cons c text ih =>
      obtain ⟨hc, htext⟩ := List.forall_mem_cons.mp h
      rw [words_cons_of_break hc, ih htext]

theorem mem_of_mem_splitOnP {α : Type} {p : α → Bool} {items part : List α}
    (hpart : part ∈ items.splitOnP p) {item : α} (hitem : item ∈ part) : item ∈ items := by
  induction items generalizing part with
  | nil => simp_all
  | cons first items ih =>
      rw [List.splitOnP_cons_eq_if_modifyHead] at hpart
      split at hpart
      · rcases List.mem_cons.mp hpart with rfl | hpart
        · exact absurd hitem List.not_mem_nil
        · exact List.mem_cons_of_mem _ (ih hpart hitem)
      · cases hsplit : items.splitOnP p with
        | nil => simp [hsplit] at hpart
        | cons head parts =>
            rw [hsplit] at hpart ih
            rcases List.mem_cons.mp hpart with rfl | hpart
            · rcases List.mem_cons.mp hitem with rfl | hitem
              · exact List.mem_cons_self
              · exact List.mem_cons_of_mem _ (ih List.mem_cons_self hitem)
            · exact List.mem_cons_of_mem _ (ih (List.mem_cons_of_mem _ hpart) hitem)

/-- The letters of a word are those of the text, in capitals. -/
theorem exists_of_mem_words {text : List Char} {word : String} (hword : word ∈ words text)
    {letter : Char} (hletter : letter ∈ word.toList) : ∃ c ∈ text, c.toUpper = letter := by
  obtain ⟨part, hpart, rfl⟩ := List.mem_map.mp hword
  rw [String.toList_ofList] at hletter
  obtain ⟨c, hc, rfl⟩ := List.mem_map.mp hletter
  exact ⟨c, mem_of_mem_splitOnP (List.mem_of_mem_filter hpart) hc, rfl⟩

theorem toUpper_of_isDigit {c : Char} (hc : c.isDigit = true) : c.toUpper = c := by
  have hsmall : ¬('a'.val ≤ c.val ∧ c.val ≤ 'z'.val) := by
    rintro ⟨hlower, -⟩
    have hupper : c.val ≤ '9'.val := by simpa [Char.isDigit] using (Bool.and_eq_true_iff.mp hc).2
    exact absurd (UInt32.le_trans hlower hupper) (by decide)
  exact dif_neg hsmall

end Reading

open Reading

namespace Sql

/-- A reader of words that begins behind so many open brackets finds the words in the
text and then stands behind so many. -/
def Shows (depth : Nat) (sql : Sql) (shown : List String) (depth' : Nat) : Prop :=
  ∃ text, (∀ rest, surface depth (tokens sql ++ rest) = text ++ surface depth' rest) ∧
    Breaks text ∧ words text = shown

variable {depth depth' depth'' : Nat} {sql sql' : Sql} {shown shown' : List String}

theorem Shows.nil : Shows depth [] [] depth :=
  ⟨[], fun _ => rfl, by decide, rfl⟩

theorem Shows.append (h : Shows depth sql shown depth') (h' : Shows depth' sql' shown' depth'') :
    Shows depth (sql ++ sql') (shown ++ shown') depth'' := by
  obtain ⟨text, hsurface, hbreaks, rfl⟩ := h
  obtain ⟨text', hsurface', hbreaks', rfl⟩ := h'
  refine ⟨text ++ text', ?_, ?_, words_append hbreaks' text⟩
  · intro rest
    rw [tokens_append, List.append_assoc, hsurface, hsurface', List.append_assoc]
  · cases text with
    | nil => exact hbreaks'
    | cons c text => exact hbreaks

theorem surface_quiet {part : List Token} (h : ∀ token ∈ part, token.Quiet) (rest : List Token) :
    surface 0 (part ++ rest) = part.map Token.face ++ surface 0 rest := by
  induction part with
  | nil => rfl
  | cons token part ih =>
      obtain ⟨⟨hopen, hclose, -⟩, hpart⟩ := List.forall_mem_cons.mp h
      simp [surface, nest, hopen, hclose, ih hpart]

/-- Text without brackets shows its words outside brackets. -/
theorem Shows.quiet (h : ∀ token ∈ tokens sql, token.Quiet)
    (hbreaks : Breaks ((tokens sql).map Token.face)) :
    Shows 0 sql (words ((tokens sql).map Token.face)) 0 :=
  ⟨_, surface_quiet h, hbreaks, rfl⟩

/-- Text without brackets shows nothing in brackets. -/
theorem Shows.hidden (h : ∀ token ∈ tokens sql, token ≠ .bare '(' ∧ token ≠ .bare ')') :
    Shows (depth + 1) sql [] (depth + 1) := by
  have hblank : ∀ c ∈ List.replicate (tokens sql).length ' ', isWordChar c = false := by
    intro c hc
    obtain rfl := List.eq_of_mem_replicate hc
    rfl
  refine ⟨_, ?_, breaks_of_forall hblank, words_eq_nil hblank⟩
  intro rest
  generalize tokens sql = part at h
  induction part with
  | nil => rfl
  | cons token part ih =>
      obtain ⟨⟨hopen, hclose⟩, hpart⟩ := List.forall_mem_cons.mp h
      simp [surface, nest, hopen, hclose, ih hpart, List.replicate_succ]

/-- Values show nothing in brackets. -/
theorem Shows.hiddenValue {piece : SqlPiece} (hvalue : piece.IsValue) :
    Shows (depth + 1) [piece] [] (depth + 1) := by
  refine .hidden fun token htoken => ?_
  rw [tokens_cons, tokens_nil, List.append_nil] at htoken
  have hquiet := SqlPiece.IsValue.quiet hvalue token htoken
  exact ⟨hquiet.1, hquiet.2.1⟩

theorem Shows.separated {separator : String} {parts : List Sql}
    (hseparator : Shows depth [.plain separator] [] depth)
    (h : ∀ part ∈ parts, Shows depth part [] depth) :
    Shows depth (Sql.separated separator parts) [] depth :=
  intercalate_of_append .nil (fun _ _ => .append) hseparator h

end Sql

end SchemaDdl
