import SchemaDdl.Sql.Name

/-!
# Quote-aware reading

A reader of SQL text that knows nothing but the quotes.  A quote opens a region,
the same quote ends it, and a doubled quote inside stands for one.  The reader
is a machine that takes one character at a time and never refuses a text.

Reading loses nothing: `write_scan` gets the text back from what was read.  A
text put between quotes is read as one region that holds it, provided the quote
does not follow directly (`scan_enclose`).

Among what was read, `delimited` finds the identifiers and `executed` the
literals that the text hands to the engine as statements.
-/

namespace SchemaDdl.Reading

open Quoted

/-- What a reader of SQL text meets, one after another. -/
inductive Token
  /-- A character outside every quoted region. -/
  | bare (c : Char)
  /-- A quoted region, its doubled quotes undone. -/
  | quoted (quote : Char) (content : List Char)
  /-- A region in which the text ends. -/
  | unclosed (quote : Char) (content : List Char)
deriving DecidableEq, Repr

/-- The characters that open a quoted region. -/
def IsQuote (c : Char) : Prop := c = '\'' ∨ c = '"'

instance : DecidablePred IsQuote :=
  fun c => inferInstanceAs (Decidable (c = '\'' ∨ c = '"'))

/-- Where a reader stands between two characters. -/
inductive State
  | outside
  | inside (quote : Char) (content : List Char)
  /-- After a quote inside a region.  Only the next character tells whether it
  ended the region or is the first half of a doubled one. -/
  | closing (quote : Char) (content : List Char)

namespace State

/-- The step outside every region. -/
def enter (c : Char) : List Token × State :=
  if IsQuote c then ([], inside c []) else ([.bare c], outside)

/-- What one character makes certain, and where the reader stands then. -/
def step : State → Char → List Token × State
  | outside, c => enter c
  | inside quote content, c =>
    if c = quote then ([], closing quote content)
    else ([], inside quote (content ++ [c]))
  | closing quote content, c =>
    if c = quote then ([], inside quote (content ++ [quote]))
    else (.quoted quote content :: (enter c).1, (enter c).2)

/-- What the end of the text makes certain. -/
def finish : State → List Token
  | outside => []
  | inside quote content => [.unclosed quote content]
  | closing quote content => [.quoted quote content]

/-- The characters that the reader has taken but not yet given out. -/
def pending : State → List Char
  | outside => []
  | inside quote content => quote :: double quote content
  | closing quote content => enclose quote content

end State

/-- What a reader that stands at `state` meets in the rest of a text. -/
def scanFrom (state : State) : List Char → List Token
  | [] => state.finish
  | c :: text => (state.step c).1 ++ scanFrom (state.step c).2 text

/-- What a reader meets in a text. -/
def scan (text : List Char) : List Token := scanFrom .outside text

/-- The characters of a token. -/
def Token.chars : Token → List Char
  | bare c => [c]
  | quoted quote content => enclose quote content
  | unclosed quote content => quote :: double quote content

/-- The text that was read as some tokens. -/
def write (tokens : List Token) : List Char := tokens.flatMap Token.chars

@[simp]
theorem write_nil : write [] = [] := rfl

@[simp]
theorem write_cons (token : Token) (tokens : List Token) :
    write (token :: tokens) = token.chars ++ write tokens := rfl

@[simp]
theorem write_append (a b : List Token) : write (a ++ b) = write a ++ write b :=
  List.flatMap_append

@[simp]
theorem write_map_bare (text : List Char) : write (text.map .bare) = text := by
  induction text with
  | nil => rfl
  | cons c text ih => simp [Token.chars, ih]

/-! ## Reading loses nothing -/

/-- One step hands out or keeps exactly the character that it takes. -/
theorem write_step (state : State) (c : Char) :
    write (state.step c).1 ++ (state.step c).2.pending = state.pending ++ [c] := by
  have henter : write (State.enter c).1 ++ (State.enter c).2.pending = [c] := by
    by_cases hc : IsQuote c <;>
      simp [State.enter, hc, State.pending, Token.chars, double]
  cases state with
  | outside => simpa [State.step, State.pending] using henter
  | inside quote content =>
      by_cases hc : c = quote
      · simp [State.step, State.pending, enclose, hc]
      · simp [State.step, State.pending, hc, double_append, double]
  | closing quote content =>
      by_cases hc : c = quote
      · simp [State.step, State.pending, enclose, hc, double_append, double]
      · have hclosed : State.step (.closing quote content) c =
            (.quoted quote content :: (State.enter c).1, (State.enter c).2) := by
          simp [State.step, hc]
        rw [hclosed, write_cons, List.append_assoc, henter]
        rfl

theorem write_finish (state : State) : write state.finish = state.pending := by
  cases state <;> simp [State.finish, State.pending, Token.chars]

theorem write_scanFrom (state : State) (text : List Char) :
    write (scanFrom state text) = state.pending ++ text := by
  induction text generalizing state with
  | nil => simpa [scanFrom] using write_finish state
  | cons c text ih =>
      have hstep := write_step state c
      rw [scanFrom, write_append, ih, ← List.append_assoc, hstep]
      simp

/-- What was read, written again, is the text. -/
theorem write_scan (text : List Char) : write (scan text) = text :=
  write_scanFrom .outside text

/-! ## Reading the parts of a text -/

@[simp]
theorem scan_nil : scan [] = [] := rfl

theorem scan_cons {c : Char} (hc : ¬IsQuote c) (text : List Char) :
    scan (c :: text) = .bare c :: scan text := by
  simp [scan, scanFrom, State.step, State.enter, hc]

/-- A text without quotes is read character by character. -/
theorem scan_bare {plain : List Char} (h : ∀ c ∈ plain, ¬IsQuote c)
    (rest : List Char) :
    scan (plain ++ rest) = plain.map .bare ++ scan rest := by
  induction plain with
  | nil => rfl
  | cons c plain ih =>
      obtain ⟨hc, hplain⟩ := List.forall_mem_cons.mp h
      rw [List.cons_append, scan_cons hc, ih hplain]
      rfl

/-- Inside a region the reader undoes the doubling, up to the quote behind it. -/
theorem scanFrom_inside_double (quote : Char) (content text rest : List Char) :
    scanFrom (.inside quote content) (double quote text ++ quote :: rest) =
      scanFrom (.closing quote (content ++ text)) rest := by
  induction text generalizing content with
  | nil => simp [double, scanFrom, State.step]
  | cons c text ih =>
      by_cases hc : c = quote
      · subst hc
        have hih := ih (content ++ [c])
        simpa [double, scanFrom, State.step] using hih
      · have hih := ih (content ++ [c])
        simpa [double, scanFrom, State.step, hc] using hih

/-- A region ends at its quote unless the quote stands there twice. -/
theorem scanFrom_closing {quote : Char} {content rest : List Char}
    (h : rest.head? ≠ some quote) :
    scanFrom (.closing quote content) rest = .quoted quote content :: scan rest := by
  cases rest with
  | nil => rfl
  | cons c rest =>
      have hc : c ≠ quote := by simpa using h
      simp [scan, scanFrom, State.step, hc]

/-- An enclosed text is read as one region that holds it. -/
theorem scan_enclose {quote : Char} (hquote : IsQuote quote)
    (text : List Char) {rest : List Char} (h : rest.head? ≠ some quote) :
    scan (enclose quote text ++ rest) = .quoted quote text :: scan rest := by
  have henter : scan (enclose quote text ++ rest) =
      scanFrom (.inside quote []) (double quote text ++ quote :: rest) := by
    simp [scan, scanFrom, enclose, State.step, State.enter, hquote]
  rw [henter, scanFrom_inside_double, List.nil_append, scanFrom_closing h]

/-! ## What is found among the tokens -/

/-- The words that hand a literal to the engine as a statement. -/
def executionWords : List Char := "EXECUTE STATEMENT ".toList

/-- The contents of the literals that stand directly behind the execution words,
where `before` is what the reader met since the last region. -/
def executedAfter (before : List Char) : List Token → List (List Char)
  | [] => []
  | .bare c :: tokens => executedAfter (before ++ [c]) tokens
  | .quoted quote content :: tokens =>
    if quote = '\'' ∧ executionWords <:+ before then content :: executedAfter [] tokens
    else executedAfter [] tokens
  | .unclosed _ _ :: tokens => executedAfter [] tokens

/-- The statements that a text hands to the engine as literals. -/
def executed (tokens : List Token) : List (List Char) := executedAfter [] tokens

/-- The delimited identifiers among some tokens, decoded. -/
def delimited : List Token → List (List Char)
  | [] => []
  | .quoted quote content :: tokens =>
    if quote = '"' then content :: delimited tokens else delimited tokens
  | _ :: tokens => delimited tokens

/-- Whether the text ends outside every region. -/
def Closed (tokens : List Token) : Prop :=
  ∀ quote content, Token.unclosed quote content ∉ tokens

@[simp]
theorem delimited_append (a b : List Token) :
    delimited (a ++ b) = delimited a ++ delimited b := by
  induction a with
  | nil => rfl
  | cons token a ih =>
      cases token with
      | bare c => simpa [delimited] using ih
      | quoted quote content => by_cases h : quote = '"' <;> simp [delimited, h, ih]
      | unclosed quote content => simpa [delimited] using ih

@[simp]
theorem delimited_map_bare (plain : List Char) : delimited (plain.map .bare) = [] := by
  induction plain with
  | nil => rfl
  | cons c plain ih => simpa [delimited] using ih

theorem executedAfter_map_bare (before plain : List Char) (tokens : List Token) :
    executedAfter before (plain.map .bare ++ tokens) =
      executedAfter (before ++ plain) tokens := by
  induction plain generalizing before with
  | nil => simp
  | cons c plain ih => simp [executedAfter, ih]

/-- Without literals nothing is executed; only what stands before changes. -/
theorem executedAfter_append_of_forall_ne {skipped : List Token}
    (h : ∀ content, Token.quoted '\'' content ∉ skipped)
    (before : List Char) (tokens : List Token) :
    ∃ after, executedAfter before (skipped ++ tokens) = executedAfter after tokens := by
  induction skipped generalizing before with
  | nil => exact ⟨before, rfl⟩
  | cons token skipped ih =>
      have hskipped : ∀ content, Token.quoted '\'' content ∉ skipped :=
        fun content hmem => h content (List.mem_cons_of_mem _ hmem)
      cases token with
      | bare c => exact ih hskipped (before ++ [c])
      | quoted quote content =>
          have hquote : quote ≠ '\'' := by
            rintro rfl
            exact h content List.mem_cons_self
          simpa [executedAfter, hquote] using ih hskipped []
      | unclosed quote content => exact ih hskipped []

end SchemaDdl.Reading
