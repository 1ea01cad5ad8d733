import SchemaDdl.Proofs.Compilation.Content

/-!
# Reading scripts back

A reader of scripts that knows the quotes, the terminator and the two commands
that set it.  `Script.read` skips the header, cuts the rest at the terminators
outside quotes and stops at the footer.

A script writes its statements as they stand, so reading it back rests on the
statements: their terminators must all be quoted, and none may be taken for the
footer.  Both hold of every compiled statement (`Script.Readable`), and
`Script.read_text` says that the script then loses nothing.
-/

namespace SchemaDdl

open Reading

namespace Script

/-! ## The reader -/

/-- The command that a script opens with. -/
def opening : List Char := "SET TERM ^ ;".toList

/-- The command that gives the terminator back, up to the terminator. -/
def closing : List Char := "SET TERM ; ".toList

/-- The text between two terminators, without the line ends before it. -/
def trimmed (tokens : List Token) : List Char := (write tokens).dropWhile (· = '\n')

/-- The statements before the closing command.  A script that ends without one,
or in the middle of it, is not read. -/
def readStatements : List (List Token) → Option (List String)
  | [] | [_] => none
  | chunk :: next :: chunks =>
    if trimmed chunk = closing then some []
    else (readStatements (next :: chunks)).map (String.ofList (trimmed chunk) :: ·)

/-- The statements of a script. -/
def read (script : String) : Option (List String) :=
  if opening <+: script.toList then
    readStatements ((scan (script.toList.drop opening.length)).splitOn (.bare terminator))
  else none

/-! ## Statements that can be found again -/

/-- Whether a statement can open with some words: they neither look like a line
end nor like the closing command. -/
def Opening (words : String) : Prop := words.toList.head?.any (fun c => c ∉ ['\n', 'S'])

instance : DecidablePred Opening :=
  fun words => inferInstanceAs (Decidable (words.toList.head?.any (fun c => c ∉ ['\n', 'S'])))

/-- The terminators of the statement are quoted, and it is not the footer. -/
structure Readable (statement : Statement) : Prop where
  scan_append : ∀ rest : List Char,
    scan (statement.sql.chars ++ terminator :: rest) =
      scan statement.sql.chars ++ .bare terminator :: scan rest
  terminator_not_mem : Token.bare terminator ∉ scan statement.sql.chars
  opens : ∃ words sql, statement.sql = .plain words :: sql ∧ Opening words

theorem not_mem_map_bare {text : List Char} (h : ∀ c ∈ text, Inert c) :
    Token.bare terminator ∉ text.map .bare := by
  intro hmem
  obtain ⟨c, hc, hbare⟩ := List.mem_map.mp hmem
  exact (h c hc).2 (Token.bare.inj hbare)

theorem not_mem_tokens_name (name : Name) : Token.bare terminator ∉ Name.tokens name := by
  intro hmem
  rcases Name.mem_tokens hmem with h | ⟨part, -, h⟩
  · exact absurd h (by decide)
  · cases part with
    | star => exact absurd h (by decide)
    | delimited content => exact Token.noConfusion h

/-- In a regular text only a text of the model could hold a terminator that is
not quoted. -/
theorem not_mem_tokens {sql : Sql} (hregular : Sql.Regular sql)
    (hverbatims : ∀ text ∈ Sql.verbatims sql, InertText text) :
    Token.bare terminator ∉ Sql.tokens sql := by
  induction sql with
  | nil => exact List.not_mem_nil
  | cons piece sql ih =>
      rw [Sql.tokens_cons, List.mem_append, not_or]
      cases piece with
      | plain text =>
          obtain ⟨hinert, -, hsql⟩ := hregular
          exact ⟨not_mem_map_bare hinert, ih hsql hverbatims⟩
      | name parts =>
          obtain ⟨-, -, hsql⟩ := hregular
          exact ⟨not_mem_tokens_name parts, ih hsql hverbatims⟩
      | literal value =>
          obtain ⟨-, hsql⟩ := hregular
          exact ⟨by simp [SqlPiece.tokens], ih hsql hverbatims⟩
      | integer value =>
          obtain ⟨-, hsql⟩ := hregular
          exact ⟨not_mem_map_bare fun _ => inert_of_mem_ofInt, ih hsql hverbatims⟩
      | real value =>
          obtain ⟨-, hsql⟩ := hregular
          exact ⟨not_mem_map_bare fun _ => inert_of_mem_real, ih hsql hverbatims⟩
      | verbatim text =>
          obtain ⟨-, hsql⟩ := hregular
          obtain ⟨hinert, hverbatims⟩ := List.forall_mem_cons.mp hverbatims
          exact ⟨not_mem_map_bare hinert, ih hsql hverbatims⟩

theorem Readable.of_content {verbatims : List String} {names : List Name}
    {executed : List Sql} {statement : Statement}
    (h : Sql.Content verbatims names executed statement.sql)
    (hverbatims : ∀ text ∈ verbatims, InertText text)
    (hopens : ∃ words sql, statement.sql = .plain words :: sql ∧ Opening words) :
    Readable statement := by
  rw [← h.verbatims_eq] at hverbatims
  have hquoteFree : ∀ text ∈ Sql.verbatims statement.sql, QuoteFree text :=
    fun text htext => (hverbatims text htext).quoteFree
  have hscan := Sql.scan_chars h.regular hquoteFree
  refine ⟨?_, ?_, hopens⟩
  · intro rest
    have hterminator : ¬IsQuote terminator := by decide
    have hhead : ∀ c ∈ (terminator :: rest).head?, ¬IsQuote c := by
      rintro c ⟨⟩
      exact hterminator
    rw [Sql.scan_chars_append h.regular hquoteFree hhead, scan_cons hterminator, hscan]
  · rw [hscan]
    exact not_mem_tokens h.regular hverbatims

/-! ## Reading a script -/

/-- The characters of a script behind its header. -/
def body (statements : List Statement) : List Char :=
  statements.flatMap (fun statement => statement.sql.chars ++ [terminator, '\n', '\n']) ++
    footer.toList

/-- Line ends. -/
def blank (n : Nat) : List Char := List.replicate n '\n'

theorem inert_of_mem_blank {n : Nat} {c : Char} (h : c ∈ blank n) : Inert c := by
  obtain rfl := List.eq_of_mem_replicate h
  decide

theorem scan_blank (n : Nat) (rest : List Char) :
    scan (blank n ++ rest) = (blank n).map .bare ++ scan rest :=
  scan_bare (fun _ hc => (inert_of_mem_blank hc).1) rest

/-- Line ends before a text are trimmed. -/
theorem trimmed_blank (n : Nat) (tokens : List Token) :
    trimmed ((blank n).map .bare ++ tokens) = trimmed tokens := by
  have hblank : ∀ c ∈ blank n, decide (c = '\n') = true := by
    intro c hc
    exact decide_eq_true (List.eq_of_mem_replicate hc)
  rw [trimmed, write_append, write_map_bare]
  exact List.dropWhile_append_of_pos hblank

theorem not_mem_blank_append (n : Nat) {tokens : List Token}
    (h : Token.bare terminator ∉ tokens) :
    Token.bare terminator ∉ (blank n).map Token.bare ++ tokens := by
  rw [List.mem_append, not_or]
  exact ⟨not_mem_map_bare fun _ => inert_of_mem_blank, h⟩

theorem Readable.exists_cons {statement : Statement} (h : Readable statement) :
    ∃ c rest, statement.sql.chars = c :: rest ∧ c ≠ '\n' ∧ c ≠ 'S' := by
  obtain ⟨words, sql, hsql, hopening⟩ := h.opens
  cases hwords : words.toList with
  | nil => simp [Opening, hwords] at hopening
  | cons c rest =>
      refine ⟨c, rest ++ Sql.chars sql, ?_, ?_⟩
      · rw [hsql, Sql.chars_cons, SqlPiece.chars, hwords, List.cons_append]
      · simpa [Opening, hwords] using hopening

theorem Readable.trimmed_scan {statement : Statement} (h : Readable statement) :
    trimmed (scan statement.sql.chars) = statement.sql.chars := by
  obtain ⟨c, rest, hchars, hc, -⟩ := h.exists_cons
  rw [trimmed, write_scan, hchars]
  exact List.dropWhile_cons_of_neg (by simpa using hc)

theorem Readable.chars_ne_closing {statement : Statement} (h : Readable statement) :
    statement.sql.chars ≠ closing := by
  obtain ⟨c, rest, hchars, -, hc⟩ := h.exists_cons
  rw [hchars]
  intro hclosing
  exact hc (List.cons.inj hclosing).1

theorem readStatements_cons {chunk : List Token} {chunks : List (List Token)}
    (hchunks : chunks ≠ []) (h : trimmed chunk ≠ closing) :
    readStatements (chunk :: chunks) =
      (readStatements chunks).map (String.ofList (trimmed chunk) :: ·) := by
  cases chunks with
  | nil => exact absurd rfl hchunks
  | cons next chunks => exact if_neg h

/-- What stands behind the header is read statement by statement.  The line ends
behind a terminator are met before the next statement, so the induction is over
any number of them. -/
theorem readStatements_body (n : Nat) {statements : List Statement}
    (h : ∀ statement ∈ statements, Readable statement) :
    readStatements
        (((blank n).map Token.bare ++ scan (body statements)).splitOn (.bare terminator)) =
      some (statements.map Statement.text) := by
  induction statements generalizing n with
  | nil =>
      have hfooter : scan (body []) =
          closing.map Token.bare ++ .bare terminator :: [.bare '\n'] := by decide
      have hclosing : Token.bare terminator ∉ closing.map Token.bare := by decide
      have htrimmed : trimmed ((blank n).map .bare ++ closing.map .bare) = closing := by
        rw [trimmed_blank]
        decide
      rw [hfooter, ← List.append_assoc,
        List.splitOn_append_cons_self_of_not_mem (not_mem_blank_append n hclosing)]
      exact if_pos htrimmed
  | cons statement statements ih =>
      obtain ⟨hstatement, hstatements⟩ := List.forall_mem_cons.mp h
      have hbody : body (statement :: statements) =
          statement.sql.chars ++ terminator :: (blank 2 ++ body statements) := by
        simp [body, blank]
      have hchunk := not_mem_blank_append n hstatement.terminator_not_mem
      have htrimmed :
          trimmed ((blank n).map .bare ++ scan statement.sql.chars) = statement.sql.chars := by
        rw [trimmed_blank, hstatement.trimmed_scan]
      have hclosing : trimmed ((blank n).map .bare ++ scan statement.sql.chars) ≠ closing := by
        rw [htrimmed]
        exact hstatement.chars_ne_closing
      rw [hbody, hstatement.scan_append, scan_blank, ← List.append_assoc,
        List.splitOn_append_cons_self_of_not_mem hchunk,
        readStatements_cons (List.splitOn_ne_nil _ _) hclosing, htrimmed, ih 2 hstatements]
      rfl

theorem read_text_of_readable {statements : List Statement}
    (h : ∀ statement ∈ statements, Readable statement) :
    read (text statements) = some (statements.map Statement.text) := by
  have htext : (text statements).toList = opening ++ (blank 2 ++ body statements) := by
    rw [text, String.toList_ofList, chars, List.append_assoc]
    rfl
  rw [read, htext, if_pos (List.prefix_append _ _), List.drop_left, scan_blank]
  exact readStatements_body 2 h

/-! ## Scripts of plans -/

theorem readable_of_compiled {settings : Settings} {plan : TablePlan}
    (hverbatims : ∀ text ∈ plan.verbatims, InertText text) {command : TableCommand}
    {statement : Statement} (h : plan.Compiled settings command statement) :
    Readable statement := by
  obtain ⟨sql, hsql⟩ := h.opens
  have hopening : Opening (plan.openingWords command) := by
    cases command with
    | create =>
        rw [TablePlan.openingWords, TablePlan.creationWords]
        split <;> decide
    | _ =>
        rw [TablePlan.openingWords]
        decide
  exact .of_content h.content
    (fun text htext => hverbatims text (TablePlan.mem_verbatims_of_command htext))
    ⟨_, sql, hsql, hopening⟩

theorem readable_compileNamed (settings : Settings) (plan : SequencePlan)
    (command : SequenceCommand) : Readable (plan.compileNamed settings command) := by
  obtain ⟨sql, hsql⟩ := plan.compileNamed_opens settings command
  have hopening : Opening (SequencePlan.openingWords command) := by
    cases command <;> decide
  exact .of_content (plan.content_compileNamed settings command) (by simp)
    ⟨_, sql, hsql, hopening⟩

/-- The script of a plan is read back to the statements of the plan, provided that
the texts that the model passes through hold neither quotes nor terminators. -/
theorem read_script_of_plan (settings : Settings) :
    (∀ (plan : TablePlan) (statements : List Statement),
      plan.statements settings = .ok statements →
      (∀ text ∈ plan.verbatims, InertText text) →
      read (text statements) = some (statements.map Statement.text)) ∧
    (∀ (plan : SequencePlan) (statements : List Statement),
      plan.statements settings = .ok statements →
      read (text statements) = some (statements.map Statement.text)) := by
  constructor
  · intro plan statements hstatements hverbatims
    apply read_text_of_readable
    intro statement hmem
    obtain ⟨command, hcompiled⟩ := TablePlan.exists_compiled hstatements hmem
    exact readable_of_compiled hverbatims hcompiled
  · intro plan statements hstatements
    apply read_text_of_readable
    intro statement hmem
    obtain ⟨command, rfl⟩ := SequencePlan.exists_compiled hstatements hmem
    exact readable_compileNamed settings plan command

/-- A table whose names, values and defaults hold terminators, quotes and line ends. -/
theorem read_script_of_marked_plan :
    let settings : Settings := { tablePrefix := "^\n" }
    let plan : TablePlan :=
      { table := "a^\"b';"
        columns := [
          { name := "^", type := .enumeration ["it's ^", "\"\n^;"]
            defaultValue := some (.string "'^'"), collation := some "UNICODE" },
          .increments "\n^\""]
        commands := [.create, .index (some "^;") ["^"], .dropGenerator] }
    ∃ statements, plan.statements settings = .ok statements ∧
      (∀ text ∈ plan.verbatims, InertText text) ∧
      read (text statements) = some (statements.map Statement.text) := by
  intro settings plan
  have hverbatims : ∀ text ∈ plan.verbatims, InertText text := by decide
  have hcompiles : ∃ statements, plan.statements settings = .ok statements := ⟨_, rfl⟩
  obtain ⟨statements, hstatements⟩ := hcompiles
  exact ⟨statements, hstatements, hverbatims,
    (read_script_of_plan settings).1 plan statements hstatements hverbatims⟩

end Script

end SchemaDdl
