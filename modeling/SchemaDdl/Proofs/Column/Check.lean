import SchemaDdl.Proofs.Column.Separation

/-!
# The check of an enumeration read back

The type of an enumeration carries a check of the column against a list of literals.
The allowed values may hold quotes, commas and brackets themselves.

A reader that knows quotes and brackets finds the check behind the name that opens the
definition (`readChecked`).  Its list decodes to the allowed values, and a default is one
of its literals just if it is allowed (`enumeration_admits_allowed`).  What the model
passes through stands behind the check, so the reader need not understand it.
-/

namespace SchemaDdl

open Reading

/-! ## Literals -/

/-- The text of a string literal. -/
def literalText (value : String) : String := Sql.text [.literal value]

/-- The value of a text that is a string literal. -/
def decodeLiteral? (text : String) : Option String :=
  match readLiteral (scan text.toList) with
  | some (value, []) => some value
  | _ => none

theorem decodeLiteral?_literalText (value : String) :
    decodeLiteral? (literalText value) = some value := by
  have hregular : Sql.Regular [.literal value] := ⟨trivial, trivial⟩
  rw [decodeLiteral?, literalText, Sql.toList_text, Sql.scan_chars hregular (by simp)]
  simp [SqlPiece.tokens, readLiteral]

theorem literalText_injective : Function.Injective literalText := by
  intro value value' h
  have hdecoded := decodeLiteral?_literalText value
  rw [h, decodeLiteral?_literalText] at hdecoded
  exact (Option.some.inj hdecoded).symm

theorem mapM_decodeLiteral? (values : List String) :
    (values.map literalText).mapM decodeLiteral? = some values := by
  have hdecode : decodeLiteral? ∘ literalText = fun value => pure (id value) := by
    funext value
    rw [Function.comp_apply, decodeLiteral?_literalText]
    rfl
  rw [List.mapM_map, hdecode, List.mapM_pure, List.map_id]
  rfl

theorem itemText_literal (value : String) :
    itemText (Sql.tokens [.literal value]) = literalText value := by
  simp [itemText, literalText, Sql.text, SqlPiece.tokens, SqlPiece.chars, Token.chars]

/-! ## Reading a definition with a check -/

/-- What a reader finds in the definition of a column with a check. -/
structure CheckedDefinition where
  /-- The name that opens the definition. -/
  opening : Name
  /-- The name that is checked. -/
  checked : Name
  /-- The items of the list, as they are written. -/
  items : List String
  /-- The text behind the check. -/
  rest : String
deriving DecidableEq, Repr

/-- The definition of a column with a check, up to the list. -/
def checkForm : Form := [.name, .words " VARCHAR(255) CHECK (", .name, .words " IN ("]

/-- Reads a definition with a check, which a second bracket behind the list closes. -/
def readChecked (text : String) : Option CheckedDefinition :=
  (checkForm.read (scan text.toList)).bind fun (values, body) =>
    match values, readList body with
    | [.name opening, .name checked], (items, some (.bare ')' :: rest)) =>
      some ⟨opening, checked, items.map itemText, String.ofList (write rest)⟩
    | _, _ => none

namespace Column

variable {column : Column} {allowed : List String}

theorem typeSql_enumeration (htype : column.type = .enumeration allowed) {type : Sql}
    (h : column.typeSql = .ok type) : allowed ≠ [] ∧ type = checked column.name allowed := by
  rw [typeSql, htype] at h
  cases allowed with
  | nil => exact absurd h (by simp)
  | cons value allowed => exact ⟨List.cons_ne_nil _ _, (Except.ok.inj h).symm⟩

/-- The literals of a check, with commas between them. -/
def literals (allowed : List String) : Sql :=
  Sql.separated ", " (allowed.map fun value => [.literal value])

/-- The definition of an enumeration, as its form tells it up to the list. -/
theorem tokens_checked (name : Name) (column : String) (allowed : List String) :
    Sql.tokens (.name name :: .plain " " :: checked column allowed) =
      Sql.tokens [.name name, .plain " VARCHAR(255) CHECK (", .name (.ofString column),
          .plain " IN ("] ++ (Sql.tokens (literals allowed) ++ [.bare ')', .bare ')']) := by
  have htype : (SqlPiece.plain " VARCHAR(255) CHECK (").tokens =
      (SqlPiece.plain " ").tokens ++ (Sql.tokens (sized "VARCHAR" 255) ++
        (SqlPiece.plain " CHECK (").tokens) := by decide
  have hclose : (SqlPiece.plain "))").tokens = [.bare ')', .bare ')'] := rfl
  simp only [checked, literals, Sql.tokens_cons, Sql.tokens_append, Sql.tokens_nil,
    List.append_assoc, List.append_nil, htype, hclose]

theorem head?_literals (allowed : List String) (rest : List Token) :
    (Sql.tokens (literals allowed) ++ .bare ')' :: rest).head? ≠ some (.bare '.') := by
  match allowed with
  | [] => simp [literals, Sql.separated]
  | [_] => simp [literals, SqlPiece.tokens]
  | _ :: _ :: _ => simp [literals, Sql.separated_cons_cons, SqlPiece.tokens]

theorem readList_literals (hallowed : allowed ≠ []) (rest : List Token) :
    readList (Sql.tokens (literals allowed) ++ .bare ')' :: rest) =
      (allowed.map fun value => Sql.tokens [.literal value], some rest) := by
  have hparts : (allowed.map fun value => [SqlPiece.literal value]) ≠ [] := by simpa using hallowed
  have hnests : ∀ part ∈ allowed.map fun value => [SqlPiece.literal value],
      Sql.Nests 0 part 0 := by
    intro part hpart
    obtain ⟨value, -, rfl⟩ := List.mem_map.mp hpart
    exact .value trivial .nil
  have hopens : ∀ part ∈ allowed.map fun value => [SqlPiece.literal value],
      (Sql.tokens part).head? ≠ some (.bare ' ') := by
    intro part hpart
    obtain ⟨value, -, rfl⟩ := List.mem_map.mp hpart
    simp [SqlPiece.tokens]
  have hend : readItems 0 (.bare ')' :: rest) = ([[]], some rest) := rfl
  rw [literals, Sql.readList_separated hparts hnests hopens hend, List.map_map]
  rfl

theorem read_checkForm {name : Name} (hname : name ≠ []) (column : String) {body : List Token}
    (hbody : body.head? ≠ some (.bare '.')) :
    checkForm.read (Sql.tokens [.name name, .plain " VARCHAR(255) CHECK (",
        .name (.ofString column), .plain " IN ("] ++ body) =
      some ([.name name, .name (.ofString column)], body) := by
  have hfills : Form.Fills checkForm [.name name, .name (.ofString column)]
      [.name name, .plain " VARCHAR(255) CHECK (", .name (.ofString column), .plain " IN ("] :=
    .name name (.words _ (.name _ (.words _ .nil)))
  have hcontent : Sql.Content [] [name, .ofString column] []
      [.name name, .plain " VARCHAR(255) CHECK (", .name (.ofString column), .plain " IN ("] :=
    .name hname rfl (.keywords (by decide) (.named column (by decide) .nil))
  exact Form.read_tokens hfills hcontent.regular hbody

/-- Whatever the modifiers hold, a reader meets nothing of it before them. -/
theorem scan_before_modifiers {sql : Sql} (hregular : Sql.Regular sql)
    (hverbatims : Sql.verbatims sql = []) (mode : IdentityMode) (column : Column) :
    scan (Sql.chars (sql ++ column.modifiers mode)) =
      Sql.tokens sql ++ scan (Sql.chars (column.modifiers mode)) := by
  obtain ⟨hcontent, hopen⟩ := content_modifiers mode column
  have hquote : ∀ c, Inert c → c ≠ '.' → ¬IsQuote c := fun _ hc _ => hc.1
  have hnil : ∀ c ∈ ([] : List Char).head?, ¬IsQuote c := by simp
  have hhead := Sql.head_of_opensPlain hquote hcontent.regular hopen hnil
  rw [List.append_nil] at hhead
  rw [Sql.chars_append]
  exact Sql.scan_chars_append hregular (by simp [hverbatims]) hhead

/-- The definition of an enumeration is read back, whatever its modifiers hold. -/
theorem readChecked_definition {mode : IdentityMode} {definition : Sql}
    (htype : column.type = .enumeration allowed) (h : column.definition mode = .ok definition) :
    readChecked definition.text =
      some { opening := .ofString column.name, checked := .ofString column.name,
             items := allowed.map literalText, rest := (column.modifiers mode).text } := by
  obtain ⟨-, type, htypeSql, rfl⟩ := definition_eq_ok_iff.mp h
  obtain ⟨hallowed, rfl⟩ := typeSql_enumeration htype htypeSql
  have hname := Name.ofString_ne_nil column.name
  have hcontent : Sql.Content [] [.ofString column.name, .ofString column.name] []
      (.name (.ofString column.name) :: .plain " " :: checked column.name allowed) :=
    .name hname rfl (.blank rfl (content_checked column.name allowed))
  have hscan := scan_before_modifiers hcontent.regular hcontent.verbatims_eq mode column
  simp only [tokens_checked, List.append_assoc, List.cons_append, List.nil_append] at hscan
  -- The modifiers may hold any quotes, so what is read of them is kept as it is.
  generalize hrest : scan (Sql.chars (column.modifiers mode)) = rest at hscan
  have hread := read_checkForm hname column.name (head?_literals allowed (.bare ')' :: rest))
  have hlist := readList_literals hallowed (.bare ')' :: rest)
  have hitems : (allowed.map fun value => Sql.tokens [.literal value]).map itemText =
      allowed.map literalText := by
    rw [List.map_map]
    exact List.map_congr_left fun value _ => itemText_literal value
  have hmodifiers : String.ofList (write rest) = (column.modifiers mode).text := by
    rw [← hrest, write_scan, Sql.text]
  rw [readChecked, Sql.toList_text, hscan, hread, Option.bind_some]
  simp only [hlist, hitems, hmodifiers]

theorem suffix_modifiers_of_default {value : DefaultValue}
    (hdefault : column.defaultValue = some value) (mode : IdentityMode) :
    " DEFAULT ".toList ++ Sql.chars value.sql <:+ Sql.chars (column.modifiers mode) := by
  have hclause : clause mode column .default = .plain " DEFAULT " :: value.sql := by
    simp [clause, Modifier.sql?, hdefault]
  have horder : Modifier.inOrder = [.charset, .collate, .increment, .nullable] ++ [.default] := rfl
  rw [modifiers_eq_flatMap, horder, List.flatMap_append, List.flatMap_singleton, hclause,
    Sql.chars_append]
  exact List.suffix_append _ _

end Column

/-- A reader finds in the definition of an enumeration a check of the name that opens it,
behind the type and before the modifiers.  The list of the check decodes to the allowed
values, in their order and as often as they are given.  A string default ends the
modifiers, and its literal is written like one of the list just if it is allowed. -/
theorem enumeration_admits_allowed {settings : Settings} {plan : TablePlan} {column : Column}
    {allowed : List String} {definition : Sql} (htype : column.type = .enumeration allowed)
    (h : column.definition (plan.mode settings) = .ok definition) :
    ∃ found, readChecked definition.text = some found ∧
      found.opening = .ofString column.name ∧ found.checked = found.opening ∧
      found.items.mapM decodeLiteral? = some allowed ∧
      found.rest = (column.modifiers (plan.mode settings)).text ∧
      ∀ value, column.defaultValue = some (.string value) →
        " DEFAULT ".toList ++ Sql.chars (DefaultValue.string value).sql <:+ found.rest.toList ∧
          (Sql.text (DefaultValue.string value).sql ∈ found.items ↔ value ∈ allowed) := by
  have hread := Column.readChecked_definition htype h
  refine ⟨_, hread, rfl, rfl, ?_, rfl, ?_⟩
  · exact mapM_decodeLiteral? allowed
  · intro value hdefault
    constructor
    · rw [Sql.toList_text]
      exact Column.suffix_modifiers_of_default hdefault _
    · exact List.mem_map_of_injective literalText_injective

/-- Values that look like the end of the list, one of them twice, behind a name and before
a character set that hold quotes. -/
theorem enumeration_admits_allowed_of_hostile_values :
    let plan : TablePlan := { table := "t", identity := some .native }
    let allowed := ["a', 'b", "')) DEFAULT '", "", "a', 'b"]
    let column : Column :=
      { name := "k\" IN ('x.y", type := .enumeration allowed, charset := some "it's" }
    let allowing : Column := { column with defaultValue := some (.string "')) DEFAULT '") }
    let refusing : Column := { column with defaultValue := some (.string "b") }
    (∃ definition found, allowing.definition (plan.mode {}) = .ok definition ∧
      readChecked definition.text = some found ∧
      found.items.mapM decodeLiteral? = some allowed ∧
      Sql.text (DefaultValue.string "')) DEFAULT '").sql ∈ found.items) ∧
    ∃ definition found, refusing.definition (plan.mode {}) = .ok definition ∧
      readChecked definition.text = some found ∧
      Sql.text (DefaultValue.string "b").sql ∉ found.items := by
  intro plan allowed column allowing refusing
  constructor
  · obtain ⟨definition, hdefinition⟩ :
        ∃ definition, allowing.definition (plan.mode {}) = .ok definition := ⟨_, rfl⟩
    obtain ⟨found, hfound, -, -, hitems, -, hdefault⟩ :=
      enumeration_admits_allowed (rfl : allowing.type = .enumeration allowed) hdefinition
    obtain ⟨-, hliteral⟩ := hdefault _ rfl
    exact ⟨definition, found, hdefinition, hfound, hitems, hliteral.mpr (by decide)⟩
  · obtain ⟨definition, hdefinition⟩ :
        ∃ definition, refusing.definition (plan.mode {}) = .ok definition := ⟨_, rfl⟩
    obtain ⟨found, hfound, -, -, -, -, hdefault⟩ :=
      enumeration_admits_allowed (rfl : refusing.type = .enumeration allowed) hdefinition
    obtain ⟨-, hliteral⟩ := hdefault _ rfl
    have hrefused : "b" ∉ allowed := by decide
    exact ⟨definition, found, hdefinition, hfound, mt hliteral.mp hrefused⟩

end SchemaDdl
