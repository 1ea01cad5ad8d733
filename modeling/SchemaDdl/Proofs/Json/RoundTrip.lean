import SchemaDdl.Proofs.Json.Survival
import SchemaDdl.Sequence.Json
import SchemaDdl.Table.Json

/-!
# Models survive JSON

The layouts of the models say which of their fields may be left out of a description.
With them `models_survive_json` holds: whatever variant of the description of a table
plan, a foreign key, a sequence plan or some settings is read, the same value comes back.

Each record is read field by field, so a field that is added to a model needs one entry in
its layout and one more fact in its proof.  A command of a plan is read in two steps,
first its tag and then the fields beside it (`TableCommand.survives`).
-/

namespace SchemaDdl

open Json (Survives Offers StaysComplete)

/-! ## Columns -/

namespace ColumnType

theorem ofLabel?_label : ∀ type ∈ bareTypes, ofLabel? type.label = some type := by decide

theorem survives_bare {type : ColumnType} (h : type ∈ bareTypes) :
    Survives ofJson? .plain (.text type.label) type := by
  intro variant hvariant
  rw [hvariant.eq_text]
  simp [ofJson?, Json.caseName?, Json.text, ofLabel?_label type h]

theorem ofJson?_case {kind : String} (h : ofLabel? kind = none) (content : Json) :
    ofJson? (.record [(kind, content)]) = ofContent? kind content := by
  have hname : ((Json.record [(kind, content)]).caseName? Json.isNull).bind ofLabel? = none := by
    change (if content.isNull then some kind else none).bind ofLabel? = none
    split <;> simp [h]
  rw [ofJson?, hname]
  rfl

theorem survives_case {kind : String} {content : Json} {type : ColumnType}
    (hlabel : ofLabel? kind = none) (h : Survives (ofContent? kind) .plain content type) :
    Survives ofJson? .plain (.record [(kind, content)]) type := by
  refine Json.survives_case fun variant hvariant => ?_
  exact (ofJson?_case hlabel variant).trans (h variant hvariant)

theorem survives_decimal (total places : UInt8) :
    Survives (ofContent? "decimal") .plain
      (.record [("total", .int total.toNat), ("places", .int places.toNat)])
      (decimal total places) := by
  have hdistinct : ["total", "places"].Nodup := by decide
  refine Json.survives_record hdistinct fun named hoffers => ?_
  have hfields := hoffers.fields? (List.Subset.refl ["total", "places"])
  have htotal := hoffers.required "total" (by simp) nofun (Json.survives_uint8 total)
  have hplaces := hoffers.required "places" (by simp) nofun (Json.survives_uint8 places)
  simp [ofContent?, hfields, htotal, hplaces]

theorem survives (type : ColumnType) : Survives ofJson? .plain type.toJson type := by
  cases type with
  | char length => exact survives_case rfl ((Json.survives_uint32 length).map char)
  | string length => exact survives_case rfl ((Json.survives_uint32 length).map string)
  | decimal total places => exact survives_case rfl (survives_decimal total places)
  | enumeration allowed =>
      have hallowed : Survives (Json.list? Json.text?) .plain (.array (allowed.map Json.text))
          allowed := Json.survives_list fun value _ => Json.survives_text value
      exact survives_case rfl (hallowed.map enumeration)
  | _ => exact survives_bare (by decide)

end ColumnType

theorem DefaultValue.survives {value : DefaultValue} (h : value.isFinite = true) :
    Survives ofJson? .plain value.toJson value := by
  cases value with
  | bool value => exact Json.survives_case ((Json.survives_bool value).map bool)
  | integer value => exact Json.survives_case ((Json.survives_int64 value).map integer)
  | real value =>
      have hreal : Survives Binary64.ofJson? .plain (.number (.real value)) value := by
        intro variant hvariant
        rw [hvariant.eq_number]
        rfl
      have hfinite : value.isFinite = true := h
      rw [toJson, if_pos hfinite]
      exact Json.survives_case (hreal.map real)
  | string value => exact Json.survives_case ((Json.survives_text value).map string)
  | expression sql => exact Json.survives_case ((Json.survives_text sql).map expression)

namespace Column

/-- A name and a type must be given. -/
def layout : Layout := .record [
  ("name", none, .plain),
  ("type", none, .plain),
  ("nullable", some (.bool false), .plain),
  ("default", some .null, .plain),
  ("auto_increment", some (.bool false), .plain),
  ("charset", some .null, .plain),
  ("collation", some .null, .plain),
  ("use_current", some (.bool false), .plain)]

theorem survives {column : Column}
    (hfinite : column.defaultValue.all DefaultValue.isFinite = true) :
    Survives ofJson? layout column.toJson column := by
  have hdistinct : fieldNames.Nodup := by decide
  refine Json.survives_record hdistinct fun named hoffers => ?_
  have hfields := hoffers.fields? (List.Subset.refl fieldNames)
  have hname := hoffers.required "name" (by simp) nofun (Json.survives_text column.name)
  have htype := hoffers.required "type" (by simp) nofun column.type.survives
  have hnullable : _ = some column.nullable := hoffers.flag "nullable" (by simp) rfl
  have hvalue : ∀ value ∈ column.defaultValue,
      Survives DefaultValue.ofJson? .plain value.toJson value :=
    fun value hvalue => DefaultValue.survives ((Option.all_eq_true _ _).mp hfinite value hvalue)
  have hdefault : _ = some column.defaultValue :=
    hoffers.optional "default" (by simp) rfl rfl hvalue
  have hautoIncrement : _ = some column.autoIncrement :=
    hoffers.flag "auto_increment" (by simp) rfl
  have hcharset : _ = some column.charset := hoffers.optionalText "charset" (by simp) rfl
  have hcollation : _ = some column.collation := hoffers.optionalText "collation" (by simp) rfl
  have huseCurrent : _ = some column.useCurrent := hoffers.flag "use_current" (by simp) rfl
  simp [ofJson?, hfields, hname, htype, hnullable, hdefault, hautoIncrement, hcharset, hcollation,
    huseCurrent]

end Column

/-! ## Commands -/

theorem ReferentialAction.survives {isNothing : Json → Bool} (action : ReferentialAction) :
    Survives (ofJson? isNothing) .plain action.toJson action := by
  intro variant hvariant
  rw [hvariant.eq_text]
  cases action <;> rfl

theorem IdentityMode.survives (mode : IdentityMode) :
    Survives ofJson? .plain mode.toJson mode := by
  intro variant hvariant
  rw [hvariant.eq_text]
  cases mode <;> rfl

theorem Json.survives_texts {layout : Layout} (values : List String) :
    Survives Json.texts? layout (.texts values) values :=
  Json.survives_list fun value _ => Json.survives_text value

/-- A name that is written only if there is one. -/
theorem Json.Offers.optionalName {layout : Layout} {name : Option String}
    {fields named : Json.Fields}
    (h : Offers layout ((name.map fun name => ("index", Json.text name)).toList ++ fields) named)
    (hfields : "index" ∉ fields.map Prod.fst)
    (hdefault : layout.default? (some "index") = some .null) :
    named.optional "index" Json.text? = some name := by
  cases name with
  | none => exact h.optional_of_absent hfields
  | some name =>
      have hfield : ("index", Json.ofOption .text (some name)) ∈
          ("index", Json.text name) :: fields := List.mem_cons_self
      exact h.optionalText "index" hfield hdefault

namespace ForeignKey

/-- The columns must be given. -/
def layout : Layout := .record [
  ("index", some .null, .plain),
  ("columns", none, .plain),
  ("on", some .null, .plain),
  ("references", some (.array []), .plain),
  ("on_delete", some .null, .plain),
  ("on_update", some .null, .plain)]

theorem names_sublist (key : ForeignKey) : (key.toFields.map Prod.fst).Sublist fieldNames := by
  cases h : key.name <;> simp [toFields, fieldNames, h]

theorem ofJson?_record {key : ForeignKey} (isNothing : Json → Bool) {named : Json.Fields}
    (hoffers : Offers layout key.toFields named) :
    ofJson? isNothing (.record named) = some key := by
  have hfields := hoffers.fields? key.names_sublist.subset
  have hname : _ = some key.name := hoffers.optionalName (by simp) rfl
  have hcolumns : _ = some key.columns :=
    hoffers.required "columns" (by simp [toFields]) nofun (Json.survives_texts key.columns)
  have hon : _ = some key.on := hoffers.optionalText "on" (by simp [toFields]) rfl
  have hreferences : named.withDefault "references" Json.texts? [] = some key.references :=
    hoffers.list "references" (by simp [toFields, Json.texts]) rfl
      fun text _ => Json.survives_text text
  have haction : ∀ action : ReferentialAction,
      Survives (ReferentialAction.ofJson? isNothing) .plain action.toJson action :=
    ReferentialAction.survives
  have honDelete : _ = some key.onDelete :=
    hoffers.optional "on_delete" (by simp [toFields]) rfl rfl fun action _ => haction action
  have honUpdate : _ = some key.onUpdate :=
    hoffers.optional "on_update" (by simp [toFields]) rfl rfl fun action _ => haction action
  simp [ofJson?, hfields, hname, hcolumns, hon, hreferences, honDelete, honUpdate]

theorem survives (key : ForeignKey) :
    Survives (ofJson? Json.isNull) layout key.toJson key := by
  have hdistinct : fieldNames.Nodup := by decide
  exact Json.survives_record (key.names_sublist.nodup hdistinct) fun named hoffers =>
    ofJson?_record Json.isNull hoffers

end ForeignKey

/-- A text, some texts or nothing. -/
inductive Json.Flat : Json → Prop
  | null : Flat .null
  | text (value : String) : Flat (.text value)
  | texts (values : List String) : Flat (.texts values)

namespace Json

theorem VariantItems.eq_texts {layout : Layout} {values : List String} {items : List Json}
    (h : VariantItems layout (values.map text) items) : items = values.map text := by
  induction values generalizing items with
  | nil =>
      cases h
      rfl
  | cons value values ih =>
      cases h with
      | cons hitem hitems => rw [hitem.eq_text, ih hitems, List.map_cons]

theorem areComplete_texts (depth : Nat) (values : List String) :
    areComplete depth (values.map text) = true := by
  induction values with
  | nil => rfl
  | cons value values ih => rw [List.map_cons, areComplete, ih]; rfl

theorem Flat.staysComplete {json : Json} (h : Flat json) {depth : Nat} (hdepth : 0 < depth)
    (layout : Layout) : StaysComplete depth layout json := by
  obtain ⟨depth, rfl⟩ := Nat.exists_eq_add_one.mpr hdepth
  intro variant hvariant
  cases h with
  | null =>
      rw [hvariant.eq_null]
      rfl
  | text value =>
      rw [hvariant.eq_text]
      rfl
  | texts values =>
      cases hvariant with
      | array hitems =>
          rw [hitems.eq_texts]
          exact areComplete_texts depth values

theorem Flat.ofOption {α : Type} {toJson : α → Json} (h : ∀ content, Flat (toJson content))
    (value : Option α) : Flat (.ofOption toJson value) := by
  cases value with
  | none => exact .null
  | some content => exact h content

theorem flat_name (name : Option String) :
    ∀ field ∈ (name.map fun name => ("index", text name)).toList, field.2.Flat := by
  cases name with
  | none => simp
  | some name => simpa using Flat.text name

end Json

theorem ForeignKey.flat_toFields (key : ForeignKey) : ∀ field ∈ key.toFields, field.2.Flat := by
  have haction : ∀ action : ReferentialAction, action.toJson.Flat := fun action => .text _
  intro field hfield
  simp only [toFields, List.mem_append, List.mem_cons, List.not_mem_nil, or_false] at hfield
  rcases hfield with hname | rfl | rfl | rfl | rfl | rfl
  · exact Json.flat_name key.name field hname
  · exact .texts _
  · exact .ofOption .text _
  · exact .texts _
  · exact .ofOption haction _
  · exact .ofOption haction _

namespace TableCommand

/-- Only the fields of foreign keys have defaults. -/
def layout : Layout := ForeignKey.layout

theorem flat_toFields (command : TableCommand) : ∀ field ∈ command.toFields, field.2.Flat := by
  cases command with
  | primary columns => simpa [toFields] using Json.Flat.texts columns
  | unique name columns | index name columns =>
      exact List.forall_mem_append.mpr
        ⟨Json.flat_name name, by simpa using Json.Flat.texts columns⟩
  | foreign key => exact key.flat_toFields
  | dropForeign name => simpa [toFields] using Json.Flat.text name
  | generatorTrigger column => simpa [toFields] using Json.Flat.text column
  | create | drop | add | createGenerator | dropGenerator => simp [toFields]

theorem names_sublist (command : TableCommand) :
    (command.toFields.map Prod.fst).Sublist (ForeignKey.fieldNames ++ ["column"]) := by
  cases command with
  | foreign key => exact key.names_sublist.trans (List.sublist_append_left _ _)
  | unique name | index name => cases name <;> simp [toFields, ForeignKey.fieldNames]
  | _ => simp [toFields, ForeignKey.fieldNames]

theorem nameAndColumns?_record {name : Option String} {columns : List String}
    {named : Json.Fields} (hoffers : Offers layout
      ((name.map fun name => ("index", Json.text name)).toList ++
        [("columns", Json.texts columns)]) named) :
    nameAndColumns? (.record named) = some (name, columns) := by
  have hnames : (((name.map fun name => ("index", Json.text name)).toList ++
      [("columns", Json.texts columns)]).map Prod.fst).Sublist ["index", "columns"] := by
    cases name <;> simp
  have hfields := hoffers.fields? hnames.subset
  have hname : _ = some name := hoffers.optionalName (by simp) rfl
  have hcolumns := hoffers.required "columns" (by simp) nofun (Json.survives_texts columns)
  simp [nameAndColumns?, hfields, hname, hcolumns]

theorem survives {depth : Nat} (hdepth : 0 < depth) (command : TableCommand) :
    Survives (ofJson? depth) layout command.toJson command := by
  have hdistinct : ((("command", .text command.label) :: command.toFields).map
      (Prod.fst : String × Json → String)).Nodup := by
    have hnames : ("command" :: (ForeignKey.fieldNames ++ ["column"])).Nodup := by decide
    exact (command.names_sublist.cons_cons "command").nodup hnames
  refine Json.survives_record hdistinct fun named hoffers => ?_
  have hcomplete : ∀ field ∈ command.toFields,
      StaysComplete depth (layout.field (some field.1)) field.2 :=
    fun field hfield => (command.flat_toFields field hfield).staysComplete hdepth _
  obtain ⟨rest, htagged, hrest⟩ := hoffers.exists_tagged rfl hcomplete
  rw [ofJson?, htagged]
  change ofLabel? command.label (.record rest) = some command
  cases command with
  | create | drop | add | createGenerator | dropGenerator => rfl
  | primary columns =>
      have hfields := hrest.fields? (List.Subset.refl ["columns"])
      have hcolumns :=
        hrest.required "columns" (by simp [toFields]) nofun (Json.survives_texts columns)
      simp [label, ofLabel?, hfields, hcolumns]
  | unique name columns | index name columns =>
      simp [label, ofLabel?, nameAndColumns?_record hrest]
  | foreign key => exact congrArg (Option.map foreign) (ForeignKey.ofJson?_record _ hrest)
  | dropForeign name =>
      have hfields := hrest.fields? (List.Subset.refl ["index"])
      have hpresent : layout.default? (some "index") ≠ some (Json.text name) :=
        fun hnull => Json.noConfusion (Option.some.inj hnull)
      have hname := hrest.required "index" (by simp [toFields]) hpresent (Json.survives_text name)
      simp [label, ofLabel?, hfields, hname]
  | generatorTrigger column =>
      have hfields := hrest.fields? (List.Subset.refl ["column"])
      have hcolumn := hrest.required "column" (by simp [toFields]) nofun (Json.survives_text column)
      simp [label, ofLabel?, hfields, hcolumn]

end TableCommand

/-! ## Plans and settings -/

namespace TablePlan

/-- The table must be given. -/
def layout : Layout := .record [
  ("table", none, .plain),
  ("temporary", some (.bool false), .plain),
  ("preserve", some (.bool false), .plain),
  ("identity", some .null, .plain),
  ("columns", some (.array []), .items Column.layout),
  ("commands", some (.array []), .items TableCommand.layout)]

theorem survives {plan : TablePlan}
    (hfinite : ∀ column ∈ plan.columns, column.defaultValue.all DefaultValue.isFinite = true) :
    Survives ofJson? layout plan.toJson plan := by
  have hdistinct : fieldNames.Nodup := by decide
  refine Json.survives_record hdistinct fun named hoffers => ?_
  have hfields := hoffers.fields? (List.Subset.refl fieldNames)
  have htable := hoffers.required "table" (by simp) nofun (Json.survives_text plan.table)
  have htemporary : _ = some plan.temporary := hoffers.flag "temporary" (by simp) rfl
  have hpreserve : _ = some plan.preserve := hoffers.flag "preserve" (by simp) rfl
  have hidentity : _ = some plan.identity :=
    hoffers.optional "identity" (by simp) rfl rfl fun mode _ => IdentityMode.survives mode
  have hcolumns : _ = some plan.columns :=
    hoffers.list "columns" (by simp) rfl fun column hcolumn =>
      Column.survives (hfinite column hcolumn)
  have hcommand : ∀ command : TableCommand, Survives
      (TableCommand.ofJson? (Json.depthLimit - 3)) TableCommand.layout command.toJson command :=
    TableCommand.survives (by decide)
  have hcommands : _ = some plan.commands :=
    hoffers.list "commands" (by simp) rfl fun command _ => hcommand command
  simp [ofJson?, hfields, htable, htemporary, hpreserve, hidentity, hcolumns, hcommands]

end TablePlan

theorem SequenceCommand.survives (depth : Nat) (command : SequenceCommand) :
    Survives (ofJson? depth) .plain command.toJson command := by
  refine Json.survives_record (List.nodup_singleton "command") fun named hoffers => ?_
  obtain ⟨rest, htagged, -⟩ := hoffers.exists_tagged rfl (by simp)
  rw [ofJson?, htagged]
  cases command <;> rfl

namespace SequencePlan

/-- The name of the sequence must be given; it counts by 1 unless its step is. -/
def layout : Layout := .record [
  ("sequence", none, .plain),
  ("start", some .null, .plain),
  ("increment", some (.int 1), .plain),
  ("restart", some (.bool false), .plain),
  ("commands", some (.array []), .items .plain)]

theorem survives (plan : SequencePlan) : Survives ofJson? layout plan.toJson plan := by
  have hdistinct : fieldNames.Nodup := by decide
  refine Json.survives_record hdistinct fun named hoffers => ?_
  have hfields := hoffers.fields? (List.Subset.refl fieldNames)
  have hsequence := hoffers.required "sequence" (by simp) nofun (Json.survives_text plan.sequence)
  have hstart : _ = some plan.start :=
    hoffers.optional "start" (by simp) rfl rfl fun start _ => Json.survives_int64 start
  have hincrement : named.withDefault "increment" Json.int64? 1 = some plan.increment := by
    refine hoffers.withDefault "increment" (by simp) ?_ (Json.survives_int64 plan.increment)
    intro hdefault
    have hone : Json.int 1 = Json.int plan.increment.toInt := Option.some.inj hdefault
    have hvalue : (1 : Int64).toInt = plan.increment.toInt := by simpa [Json.int] using hone
    exact Int64.toInt_inj.mp hvalue
  have hrestart : _ = some plan.restart := hoffers.flag "restart" (by simp) rfl
  have hcommands : _ = some plan.commands :=
    hoffers.list "commands" (by simp) rfl fun command _ =>
      SequenceCommand.survives (Json.depthLimit - 3) command
  simp [ofJson?, hfields, hsequence, hstart, hincrement, hrestart, hcommands]

end SequencePlan

namespace Settings

def layout : Layout := .record [
  ("table_prefix", some (.text ""), .plain), ("identity", some (.text "emulated"), .plain)]

theorem survives (settings : Settings) : Survives ofJson? layout settings.toJson settings := by
  have hdistinct : fieldNames.Nodup := by decide
  refine Json.survives_record hdistinct fun named hoffers => ?_
  have hfields := hoffers.fields? (List.Subset.refl fieldNames)
  have hprefix : named.withDefault "table_prefix" Json.text? "" = some settings.tablePrefix := by
    refine hoffers.withDefault "table_prefix" (by simp) ?_
      (Json.survives_text settings.tablePrefix)
    intro hdefault
    have hempty : Json.text "" = Json.text settings.tablePrefix := Option.some.inj hdefault
    simpa [Json.text] using hempty
  have hidentity : named.withDefault "identity" IdentityMode.ofJson? .emulated =
      some settings.identity := by
    refine hoffers.withDefault "identity" (by simp) ?_ (IdentityMode.survives settings.identity)
    intro hdefault
    have hemulated : Json.text "emulated" = settings.identity.toJson := Option.some.inj hdefault
    have htext : "emulated" = settings.identity.text := by
      simpa [IdentityMode.toJson, Json.text] using hemulated
    revert htext
    cases settings.identity <;> decide
  simp [ofJson?, hfields, hprefix, hidentity]

end Settings

/-- Models survive JSON, also where fields are permuted and defaults left out.  A default
that is not finite does not, since JSON has no number for it. -/
theorem models_survive_json :
    (∀ plan : TablePlan,
      (∀ column ∈ plan.columns, column.defaultValue.all DefaultValue.isFinite = true) →
        Survives TablePlan.ofJson? TablePlan.layout plan.toJson plan) ∧
    (∀ key : ForeignKey,
      Survives (ForeignKey.ofJson? Json.isNull) ForeignKey.layout key.toJson key) ∧
    (∀ plan : SequencePlan,
      Survives SequencePlan.ofJson? SequencePlan.layout plan.toJson plan) ∧
    ∀ settings : Settings, Survives Settings.ofJson? Settings.layout settings.toJson settings :=
  ⟨fun _ hfinite => TablePlan.survives hfinite, ForeignKey.survives, SequencePlan.survives,
    Settings.survives⟩

/-- A plan whose description leaves out all defaults and permutes fields on four levels. -/
theorem models_survive_json_of_permuted_plan :
    TablePlan.ofJson? (.record [
      ("columns", .array [.record [
        ("type", .record [("decimal", .record [("places", .int 2), ("total", .int 10)])]),
        ("name", .text "amount")]]),
      ("table", .text "orders"),
      ("commands", .array [.record [
        ("columns", .texts ["customer"]),
        ("command", .text "foreign"),
        ("on", .text "customers")]])]) =
    some {
      table := "orders"
      columns := [{ name := "amount", type := .decimal 10 2 }]
      commands := [.foreign { columns := ["customer"], on := some "customers" }] } := by
  refine models_survive_json.1 _ (by simp) _ (.object (.keep (.string _) (.leaveOut rfl
    (.leaveOut rfl (.leaveOut rfl (.keep (.array (.cons ?column .nil))
      (.keep (.array (.cons ?command .nil)) .nil)))))) (.swap _ _ _))
  case column =>
    refine .object (.keep (.string _) (.keep (.object (.keep ?decimal .nil) (.refl _))
      (.leaveOut rfl (.leaveOut rfl (.leaveOut rfl (.leaveOut rfl (.leaveOut rfl
        (.leaveOut rfl .nil)))))))) (.swap _ _ _)
    exact .object (.keep (.number _) (.keep (.number _) .nil)) (.swap _ _ _)
  case command =>
    exact .object (.keep (.string _) (.keep (.array (.cons (.string _) .nil)) (.keep (.string _)
      (.leaveOut rfl (.leaveOut rfl (.leaveOut rfl .nil)))))) (.swap _ _ _)

end SchemaDdl
