import SchemaDdl.CommandLine.Run
import SchemaDdl.Proofs.Compilation.Success

/-!
# What a run prints and reports

The program loads its settings and its model from files, compiles the model and prints
the script.  The relations below say what it should print and report in terms of the
files, the decoders and the compiler alone: `Options.Configures` for the settings that
arise from the layers of the configuration, `Request.Prints` for the output and
`Request.Reports` for the first failure.  Runs end exactly along these relations
(`Request.run_eq_ok_iff`, `Request.run_eq_error_iff`), so a run that prints a script
prints the one that the compiler gives, and any other run prints nothing.
-/

namespace SchemaDdl.CommandLine

/-! ## Files -/

section Files

variable {α : Type}

/-- The file can be read, and what it holds is decoded to the model. -/
def Holds (files : Files) (decode? : Json → Option α) (path : String) (model : α) : Prop :=
  ∃ text, files path = some text ∧ (Json.read? text).bind decode? = some model

/-- The file gives no model, for the given reason. -/
inductive Withholds (files : Files) (decode? : Json → Option α) (path : String) : Failure → Prop
  | unreadable (htext : files path = none) : Withholds files decode? path .unreadable
  | undecodable {text : String} (htext : files path = some text)
      (hmodel : (Json.read? text).bind decode? = none) :
      Withholds files decode? path (.undecodable path)

variable {files : Files} {decode? : Json → Option α} {path : String}

theorem load_eq_ok_iff {model : α} :
    load files decode? path = .ok model ↔ Holds files decode? path model := by
  unfold load Holds
  cases files path with
  | none => simp
  | some text => cases hmodel : (Json.read? text).bind decode? <;> simp [hmodel, pure, Except.pure]

theorem load_eq_error_iff {failure : Failure} :
    load files decode? path = .error failure ↔ Withholds files decode? path failure := by
  constructor
  · intro h
    unfold load at h
    cases htext : files path with
    | none =>
        simp only [htext] at h
        obtain rfl := Except.error.inj h
        exact .unreadable htext
    | some text =>
        cases hmodel : (Json.read? text).bind decode? with
        | none =>
            simp only [htext, hmodel] at h
            obtain rfl := Except.error.inj h
            exact .undecodable htext hmodel
        | some model => simp [htext, hmodel, pure, Except.pure] at h
  · intro h
    cases h with
    | unreadable htext => simp [load, htext]
    | undecodable htext hmodel => simp [load, htext, hmodel]

end Files

/-! ## The layers of the configuration -/

namespace Options

/-- The options that are given, and in the place of those that are not what the
environment holds. -/
def layered (environment : String → Option String) (given : Options) : Options :=
  { given with
    config := given.config <|> environment "OXIDE_FIREBIRD_CONFIG"
    tablePrefix := given.tablePrefix <|> environment "OXIDE_FIREBIRD_PREFIX"
    identity := given.identity <|> (environment "OXIDE_FIREBIRD_IDENTITY").bind fun word =>
      (IdentityMode.parse word).toOption }

/-- The settings of a file, each field replaced by an option that is given for it. -/
def override (options : Options) (base : Settings) : Settings where
  tablePrefix := options.tablePrefix.getD base.tablePrefix
  identity := options.identity.getD base.identity

/-- The settings that a run compiles under. -/
inductive Configures (files : Files) (options : Options) : Settings → Prop
  | default (hconfig : options.config = none) : Configures files options (options.override {})
  | file {path : String} {base : Settings} (hconfig : options.config = some path)
      (hfile : Holds files Settings.ofJson? path base) : Configures files options (options.override base)

/-- The settings of a run cannot be had, for the given reason; no option makes up for
that. -/
inductive Misconfigures (files : Files) (options : Options) : Failure → Prop
  | file {path : String} {failure : Failure} (hconfig : options.config = some path)
      (hfile : Withholds files Settings.ofJson? path failure) : Misconfigures files options failure

variable {files : Files} {options : Options}

theorem settings_of_default (hconfig : options.config = none) :
    CommandLine.settings files options = .ok (options.override {}) := by
  rw [CommandLine.settings, hconfig]
  rfl

theorem settings_of_file {path : String} (hconfig : options.config = some path) :
    CommandLine.settings files options =
      load files Settings.ofJson? path >>= fun base => .ok (options.override base) := by
  rw [CommandLine.settings, hconfig]
  rfl

theorem settings_eq_ok_iff {settings : Settings} :
    CommandLine.settings files options = .ok settings ↔ options.Configures files settings := by
  constructor
  · intro h
    cases hconfig : options.config with
    | none =>
        rw [settings_of_default hconfig] at h
        obtain rfl := Except.ok.inj h
        exact .default hconfig
    | some path =>
        rw [settings_of_file hconfig] at h
        obtain ⟨base, hbase, h⟩ := bind_eq_ok_iff.mp h
        obtain rfl := Except.ok.inj h
        exact .file hconfig (load_eq_ok_iff.mp hbase)
  · intro h
    cases h with
    | default hconfig => exact settings_of_default hconfig
    | file hconfig hfile => rw [settings_of_file hconfig, load_eq_ok_iff.mpr hfile, ok_bind]

theorem settings_eq_error_iff {failure : Failure} :
    CommandLine.settings files options = .error failure ↔ options.Misconfigures files failure := by
  constructor
  · intro h
    cases hconfig : options.config with
    | none =>
        rw [settings_of_default hconfig] at h
        exact absurd h (by simp)
    | some path =>
        rw [settings_of_file hconfig] at h
        rcases bind_eq_error_iff.mp h with hbase | ⟨base, -, h⟩
        · exact .file hconfig (load_eq_error_iff.mp hbase)
        · exact absurd h (by simp)
  · intro h
    cases h with
    | file hconfig hfile =>
        rw [settings_of_file hconfig]
        exact bind_eq_error_iff.mpr (.inl (load_eq_error_iff.mpr hfile))

/-- One option taken from the environment, unless it is given. -/
def fill? (environment : String → Option String) (options : Options) (name : OptionName) :
    Option Options :=
  match (environmentName? name).bind environment with
  | some value => if options.isSet name then some options else options.set? name value
  | none => some options

variable {environment : String → Option String} {given filled : Options}

theorem fill?_config (h : given.fill? environment .config = some filled) :
    filled = { given with config := given.config <|> environment "OXIDE_FIREBIRD_CONFIG" } := by
  obtain ⟨config, tablePrefix, identity, verbose⟩ := given
  cases config <;> cases hvalue : environment "OXIDE_FIREBIRD_CONFIG" <;>
    simp_all [fill?, environmentName?, isSet, set?, once, path?]

theorem fill?_tablePrefix (h : given.fill? environment .tablePrefix = some filled) :
    filled =
      { given with tablePrefix := given.tablePrefix <|> environment "OXIDE_FIREBIRD_PREFIX" } := by
  obtain ⟨config, tablePrefix, identity, verbose⟩ := given
  cases tablePrefix <;> cases hvalue : environment "OXIDE_FIREBIRD_PREFIX" <;>
    simp_all [fill?, environmentName?, isSet, set?, once]

theorem fill?_identity (h : given.fill? environment .identity = some filled) :
    filled = { given with
      identity := given.identity <|> (environment "OXIDE_FIREBIRD_IDENTITY").bind fun word =>
        (IdentityMode.parse word).toOption } := by
  obtain ⟨config, tablePrefix, identity, verbose⟩ := given
  cases identity with
  | some mode =>
      cases hvalue : environment "OXIDE_FIREBIRD_IDENTITY" <;>
        simp_all [fill?, environmentName?, isSet]
  | none =>
      cases hvalue : environment "OXIDE_FIREBIRD_IDENTITY" with
      | none => simp_all [fill?, environmentName?]
      | some word =>
          cases hmode : IdentityMode.parse word <;>
            simp_all [fill?, environmentName?, isSet, set?, once, Except.toOption]

/-- Each option comes from the arguments, or else from the environment. -/
theorem eq_layered_of_complete? {options : Options}
    (h : given.complete? environment = some options) : options = given.layered environment := by
  obtain ⟨_, hconfig, h⟩ := Option.bind_eq_some_iff.mp h
  obtain ⟨_, hprefix, h⟩ := Option.bind_eq_some_iff.mp h
  obtain ⟨_, hidentity, h⟩ := Option.bind_eq_some_iff.mp h
  obtain rfl := fill?_config hconfig
  obtain rfl := fill?_tablePrefix hprefix
  obtain rfl := fill?_identity hidentity
  exact (Option.some.inj h).symm

end Options

/-! ## Where requests come from -/

theorem readFile_ne_accepted (task : String → Task) (file : Option String) (rest : List Item)
    (request : Request) : readFile task file rest ≠ .error (.accepted request) := by
  fun_induction readFile task file rest <;> simp_all

theorem readProbe_ne_accepted (kind : Option ProbeKind) (table : Option String)
    (rest : List Item) (request : Request) :
    readProbe kind table rest ≠ .error (.accepted request) := by
  fun_induction readProbe kind table rest <;> simp_all

theorem helpOn_ne_accepted (rest : List Item) (request : Request) :
    helpOn rest ≠ .accepted request := by
  fun_cases helpOn rest <;> simp_all

theorem readTask_ne_accepted (command : String) (rest : List Item) (request : Request) :
    readTask command rest ≠ .error (.accepted request) := by
  fun_cases readTask command rest <;>
    simp [readFile_ne_accepted, readProbe_ne_accepted, helpOn_ne_accepted]

/-- What stops the reading of the arguments is never a request. -/
theorem readRequest_ne_accepted (options : Options) (items : List Item) (request : Request) :
    readRequest options items ≠ .error (.accepted request) := by
  fun_induction readRequest options items with
  | case8 options command rest =>
      intro h
      exact readTask_ne_accepted command rest request (map_eq_error_iff.mp h)
  | _ => simp_all

/-- The options of an accepted request are those that its arguments give, over those
that the environment holds. -/
theorem exists_layered_of_accepted {environment : String → Option String}
    {arguments : List String} {request : Request}
    (h : reply environment arguments = .accepted request) :
    ∃ given, readRequest {} (items OptionName.ofProgram false arguments) =
      .ok ⟨given, request.task⟩ ∧ request.options = given.layered environment := by
  unfold reply at h
  split at h
  · next reply hread =>
    subst h
    exact absurd hread (readRequest_ne_accepted _ _ request)
  · next read hread =>
    split at h
    · next options hcomplete =>
      obtain rfl := Reply.accepted.inj h
      exact ⟨read.options, hread, Options.eq_layered_of_complete? hcomplete⟩
    · exact absurd h (by simp)

/-! ## Tasks -/

section Scripts

variable {α : Type}

/-- The output is the script of the model in the file. -/
def IsScript (files : Files) (decode? : Json → Option α)
    (compile : α → Except SchemaError (List Statement)) (path output : String) : Prop :=
  ∃ model, Holds files decode? path model ∧
    ∃ statements, compile model = .ok statements ∧ output = Script.text statements

/-- The file gives no script, for the given reason. -/
inductive HasNoScript (files : Files) (decode? : Json → Option α)
    (compile : α → Except SchemaError (List Statement)) (path : String) : Failure → Prop
  | file {failure : Failure} (hfile : Withholds files decode? path failure) :
      HasNoScript files decode? compile path failure
  | model {model : α} {error : SchemaError} (hfile : Holds files decode? path model)
      (herror : compile model = .error error) :
      HasNoScript files decode? compile path (.schema error)

/-- How a run makes a script. -/
def script (files : Files) (decode? : Json → Option α)
    (compile : α → Except SchemaError (List Statement)) (path : String) :
    Except Failure String := do
  let model ← load files decode? path
  let statements ← (compile model).mapError .schema
  return Script.text statements

variable {files : Files} {decode? : Json → Option α}
  {compile : α → Except SchemaError (List Statement)} {path : String}

theorem script_eq_ok_iff {output : String} :
    script files decode? compile path = .ok output ↔
      IsScript files decode? compile path output := by
  unfold script IsScript
  simp only [bind_eq_ok_iff, load_eq_ok_iff, mapError_eq_ok_iff, pure, Except.pure,
    Except.ok.injEq, eq_comm (b := output)]

theorem script_eq_error_iff {failure : Failure} :
    script files decode? compile path = .error failure ↔
      HasNoScript files decode? compile path failure := by
  constructor
  · intro h
    rcases bind_eq_error_iff.mp h with hfile | ⟨model, hfile, h⟩
    · exact .file (load_eq_error_iff.mp hfile)
    · rcases bind_eq_error_iff.mp h with hmapped | ⟨statements, -, h⟩
      · obtain ⟨error, herror, rfl⟩ := mapError_eq_error_iff.mp hmapped
        exact .model (load_eq_ok_iff.mp hfile) herror
      · exact absurd h (by simp [pure, Except.pure])
  · intro h
    cases h with
    | file hfile => exact bind_eq_error_iff.mpr (.inl (load_eq_error_iff.mpr hfile))
    | model hfile herror =>
        refine bind_eq_error_iff.mpr (.inr ⟨_, load_eq_ok_iff.mpr hfile, ?_⟩)
        exact bind_eq_error_iff.mpr (.inl (mapError_eq_error_iff.mpr ⟨_, herror, rfl⟩))

end Scripts

/-- The query that answers a probe.  Only a probe for columns looks at the table. -/
inductive Asks (settings : Settings) (table : Option String) : ProbeKind → Sql → Prop
  | table : Asks settings table .table CatalogObject.table.probe
  | sequence : Asks settings table .sequence CatalogObject.generator.probe
  | trigger : Asks settings table .trigger CatalogObject.trigger.probe
  | column {name : String} (htable : table = some name) :
      Asks settings table .column (columnProbe settings name)

namespace Task

/-- What a task prints. -/
def Prints (files : Files) (settings : Settings) (output : String) : Task → Prop
  | compile file =>
    IsScript files TablePlan.ofJson? (TablePlan.statements settings) file output
  | sequence file =>
    IsScript files SequencePlan.ofJson? (SequencePlan.statements settings) file output
  | probe kind table => ∃ query, Asks settings table kind query ∧ output = query.text ++ "\n"

/-- Why a task prints nothing. -/
def Reports (files : Files) (settings : Settings) (failure : Failure) : Task → Prop
  | compile file =>
    HasNoScript files TablePlan.ofJson? (TablePlan.statements settings) file failure
  | sequence file =>
    HasNoScript files SequencePlan.ofJson? (SequencePlan.statements settings) file failure
  | probe kind table => kind = .column ∧ table = none ∧ failure = .tableRequired

variable {files : Files} {settings : Settings} {task : Task}

theorem probe_eq_ok_iff {kind : ProbeKind} {table : Option String} {query : Sql} :
    CommandLine.probe settings table kind = .ok query ↔ Asks settings table kind query := by
  constructor
  · intro h
    unfold CommandLine.probe at h
    cases kind with
    | column =>
        cases table with
        | none => exact absurd h (by simp)
        | some name =>
            obtain rfl := Except.ok.inj h
            exact .column rfl
    | table | sequence | trigger =>
        obtain rfl := Except.ok.inj h
        constructor
  · intro h
    cases h with
    | column htable => simp [CommandLine.probe, htable]
    | _ => rfl

theorem probe_eq_error_iff {kind : ProbeKind} {table : Option String} {failure : Failure} :
    CommandLine.probe settings table kind = .error failure ↔
      kind = .column ∧ table = none ∧ failure = .tableRequired := by
  cases kind <;> cases table <;> simp [CommandLine.probe, eq_comm]

theorem run_eq_ok_iff {output : String} :
    task.run files settings = .ok output ↔ task.Prints files settings output := by
  cases task with
  | compile file => exact script_eq_ok_iff
  | sequence file => exact script_eq_ok_iff
  | probe kind table =>
      have hrun : (Task.probe kind table).run files settings =
          (fun query => query.text ++ "\n") <$> CommandLine.probe settings table kind := rfl
      rw [hrun, map_eq_ok_iff]
      simp only [probe_eq_ok_iff, Prints, eq_comm (b := output)]

theorem run_eq_error_iff {failure : Failure} :
    task.run files settings = .error failure ↔ task.Reports files settings failure := by
  cases task with
  | compile file => exact script_eq_error_iff
  | sequence file => exact script_eq_error_iff
  | probe kind table =>
      have hrun : (Task.probe kind table).run files settings =
          (fun query => query.text ++ "\n") <$> CommandLine.probe settings table kind := rfl
      rw [hrun, map_eq_error_iff, probe_eq_error_iff, Reports]

end Task

/-! ## Requests -/

namespace Request

/-- What a request prints, if nothing fails. -/
def Prints (files : Files) (request : Request) (output : String) : Prop :=
  ∃ settings, request.options.Configures files settings ∧
    request.task.Prints files settings output

/-- The failure that a request comes upon first. -/
inductive Reports (files : Files) (request : Request) : Failure → Prop
  | settings {failure : Failure} (hconfig : request.options.Misconfigures files failure) :
      Reports files request failure
  | task {settings : Settings} {failure : Failure}
      (hconfig : request.options.Configures files settings)
      (htask : request.task.Reports files settings failure) : Reports files request failure

variable {files : Files} {request : Request}

theorem run_eq_ok_iff {output : String} :
    request.run files = .ok output ↔ request.Prints files output := by
  unfold Request.run Prints
  simp only [bind_eq_ok_iff, Options.settings_eq_ok_iff, Task.run_eq_ok_iff]

theorem run_eq_error_iff {failure : Failure} :
    request.run files = .error failure ↔ request.Reports files failure := by
  constructor
  · intro h
    rcases bind_eq_error_iff.mp h with hconfig | ⟨settings, hconfig, htask⟩
    · exact .settings (Options.settings_eq_error_iff.mp hconfig)
    · exact .task (Options.settings_eq_ok_iff.mp hconfig) (Task.run_eq_error_iff.mp htask)
  · intro h
    cases h with
    | settings hconfig =>
        exact bind_eq_error_iff.mpr (.inl (Options.settings_eq_error_iff.mpr hconfig))
    | task hconfig htask =>
        exact bind_eq_error_iff.mpr
          (.inr ⟨_, Options.settings_eq_ok_iff.mpr hconfig, Task.run_eq_error_iff.mpr htask⟩)

end Request

/-- A run on accepted arguments prints what its files compile to under its settings, or it
prints nothing and reports the first failure. -/
theorem outcome_agrees_with_compilation {environment : String → Option String} {files : Files}
    {cause : Failure → String} {arguments : List String} {request : Request}
    (h : reply environment arguments = .accepted request) :
    (∃ given, readRequest {} (items OptionName.ofProgram false arguments) =
      .ok ⟨given, request.task⟩ ∧ request.options = given.layered environment) ∧
    ((∃ output, outcome environment files cause arguments = { exitCode := 0, output }) ∨
      ∃ text, outcome environment files cause arguments =
        { exitCode := 1, message := some text }) ∧
    (∀ output, outcome environment files cause arguments = { exitCode := 0, output } ↔
      request.Prints files output) ∧
    ∀ text, outcome environment files cause arguments =
        { exitCode := 1, message := some text } ↔
      ∃ failure, request.Reports files failure ∧ failure.message (cause failure) = text := by
  refine ⟨exists_layered_of_accepted h, ?_⟩
  have houtcome : outcome environment files cause arguments =
      Reply.outcome files cause (.accepted request) := by rw [outcome, h]
  simp only [houtcome, Reply.outcome, ← Request.run_eq_ok_iff, ← Request.run_eq_error_iff]
  cases request.run files <;> simp

/-- A configuration in three layers, and a file of settings that is bad although options
are given for all that it could hold. -/
theorem outcome_agrees_with_compilation_of_overrides :
    let environment : String → Option String := fun name =>
      [("OXIDE_FIREBIRD_CONFIG", "settings"), ("OXIDE_FIREBIRD_PREFIX", "env_")].lookup name
    let files : Files := fun path =>
      [("settings", "[\"old_\",\"native\"]"), ("bad", "[0"),
        ("model", "[\"t\",false,false,null,[[\"id\",\"integer\",false,null,true]]]")].lookup path
    let cause : Failure → String := fun _ => "EOF while parsing a list at line 1 column 2"
    let settings : Settings := { tablePrefix := "env_", identity := .native }
    let plan : TablePlan := { table := "t", columns := [.increments "id"] }
    (∃ statements, plan.statements settings = .ok statements ∧
      outcome environment files cause ["compile", "model"] =
        { exitCode := 0, output := Script.text statements }) ∧
    outcome environment files cause ["-cbad", "-pnew_", "-i", "emulated", "compile", "model"] =
      { exitCode := 1, message :=
        some "Failed to parse 'bad': EOF while parsing a list at line 1 column 2" } := by
  intro environment files cause settings plan
  constructor
  · have haccepted : reply environment ["compile", "model"] = .accepted
        ⟨{ config := some "settings", tablePrefix := some "env_" }, .compile "model"⟩ := by
      decide +kernel
    have hsettings : Holds files Settings.ofJson? "settings" ⟨"old_", .native⟩ :=
      ⟨_, rfl, by decide +kernel⟩
    have hmodel : Holds files TablePlan.ofJson? "model" plan := ⟨_, rfl, by decide +kernel⟩
    have hstatements : ∃ statements, plan.statements settings = .ok statements := ⟨_, rfl⟩
    obtain ⟨statements, hstatements⟩ := hstatements
    obtain ⟨-, -, hprints, -⟩ := outcome_agrees_with_compilation haccepted
    exact ⟨statements, hstatements, (hprints _).mpr ⟨settings, .file rfl hsettings, plan, hmodel,
      statements, hstatements, rfl⟩⟩
  · have haccepted : reply environment
        ["-cbad", "-pnew_", "-i", "emulated", "compile", "model"] = .accepted
        ⟨{ config := some "bad", tablePrefix := some "new_", identity := some .emulated },
          .compile "model"⟩ := by
      decide +kernel
    have hbad : Withholds files Settings.ofJson? "bad" (.undecodable "bad") :=
      .undecodable rfl (by decide +kernel)
    obtain ⟨-, -, -, hreports⟩ := outcome_agrees_with_compilation haccepted
    exact (hreports _).mpr ⟨_, .settings (.file rfl hbad), rfl⟩

end SchemaDdl.CommandLine
