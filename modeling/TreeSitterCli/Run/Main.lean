import Mathlib.Data.String.Basic
import TreeSitterCli.Run.Parse
import TreeSitterCli.Run.Query
import TreeSitterCli.Run.Highlight
import TreeSitterCli.Run.Generate
import TreeSitterCli.Run.Test
import TreeSitterCli.Run.Delegated

/-!
`run`, which reads the current directory, loads the configuration and the loader, and runs
the branch of the subcommand, and `main`, which turns its result into the end of the
process. An error wrapping a broken pipe ends it quietly with success. Any other error is
printed, unless its message is empty, and the process exits with status 1; the `parse`
verdict uses an empty message, so a failed parse shows only in the exit status. A panic
leaves `run` and `main` with Rust's panic exit status 101.

The lines a branch writes with `println!` and `eprintln!` are played on the console by `run`,
and the error `main` prints is written there too: a write the stream fails panics.
-/

set_option autoImplicit false
set_option relaxedAutoImplicit false

namespace TreeSitterCli.Run.Main

open TreeSitterCli.Rust.Str (fromStrRadix parseUsize)
open TreeSitterCli.Rust.Anyhow (Error Fault liftError unwrapResult resultUnwrapPanic unwrapNonePanic
  unwrapResult_eq_error liftError_ne_panic liftError_bind_eq_panic liftError_eq_error_iff
  bind_eq_error loud_ok LoudFault Loud.liftError)
open TreeSitterCli.Rust.Process (OsArg invalidUtf8 valueOf Stream Console printPanic
  Console.emit_eq_error Console.loudFault_emit loudFault_valueOf)
open TreeSitterCli.Paths.CollectPaths (FileSystem collectPaths collectArgPaths textFiles
  FileSystem.Loud)
open TreeSitterCli.Run.Parse
open TreeSitterCli.Run.Query (QueryArgs QueryEnv queryCall runQuery oneLanguage queryBlankList
  QueryEnv.Loud runQuery_loud queryCall_eq_panic)
open TreeSitterCli.Run.Highlight (HighlightArgs HighlightEnv HighlightEvent runHighlight
  jsHighlighting HighlightEnv.Loud runHighlight_loud runHighlight_panic runHighlight_stdout)
open TreeSitterCli.Run.Generate (GenerateArgs GenerateEnv runGenerate GenerateEnv.Loud
  runGenerate_loud runGenerate_panic)
open TreeSitterCli.Run.Test (TestArgs TestEnv runTest TestEnv.Loud runTest_loud runTest_panic)
open TreeSitterCli.Run.Delegated (InitConfigEnv InitConfigEvent runInitConfig TagsArgs TagsEnv
  runTags BuildWasmArgs runBuildWasm runPlayground DumpEnv dumpStream runDumpLanguages
  InitConfigEnv.Loud runInitConfig_loud TagsEnv.Loud runTags_loud runTags_panic runBuildWasm_panic
  runDumpLanguages_loud)

/-- How the process ends: the error `main` prints with `eprintln!("{err:?}")`, the message of
a panic, and the exit status. -/
structure Exit where
  printed : Option Error := none
  panicked : Option String := none
  status : Nat
  deriving DecidableEq, Repr

/-- `main`, on the console the process writes to. -/
def main (console : Console) (result : Except Fault Unit) : Exit :=
  match result with
  | .ok () => { status := 0 }
  | .error (.panic message) => { panicked := some message, status := 101 }
  | .error (.error err) =>
      if err.brokenPipe then { status := 0 }
      else if err.message.isEmpty then { status := 1 }
      else match console.stderr with
        | none => { printed := some err, status := 1 }
        | some e => { panicked := some (printPanic .stderr e), status := 101 }

/-- The subcommands, with the arguments each branch reads; clap has already turned away a
command line without a subcommand or with an unknown one. -/
inductive Command
  | initConfig
  | generate (args : GenerateArgs)
  | test (args : TestArgs)
  | parse (args : ParseArgs)
  | query (args : QueryArgs)
  | tags (args : TagsArgs)
  | highlight (args : HighlightArgs)
  | buildWasm (args : BuildWasmArgs)
  | playground (quiet : Bool)
  | dumpLanguages

def Command.osArgs : Command → List OsArg
  | .generate args => args.osArgs
  | .test args => args.osArgs
  | .parse args => args.osArgs
  | .query args => args.osArgs
  | .tags args => args.osArgs
  | .highlight args => args.osArgs
  | .buildWasm args => args.path.toList
  | .initConfig | .playground _ | .dumpLanguages => []

/-- The subcommands whose branch writes to the standard output with `println!`. -/
def Command.printsToStdout : Command → Bool
  | .initConfig | .dumpLanguages => true
  | .parse args => args.stat
  | .highlight args => args.html && !args.quiet
  | _ => false

/-- Everything `run` talks to: the process environment, the standard streams, the
configuration, the file system, the loader and each branch's collaborators, with the parse
state `σ`, the languages, the language configurations `C` and the highlight configurations
`H` of the loader. -/
structure Cli (σ Language C H : Type) where
  /-- `env::current_dir()`: the directory, or the `Debug` text of its error. -/
  currentDir : Except String String
  console : Console
  /-- `Config::load()`. -/
  configLoad : Except Error Unit
  /-- `loader::Loader::new()`. -/
  loaderNew : Except Error Unit
  fs : FileSystem
  world : σ
  parse : ParseEnv σ Language
  query : QueryEnv Language
  highlight : HighlightEnv Language C H
  test : TestEnv Language
  generate : GenerateEnv
  initConfig : InitConfigEnv
  tags : TagsEnv
  /-- `wasm::compile_language_to_wasm(&loader, &grammar_path, &current_dir, docker)`. -/
  compileLanguageToWasm : String → String → Bool → Except Error Unit
  /-- `playground::serve(&current_dir, open_in_browser)`. -/
  serve : String → Bool → Except Error Unit
  dump : DumpEnv

variable {σ Language C H : Type}

def run (cli : Cli σ Language C H) (command : Command) : Except Fault Unit := do
  let currentDir ← unwrapResult cli.currentDir
  liftError cli.configLoad
  liftError cli.loaderNew
  match command with
  | .initConfig =>
      cli.console.emit InitConfigEvent.stream ((runInitConfig cli.initConfig).map id liftError)
  | .generate args => (runGenerate cli.generate currentDir args).2
  | .test args => (runTest cli.test currentDir args).2
  | .parse args => cli.console.emit Stats.stream (runParse cli.fs cli.parse args cli.world)
  | .query args => runQuery cli.fs cli.query args
  | .tags args => runTags cli.fs cli.tags args
  | .highlight args => cli.console.emit HighlightEvent.stream (runHighlight cli.fs cli.highlight args)
  | .buildWasm args => runBuildWasm cli.compileLanguageToWasm currentDir args
  | .playground quiet => liftError (runPlayground cli.serve currentDir quiet)
  | .dumpLanguages => cli.console.emit dumpStream ((runDumpLanguages cli.dump).map id liftError)

private theorem run_started {cli : Cli σ Language C H} {currentDir : String} (command : Command)
    (started : cli.currentDir = .ok currentDir) (configured : cli.configLoad = .ok ())
    (loaded : cli.loaderNew = .ok ()) :
    run cli command = (match command with
      | .initConfig =>
          cli.console.emit InitConfigEvent.stream ((runInitConfig cli.initConfig).map id liftError)
      | .generate args => (runGenerate cli.generate currentDir args).2
      | .test args => (runTest cli.test currentDir args).2
      | .parse args => cli.console.emit Stats.stream (runParse cli.fs cli.parse args cli.world)
      | .query args => runQuery cli.fs cli.query args
      | .tags args => runTags cli.fs cli.tags args
      | .highlight args =>
          cli.console.emit HighlightEvent.stream (runHighlight cli.fs cli.highlight args)
      | .buildWasm args => runBuildWasm cli.compileLanguageToWasm currentDir args
      | .playground quiet => liftError (runPlayground cli.serve currentDir quiet)
      | .dumpLanguages => cli.console.emit dumpStream ((runDumpLanguages cli.dump).map id liftError)) := by
  simp only [run, started, configured, loaded, unwrapResult, liftError, bind, Except.bind]

/-! ### The verdict of `parse` -/

private theorem main_parseVerdict (console : Console) (st : ParseLoop σ Language) :
    main console (liftError (parseVerdict st)) = { status := if st.hasError then 1 else 0 } := by
  unfold parseVerdict
  split_ifs <;> rfl

/-- Once the current directory, the configuration and the loader are there, the flags are
read (with a UTF-8 `--scope`), the paths resolved and the languages found, when every call of
the loop succeeds and, under `--stat`, the standard output takes the statistics: a `parse`
run parses each path once, in order, with the calls the collaborators answer, and ends the
process with status 1 and no message exactly when some parse failed, with status 0
otherwise. -/
theorem main_run_parse {cli : Cli σ Language C H} {args : ParseArgs} {currentDir : String}
    {settings : ParseSettings} {paths : List String} {world' : σ}
    (started : cli.currentDir = .ok currentDir) (configured : cli.configLoad = .ok ())
    (loaded : cli.loaderNew = .ok ()) (ok : cli.parse.Succeeds)
    (read : parseFlags args = .ok settings) (decodes : args.scope ≠ some .invalid)
    (resolved : collectArgPaths cli.fs args.pathsFile args.paths = .ok paths)
    (found : cli.parse.findAllLanguages cli.world = .ok world')
    (printed : args.stat = true → cli.console.stdout = none) :
    ∃ st, parsePaths cli.parse settings args.stat world' paths = .ok st ∧
      ParseTrace cli.parse settings (maxPathLength paths) world' paths st.calls st.world ∧
      st.calls.map (·.1.path) = paths ∧
      main cli.console (run cli (.parse args)) =
        { status := if ∃ call ∈ st.calls, call.2.successful = false then 1 else 0 } := by
  obtain ⟨st, ran⟩ := parseFiles_ok settings (maxPathLength paths) args.stat ok
    (parseFlags_scope read ▸ decodes) paths (ParseLoop.initial world')
  obtain ⟨trace, coherent⟩ := parsePaths_eq_ok settings args.stat ran
  refine ⟨st, ran, trace, trace.paths, ?_⟩
  rw [run_started _ started configured loaded]
  dsimp only
  rw [emit_runParse_eq read resolved found ran printed, main_parseVerdict, coherent.hasError]
  simp only [List.any_eq_true, Bool.not_eq_true']

def parseTextFiles : ParseArgs :=
  { pathsFile := none
    paths := some [.utf8 "a.txt", .utf8 "b.txt"]
    scope := none
    debug := false
    debugGraph := false
    outputDot := false
    outputXml := false
    quiet := false
    encoding := none
    time := false
    edits := none
    timeout := none
    stat := true }

def textFilesCli : Cli Unit Unit Unit Unit where
  currentDir := .ok "/work"
  console := {}
  configLoad := .ok ()
  loaderNew := .ok ()
  fs := textFiles
  world := ()
  parse := threeFiles
  query := oneLanguage
  highlight := jsHighlighting
  test :=
    { isValidRegex := fun _ => true
      isDir := fun _ => false
      languagesAtPath := fun _ _ => .ok [()]
      setLanguage := fun _ => .ok ()
      runStage := fun _ _ => .ok () }
  generate :=
    { languageVersion := 14
      generateParserInDirectory := fun _ => .ok ()
      languagesAtPath := fun _ _ => .ok () }
  initConfig :=
    { findConfigFile := .ok none
      initial := .ok "/home/.config/tree-sitter/config.json"
      addLoaderConfig := .ok ()
      addThemeConfig := .ok ()
      save := .ok () }
  tags :=
    { findAllLanguages := .ok ()
      generateTags := fun _ _ _ _ => .ok () }
  compileLanguageToWasm _ _ _ := .ok ()
  serve _ _ := .ok ()
  dump :=
    { findAllLanguages := .ok ()
      configurations := [] }

def statSettings : ParseSettings :=
  { scope := none, edits := [], output := .normal, time := false, timeout := 0, debug := false,
    debugGraph := false, encoding := none }

theorem main_run_parse_textFiles :
    textFilesCli.currentDir = .ok "/work" ∧ textFilesCli.configLoad = .ok () ∧
      textFilesCli.loaderNew = .ok () ∧ textFilesCli.parse.Succeeds ∧
      parseFlags parseTextFiles = .ok statSettings ∧ parseTextFiles.scope ≠ some .invalid ∧
      collectArgPaths textFilesCli.fs parseTextFiles.pathsFile parseTextFiles.paths =
        .ok ["a.txt", "b.txt"] ∧
      textFilesCli.parse.findAllLanguages textFilesCli.world = .ok () ∧
      (parseTextFiles.stat = true → textFilesCli.console.stdout = none) ∧
      ∃ st, parsePaths textFilesCli.parse statSettings parseTextFiles.stat () ["a.txt", "b.txt"] =
          .ok st ∧
        ParseTrace textFilesCli.parse statSettings (maxPathLength ["a.txt", "b.txt"]) ()
          ["a.txt", "b.txt"] st.calls st.world ∧
        st.calls.map (·.1.path) = ["a.txt", "b.txt"] ∧
        main textFilesCli.console (run textFilesCli (.parse parseTextFiles)) =
          { status := if ∃ call ∈ st.calls, call.2.successful = false then 1 else 0 } :=
  ⟨rfl, rfl, rfl, threeFiles_succeeds, rfl, by decide, rfl, rfl, fun _ => rfl,
    main_run_parse rfl rfl rfl threeFiles_succeeds rfl (by decide) rfl rfl fun _ => rfl⟩

/-! ### Where the process panics -/

private theorem main_panicked {console : Console} {result : Except Fault Unit}
    (h : (main console result).status = 101) :
    ∃ msg, (main console result).panicked = some msg ∧
      (result = .error (.panic msg) ∨ ∃ e, console.stderr = some e ∧ msg = printPanic .stderr e) := by
  rcases result with (err | msg) | ⟨⟩
  · by_cases broken : err.brokenPipe
    · simp [main, broken] at h
    by_cases empty : err.message.isEmpty
    · simp [main, broken, empty] at h
    cases refused : console.stderr with
    | none => simp [main, broken, empty, refused] at h
    | some e => exact ⟨_, by simp [main, broken, empty, refused], .inr ⟨e, rfl, rfl⟩⟩
  · exact ⟨msg, rfl, .inl rfl⟩
  · cases h

/-- The places where the process panics, with the message of the panic: an unreadable current
directory, an argument value that is not UTF-8, a write to the standard output (by a
subcommand that prints there) or to the standard error that the stream fails, a `--timeout`
of `parse` that is not a `u64`, and the two panics of the `query` branch. -/
def PanicSource (cli : Cli σ Language C H) (command : Command) (msg : String) : Prop :=
  (∃ debug, cli.currentDir = .error debug ∧ msg = resultUnwrapPanic ++ ": " ++ debug) ∨
    (msg = invalidUtf8 ∧ .invalid ∈ command.osArgs) ∨
    (∃ e, cli.console.stdout = some e ∧ msg = printPanic .stdout e ∧ command.printsToStdout = true) ∨
    (∃ e, cli.console.stderr = some e ∧ msg = printPanic .stderr e) ∨
    (∃ args t kind, command = .parse args ∧ args.timeout = some (.utf8 t) ∧
      fromStrRadix 64 t.data = .error kind ∧ msg = resultUnwrapPanic ++ ": " ++ kind.debug) ∨
    (∃ args file, command = .query args ∧ args.pathsFile = some (.utf8 file) ∧
      collectPaths cli.fs (some file) none = .ok [] ∧
      msg = "index out of bounds: the len is 0 but the index is 0") ∨
    (∃ args s, command = .query args ∧
      (args.byteRange = some (.utf8 s) ∨ args.rowRange = some (.utf8 s)) ∧
      ':' ∉ s.data ∧ (parseUsize s.data).isSome ∧ msg = unwrapNonePanic)

theorem PanicSource.invalid {cli : Cli σ Language C H} {command : Command}
    (mem : .invalid ∈ command.osArgs) : PanicSource cli command invalidUtf8 :=
  .inr (.inl ⟨rfl, mem⟩)

theorem PanicSource.print {cli : Cli σ Language C H} {command : Command} {s : Stream}
    {e msg : String} (refused : cli.console.refusal s = some e) (panic : msg = printPanic s e)
    (toStdout : s = .stdout → command.printsToStdout = true) : PanicSource cli command msg := by
  cases s with
  | stdout => exact .inr (.inr (.inl ⟨e, refused, panic, toStdout rfl⟩))
  | stderr => exact .inr (.inr (.inr (.inl ⟨e, refused, panic⟩)))

/-- A played branch panics at a write that a stream fails, or where the branch itself
panics. -/
theorem PanicSource.emit {cli : Cli σ Language C H} {command : Command} {E : Type}
    {stream : E → Option Stream} {events : List E × Except Fault Unit} {msg : String}
    (h : cli.console.emit stream events = .error (.panic msg))
    (toStdout : ∀ event ∈ events.1, stream event = some .stdout → command.printsToStdout = true)
    (branch : events.2 = .error (.panic msg) → PanicSource cli command msg) :
    PanicSource cli command msg := by
  rcases Console.emit_eq_error h with failed | ⟨s, mem, e, refused, panic⟩
  · exact branch failed
  · obtain ⟨event, listed, written⟩ := List.mem_filterMap.mp mem
    exact .print refused (Fault.panic.inj panic) fun stdout => toStdout event listed (stdout ▸ written)

private theorem run_panic {cli : Cli σ Language C H} {command : Command} {msg : String}
    (h : run cli command = .error (.panic msg)) : PanicSource cli command msg := by
  simp only [run] at h
  obtain unreadable | ⟨currentDir, -, h⟩ := bind_eq_error.mp h
  · obtain ⟨debug, read, panic⟩ := unwrapResult_eq_error unreadable
    exact .inl ⟨debug, read, Fault.panic.inj panic⟩
  obtain ⟨_, -, h⟩ := liftError_bind_eq_panic h
  obtain ⟨_, -, h⟩ := liftError_bind_eq_panic h
  cases command with
  | initConfig => exact .emit h (fun _ _ _ => rfl) fun branch => absurd branch (liftError_ne_panic _ _)
  | generate args =>
      obtain ⟨rfl, mem⟩ := runGenerate_panic h
      exact .invalid mem
  | test args =>
      obtain ⟨rfl, mem⟩ := runTest_panic h
      exact .invalid mem
  | parse args =>
      refine .emit h (fun stats listed _ => runParse_prints stats listed) fun branch => ?_
      rcases runParse_panic branch with ⟨rfl, mem⟩ | ⟨t, kind, given, parsed, panic⟩
      · exact .invalid mem
      · exact .inr (.inr (.inr (.inr (.inl ⟨args, t, kind, rfl, given, parsed, panic⟩))))
  | query args =>
      obtain prepared | ⟨_, -, h⟩ := bind_eq_error.mp h
      · rcases queryCall_eq_panic prepared with ⟨rfl, mem⟩ | ⟨rfl, file, given, empty⟩ |
          ⟨rfl, s, given, bare⟩
        · exact .invalid mem
        · exact .inr (.inr (.inr (.inr (.inr (.inl ⟨args, file, rfl, given, empty, rfl⟩)))))
        · exact .inr (.inr (.inr (.inr (.inr (.inr ⟨args, s, rfl, given, bare.1, bare.2, rfl⟩)))))
      · exact absurd h (liftError_ne_panic _ _)
  | tags args =>
      obtain ⟨rfl, mem⟩ := runTags_panic h
      exact .invalid mem
  | highlight args =>
      refine .emit h (runHighlight_stdout _) fun branch => ?_
      obtain ⟨rfl, mem⟩ := runHighlight_panic branch
      exact .invalid mem
  | buildWasm args =>
      obtain ⟨rfl, given⟩ := runBuildWasm_panic h
      exact .invalid (by simp [Command.osArgs, given])
  | playground quiet => exact absurd h (liftError_ne_panic _ _)
  | dumpLanguages => exact .emit h (fun _ _ _ => rfl) fun branch => absurd branch (liftError_ne_panic _ _)

structure Cli.Loud (cli : Cli σ Language C H) : Prop where
  configLoad : Rust.Anyhow.Loud cli.configLoad
  loaderNew : Rust.Anyhow.Loud cli.loaderNew
  fs : cli.fs.Loud
  parse : cli.parse.Loud
  query : cli.query.Loud
  highlight : cli.highlight.Loud
  test : cli.test.Loud
  generate : cli.generate.Loud
  initConfig : cli.initConfig.Loud
  tags : cli.tags.Loud
  compileLanguageToWasm : ∀ grammarPath dir docker,
    Rust.Anyhow.Loud (cli.compileLanguageToWasm grammarPath dir docker)
  serve : ∀ dir openInBrowser, Rust.Anyhow.Loud (cli.serve dir openInBrowser)
  dump : Rust.Anyhow.Loud cli.dump.findAllLanguages

private theorem main_eq_silent_iff (console : Console) (result : Except Fault Unit) :
    main console result = { status := 1 } ↔
      ∃ e, result = .error (.error e) ∧ e.message = "" ∧ e.brokenPipe = false := by
  rcases result with (e | msg) | ⟨⟩
  · by_cases broken : e.brokenPipe
    · simp [main, broken]
    · by_cases empty : e.message = ""
      · simp [main, broken, empty, String.isEmpty_iff]
      · cases refused : console.stderr <;>
          simp [main, broken, empty, refused, String.isEmpty_iff]
  · simp [main]
  · simp [main]

private theorem run_error {cli : Cli σ Language C H} {command : Command} {e : Error}
    (loud : cli.Loud) (h : run cli command = .error (.error e)) :
    e.message ≠ "" ∨
      (e = Error.msg "" ∧
        ∃ args, command = .parse args ∧ ParseFailed cli.console cli.fs cli.parse args cli.world) := by
  simp only [run] at h
  obtain unreadable | ⟨currentDir, -, h⟩ := bind_eq_error.mp h
  · obtain ⟨_, -, ⟨⟩⟩ := unwrapResult_eq_error unreadable
  obtain failed | ⟨_, -, h⟩ := bind_eq_error.mp h
  · exact .inl (loud.configLoad e ((liftError_eq_error_iff _ _).mp failed))
  obtain failed | ⟨_, -, h⟩ := bind_eq_error.mp h
  · exact .inl (loud.loaderNew e ((liftError_eq_error_iff _ _).mp failed))
  cases command with
  | parse args =>
      rcases emit_runParse_error loud.fs loud.parse h with spoken | ⟨silent, failed⟩
      · exact .inl spoken
      · exact .inr ⟨silent, args, rfl, failed⟩
  | initConfig =>
      exact .inl (Console.loudFault_emit (runInitConfig_loud loud.initConfig).liftError e h)
  | generate args => exact .inl (runGenerate_loud loud.generate _ args e h)
  | test args => exact .inl (runTest_loud loud.test _ args e h)
  | query args => exact .inl (runQuery_loud loud.fs loud.query args e h)
  | tags args => exact .inl (runTags_loud loud.fs loud.tags args e h)
  | highlight args =>
      exact .inl (Console.loudFault_emit (runHighlight_loud loud.fs loud.highlight) e h)
  | buildWasm args =>
      exact .inl (((loudFault_valueOf _).bind fun _ =>
        (loud.compileLanguageToWasm _ _ _).liftError) e h)
  | playground quiet => exact .inl ((loud.serve _ _).liftError e h)
  | dumpLanguages =>
      exact .inl (Console.loudFault_emit (runDumpLanguages_loud loud.dump).liftError e h)

/-- With collaborators whose errors have messages, a run ends with status 1 and prints nothing
only when it is a `parse` run that read its flags, resolved the paths, parsed every one of
them with the calls the collaborators answered, printed its statistics under `--stat`, and
found one that did not parse. -/
theorem main_run_silent {cli : Cli σ Language C H} {command : Command} (loud : cli.Loud)
    (h : main cli.console (run cli command) = { status := 1 }) :
    ∃ args, command = .parse args ∧ ParseFailed cli.console cli.fs cli.parse args cli.world := by
  obtain ⟨e, failed, silent, -⟩ := (main_eq_silent_iff _ _).mp h
  rcases run_error loud failed with spoken | ⟨-, parsed⟩
  · exact absurd silent spoken
  · exact parsed

def failingParse : ParseEnv Unit Unit :=
  { threeFiles with
    parseFileAtPath := fun world _ =>
      .ok ({ successful := false, bytes := 0, duration := none }, world) }

def failingParseCli : Cli Unit Unit Unit Unit :=
  { textFilesCli with
    parse := failingParse }

private theorem failingParseCli_loud : failingParseCli.Loud where
  configLoad := loud_ok ()
  loaderNew := loud_ok ()
  fs := by
    intro pattern entries globbed e listed
    simp only [failingParseCli, textFilesCli, textFiles] at globbed
    split_ifs at globbed <;> cases globbed <;> simp at listed
  parse := ⟨fun _ => loud_ok _, fun _ _ _ => loud_ok _, fun _ _ => loud_ok _⟩
  query := ⟨loud_ok _, fun _ _ => loud_ok _, fun _ => loud_ok _⟩
  highlight :=
    ⟨loud_ok _, fun _ => loud_ok _, fun _ => loud_ok _, fun _ _ _ _ => loud_ok _,
      fun _ => by simp [failingParseCli, textFilesCli, jsHighlighting], fun _ => loud_ok _,
      fun _ _ _ _ => loud_ok _, fun _ _ _ => loud_ok _⟩
  test := ⟨fun _ _ => loud_ok _, fun _ => loud_ok _, fun _ _ => loud_ok _⟩
  generate := ⟨fun _ => loud_ok _, fun _ _ => loud_ok _⟩
  initConfig := ⟨loud_ok _, loud_ok _, loud_ok _, loud_ok _⟩
  tags := ⟨loud_ok _, fun _ _ _ _ => loud_ok _⟩
  compileLanguageToWasm _ _ _ := loud_ok _
  serve _ _ := loud_ok _
  dump := loud_ok _

theorem main_run_silent_failingParse :
    failingParseCli.Loud ∧
      main failingParseCli.console (run failingParseCli (.parse parseTextFiles)) = { status := 1 } ∧
      ∃ args, Command.parse parseTextFiles = .parse args ∧
        ParseFailed failingParseCli.console failingParseCli.fs failingParseCli.parse args
          failingParseCli.world :=
  ⟨failingParseCli_loud, rfl, main_run_silent failingParseCli_loud rfl⟩

/-- Once the current directory, the configuration and the loader are there, a `parse` run
that failed a parse and printed its statistics under `--stat` ends with status 1 and prints
nothing. -/
theorem main_run_parseFailed {cli : Cli σ Language C H} {args : ParseArgs} {currentDir : String}
    (started : cli.currentDir = .ok currentDir) (configured : cli.configLoad = .ok ())
    (loaded : cli.loaderNew = .ok ())
    (failed : ParseFailed cli.console cli.fs cli.parse args cli.world) :
    main cli.console (run cli (.parse args)) = { status := 1 } := by
  rw [run_started _ started configured loaded]
  dsimp only
  rw [emit_runParse_of_parseFailed failed]
  rfl

theorem main_run_parseFailed_failingParse :
    failingParseCli.currentDir = .ok "/work" ∧ failingParseCli.configLoad = .ok () ∧
      failingParseCli.loaderNew = .ok () ∧
      ParseFailed failingParseCli.console failingParseCli.fs failingParseCli.parse parseTextFiles
        failingParseCli.world ∧
      main failingParseCli.console (run failingParseCli (.parse parseTextFiles)) = { status := 1 } := by
  obtain ⟨st, ran⟩ : ∃ st, parsePaths failingParse statSettings true () ["a.txt", "b.txt"] = .ok st :=
    ⟨_, rfl⟩
  have failed : ParseFailed failingParseCli.console failingParseCli.fs failingParseCli.parse
      parseTextFiles failingParseCli.world := by
    refine ⟨statSettings, ["a.txt", "b.txt"], (), st, rfl, rfl, rfl, ran,
      (parsePaths_eq_ok statSettings true ran).1, fun _ => rfl, ?_⟩
    cases ran
    exact ⟨_, List.mem_cons_self _ _, rfl⟩
  exact ⟨rfl, rfl, rfl, failed, main_run_parseFailed rfl rfl rfl failed⟩

end TreeSitterCli.Run.Main
