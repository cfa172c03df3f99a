import TreeSitterCli.Rust.Str
import TreeSitterCli.Rust.Process

/-!
The `generate` subcommand of `run`. It reads the ABI version (the default, `latest`, or a
number), calls the parser generator once, and with `--build` then compiles the languages of
the current directory, with a loader built on `--libdir` when one is given. The generator and
the loader are parameters; a run is the list of their calls, in order, with its result.
-/

set_option autoImplicit false
set_option relaxedAutoImplicit false

namespace TreeSitterCli.Run.Generate

open TreeSitterCli.Rust.Str (IntErrorKind parseUsize fromStrRadix fromStrRadix_toOption
  fromStrRadix_toString digit_of_mem_toString)
open TreeSitterCli.Rust.Anyhow (Error Fault Loud LoudFault LoudFault.bind Loud.liftError liftError
  liftError_ne_panic liftError_bind_eq_panic bind_eq_error loudFault_ok)
open TreeSitterCli.Rust.Process (OsArg invalidUtf8 valueOf valueOf_eq_error loudFault_valueOf)

def defaultGenerateAbiVersion : Nat := 14

structure GenerateArgs where
  grammarPath : Option OsArg
  log : Bool
  abiVersion : Option OsArg
  noBindings : Bool
  build : Bool
  debugBuild : Bool
  libdir : Option OsArg
  reportStatesForRule : Option OsArg
  /-- `--js-runtime`, or `TREE_SITTER_JS_RUNTIME` when the flag is absent. -/
  jsRuntime : Option OsArg

def GenerateArgs.osArgs (args : GenerateArgs) : List OsArg :=
  args.grammarPath.toList ++ args.libdir.toList ++ args.jsRuntime.toList ++
    args.reportStatesForRule.toList ++ args.abiVersion.toList

/-- The ABI version: `DEFAULT_GENERATE_ABI_VERSION` without `--abi`, `LANGUAGE_VERSION` for
`latest`, and otherwise the flag parsed as a `usize`, whose error gets the context
`invalid abi version flag`. -/
def abiVersionArg (languageVersion : Nat) : Option String → Except Error Nat
  | none => .ok defaultGenerateAbiVersion
  | some version =>
      if version = "latest" then .ok languageVersion
      else match fromStrRadix 64 version.data with
        | .ok abiVersion => .ok abiVersion
        | .error kind => .error ((Error.msg kind.description).context "invalid abi version flag")

/-- `matches.value_of("report-states-for-rule").or_else(|| if matches.is_present("report-states")
{ Some("") } else { None })`. -/
def reportSymbolName (reportStatesForRule : Option String) (reportStates : Bool) : Option String :=
  reportStatesForRule.orElse fun _ => if reportStates then some "" else none

/-- The call `generate::generate_parser_in_directory(&current_dir, grammar_path, abi_version,
generate_bindings, report_symbol_name, js_runtime)`. -/
structure GenerateCall where
  repoPath : String
  grammarPath : Option String
  abiVersion : Nat
  generateBindings : Bool
  reportSymbolName : Option String
  jsRuntime : Option String
  deriving DecidableEq, Repr

/-- The loader `--build` compiles with: `Loader::with_parser_lib_path(libdir)` when `--libdir`
is given (`none` is the loader of `Loader::new()`), in debug mode with `--debug-build`. -/
structure LoaderSetup where
  parserLibPath : Option String
  debugBuild : Bool
  deriving DecidableEq, Repr

inductive GenerateEvent
  /-- `logger::init()`. -/
  | loggerInit
  /-- `generate::generate_parser_in_directory(..)`. -/
  | generate (call : GenerateCall)
  /-- `loader.languages_at_path(&current_dir)`. -/
  | compile (loader : LoaderSetup) (dir : String)
  deriving DecidableEq, Repr

structure GenerateEnv where
  /-- `tree_sitter::LANGUAGE_VERSION`. -/
  languageVersion : Nat
  generateParserInDirectory : GenerateCall → Except Error Unit
  languagesAtPath : LoaderSetup → String → Except Error Unit

/-- The values the branch reads before `logger::init()`, decoded in the order of the source:
the grammar path, `--libdir`, `--js-runtime` and `--report-states-for-rule`. -/
structure GenerateValues where
  grammarPath : Option String
  libdir : Option String
  jsRuntime : Option String
  reportStatesForRule : Option String

def generateValues (args : GenerateArgs) : Except Fault GenerateValues := do
  let grammarPath ← valueOf args.grammarPath
  let libdir ← valueOf args.libdir
  let jsRuntime ← valueOf args.jsRuntime
  let reportStatesForRule ← valueOf args.reportStatesForRule
  pure ⟨grammarPath, libdir, jsRuntime, reportStatesForRule⟩

/-- The generator's call for an ABI version that has been read. The `generate` subcommand
declares no `report-states` argument, which clap then reports absent. -/
def generateCall (currentDir : String) (args : GenerateArgs) (values : GenerateValues)
    (abiVersion : Nat) : GenerateCall :=
  { repoPath := currentDir
    grammarPath := values.grammarPath
    abiVersion := abiVersion
    generateBindings := !args.noBindings
    reportSymbolName := reportSymbolName values.reportStatesForRule false
    jsRuntime := values.jsRuntime }

def loaderSetup (args : GenerateArgs) (values : GenerateValues) : LoaderSetup :=
  { parserLibPath := values.libdir
    debugBuild := args.debugBuild }

def runGenerate (env : GenerateEnv) (currentDir : String) (args : GenerateArgs) :
    List GenerateEvent × Except Fault Unit :=
  let logged := if args.log then [GenerateEvent.loggerInit] else []
  match generateValues args with
  | .error f => ([], .error f)
  | .ok values =>
      match valueOf args.abiVersion with
      | .error f => (logged, .error f)
      | .ok abiArg =>
          match abiVersionArg env.languageVersion abiArg with
          | .error e => (logged, .error (.error e))
          | .ok abiVersion =>
              let call := generateCall currentDir args values abiVersion
              match env.generateParserInDirectory call with
              | .error e => (logged ++ [.generate call], .error (.error e))
              | .ok () =>
                  if args.build then
                    (logged ++ [.generate call, .compile (loaderSetup args values) currentDir],
                      liftError (env.languagesAtPath (loaderSetup args values) currentDir))
                  else (logged ++ [.generate call], .ok ())

/-! ### The ABI version -/

/-- `--abi` reads as the default without the flag, as `LANGUAGE_VERSION` for `latest`, and
otherwise exactly when it parses as a `usize`. -/
theorem abiVersionArg_eq_ok_iff (languageVersion : Nat) (arg : Option String) (abiVersion : Nat) :
    abiVersionArg languageVersion arg = .ok abiVersion ↔
      (arg = none ∧ abiVersion = defaultGenerateAbiVersion) ∨
        (arg = some "latest" ∧ abiVersion = languageVersion) ∨
        ∃ version, arg = some version ∧ version ≠ "latest" ∧
          parseUsize version.data = some abiVersion := by
  cases arg with
  | none => simp [abiVersionArg, eq_comm]
  | some version =>
      by_cases latest : version = "latest"
      · subst latest; simp [abiVersionArg, eq_comm]
      · simp only [abiVersionArg, if_neg latest, parseUsize, ← fromStrRadix_toOption]
        cases parsed : fromStrRadix 64 version.data <;> simp [latest, parsed, Except.toOption]

theorem abiVersionArg_error {languageVersion : Nat} {arg : Option String} {e : Error}
    (h : abiVersionArg languageVersion arg = .error e) :
    ∃ version kind, arg = some version ∧ version ≠ "latest" ∧
      fromStrRadix 64 version.data = .error kind ∧
      e = { message := "invalid abi version flag", causes := [kind.description] } := by
  cases arg with
  | none => cases h
  | some version =>
      by_cases latest : version = "latest"
      · simp [abiVersionArg, latest] at h
      · simp only [abiVersionArg, if_neg latest] at h
        cases parsed : fromStrRadix 64 version.data with
        | ok _ => simp [parsed] at h
        | error kind =>
            simp only [parsed, Except.error.injEq] at h
            exact ⟨version, kind, rfl, latest, parsed, h.symm⟩

/-- `--abi` reads back the decimal text of every number below `2 ^ 64`, and fails on that of
every larger number with the context `invalid abi version flag` over `PosOverflow`. -/
theorem abiVersionArg_toString (languageVersion n : Nat) :
    abiVersionArg languageVersion (some (toString n)) =
      if n < 2 ^ 64 then .ok n
      else .error ((Error.msg IntErrorKind.posOverflow.description).context
        "invalid abi version flag") := by
  have printed : toString n ≠ "latest" := fun same => by
    have := digit_of_mem_toString (c := 'l') (by rw [same]; decide)
    revert this
    decide
  rw [abiVersionArg, if_neg printed, fromStrRadix_toString]
  split_ifs <;> rfl

/-! ### Errors -/

structure GenerateEnv.Loud (env : GenerateEnv) : Prop where
  generateParserInDirectory : ∀ call, Rust.Anyhow.Loud (env.generateParserInDirectory call)
  languagesAtPath : ∀ loader dir, Rust.Anyhow.Loud (env.languagesAtPath loader dir)

private theorem runGenerate_result (env : GenerateEnv) (currentDir : String) (args : GenerateArgs) :
    (runGenerate env currentDir args).2 = (do
      let values ← generateValues args
      let abiArg ← valueOf args.abiVersion
      let abiVersion ← liftError (abiVersionArg env.languageVersion abiArg)
      liftError (env.generateParserInDirectory (generateCall currentDir args values abiVersion))
      if args.build then liftError (env.languagesAtPath (loaderSetup args values) currentDir)
      else pure ()) := by
  unfold runGenerate
  simp only [bind, Except.bind]
  rcases generateValues args with f | values
  · rfl
  dsimp only
  rcases valueOf args.abiVersion with f | abiArg
  · rfl
  dsimp only
  rcases abiVersionArg env.languageVersion abiArg with e | abiVersion
  · rfl
  dsimp only [liftError]
  rcases env.generateParserInDirectory (generateCall currentDir args values abiVersion) with e | ⟨⟩
  · rfl
  split_ifs <;> rfl

private theorem generateValues_eq_error {args : GenerateArgs} {f : Fault}
    (h : generateValues args = .error f) : f = .panic invalidUtf8 ∧ .invalid ∈ args.osArgs := by
  have decodedArg : ∀ {arg : Option OsArg}, (arg = some .invalid → .invalid ∈ args.osArgs) →
      valueOf arg = .error f → f = .panic invalidUtf8 ∧ .invalid ∈ args.osArgs :=
    fun listed decoded => by
      obtain ⟨given, panic⟩ := valueOf_eq_error decoded
      exact ⟨panic, listed given⟩
  obtain decoded | ⟨_, -, h⟩ := bind_eq_error.mp h
  · exact decodedArg (fun given => by simp [GenerateArgs.osArgs, given]) decoded
  obtain decoded | ⟨_, -, h⟩ := bind_eq_error.mp h
  · exact decodedArg (fun given => by simp [GenerateArgs.osArgs, given]) decoded
  obtain decoded | ⟨_, -, h⟩ := bind_eq_error.mp h
  · exact decodedArg (fun given => by simp [GenerateArgs.osArgs, given]) decoded
  obtain decoded | ⟨_, -, h⟩ := bind_eq_error.mp h
  · exact decodedArg (fun given => by simp [GenerateArgs.osArgs, given]) decoded
  cases h

theorem runGenerate_loud {env : GenerateEnv} (loud : env.Loud) (currentDir : String)
    (args : GenerateArgs) : LoudFault (runGenerate env currentDir args).2 := by
  rw [runGenerate_result]
  refine LoudFault.bind (fun e h => nomatch (generateValues_eq_error h).1) fun values => ?_
  refine (loudFault_valueOf _).bind fun abiArg => ?_
  refine LoudFault.bind (Loud.liftError fun e read => ?_) fun abiVersion => ?_
  · obtain ⟨_, _, _, _, _, rfl⟩ := abiVersionArg_error read
    simp
  refine (loud.generateParserInDirectory _).liftError.bind fun _ => ?_
  split_ifs
  · exact (loud.languagesAtPath _ _).liftError
  · exact loudFault_ok _

theorem runGenerate_panic {env : GenerateEnv} {currentDir : String} {args : GenerateArgs}
    {msg : String} (h : (runGenerate env currentDir args).2 = .error (.panic msg)) :
    msg = invalidUtf8 ∧ .invalid ∈ args.osArgs := by
  rw [runGenerate_result] at h
  obtain decoded | ⟨values, -, h⟩ := bind_eq_error.mp h
  · obtain ⟨panic, mem⟩ := generateValues_eq_error decoded
    exact ⟨Fault.panic.inj panic, mem⟩
  obtain decoded | ⟨abiArg, -, h⟩ := bind_eq_error.mp h
  · obtain ⟨given, panic⟩ := valueOf_eq_error decoded
    exact ⟨Fault.panic.inj panic, by simp [GenerateArgs.osArgs, given]⟩
  repeat
    obtain ⟨_, -, h⟩ := liftError_bind_eq_panic h
  split_ifs at h
  · exact absurd h (liftError_ne_panic _ _)
  · cases h

end TreeSitterCli.Run.Generate
