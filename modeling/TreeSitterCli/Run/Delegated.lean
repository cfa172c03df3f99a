import TreeSitterCli.Paths.CollectPaths

/-!
The subcommands of `run` that hand their flags to one collaborator: `init-config`, `tags`,
`build-wasm`, `playground` and `dump-languages`. What they decide themselves is kept: the
check for an existing configuration, the order of the loader and the path resolution, the
grammar path, the browser flag, and the text printed for each language.
-/

set_option autoImplicit false
set_option relaxedAutoImplicit false

namespace TreeSitterCli.Run.Delegated

open TreeSitterCli.Rust.Str (pathJoin lines lines_flatMap_newline)
open TreeSitterCli.Rust.Anyhow (Error Fault Loud LoudFault LoudFault.bind Loud.liftError liftError
  liftError_ne_panic liftError_bind_eq_panic bind_eq_error)
open TreeSitterCli.Rust.Process (OsArg invalidUtf8 valueOf Stream valueOf_eq_error
  loudFault_valueOf)
open TreeSitterCli.Paths.CollectPaths (FileSystem collectArgPaths FileSystem.Loud
  collectArgPaths_loud collectArgPaths_eq_panic)

/-! ### `init-config` -/

/-- The configuration files of `tree_sitter_config`. -/
structure InitConfigEnv where
  /-- `Config::find_config_file()`. -/
  findConfigFile : Except Error (Option String)
  /-- `Config::initial()`, with the location it is saved at. -/
  initial : Except Error String
  /-- `config.add(tree_sitter_loader::Config::initial())`. -/
  addLoaderConfig : Except Error Unit
  /-- `config.add(tree_sitter_cli::highlight::ThemeConfig::default())`. -/
  addThemeConfig : Except Error Unit
  /-- `config.save()`. -/
  save : Except Error Unit

inductive InitConfigEvent
  /-- `config.save()`. -/
  | save
  /-- A line on standard output. -/
  | println (line : String)
  deriving DecidableEq, Repr

/-- The `init-config` branch of `run`. Only a configuration file that is found stops it; an
error of the lookup is not. -/
def runInitConfig (env : InitConfigEnv) : List InitConfigEvent × Except Error Unit :=
  match env.findConfigFile with
  | .ok (some configPath) =>
      ([], .error (Error.msg ("Remove your existing config file first: " ++ configPath)))
  | _ =>
      match env.initial, env.addLoaderConfig, env.addThemeConfig with
      | .error e, _, _ => ([], .error e)
      | .ok _, .error e, _ => ([], .error e)
      | .ok _, .ok (), .error e => ([], .error e)
      | .ok location, .ok (), .ok () =>
          match env.save with
          | .error e => ([.save], .error e)
          | .ok () => ([.save, .println ("Saved initial configuration to " ++ location)], .ok ())

def InitConfigEvent.stream : InitConfigEvent → Option Stream
  | .save => none
  | .println _ => some .stdout

/-! ### `tags` -/

structure TagsArgs where
  pathsFile : Option OsArg
  paths : Option (List OsArg)
  scope : Option OsArg
  quiet : Bool
  time : Bool

def TagsArgs.osArgs (args : TagsArgs) : List OsArg :=
  args.pathsFile.toList ++ args.paths.getD [] ++ args.scope.toList

structure TagsEnv where
  /-- `config.get()` and `loader.find_all_languages(&loader_config)`. -/
  findAllLanguages : Except Error Unit
  /-- `tags::generate_tags(&loader, scope, &paths, quiet, time)`. -/
  generateTags : Option String → List String → Bool → Bool → Except Error Unit

/-- The `tags` branch of `run`: the languages are found before the paths are resolved, and
the resolved paths, even none, go to the tags generator. -/
def runTags (fs : FileSystem) (env : TagsEnv) (args : TagsArgs) : Except Fault Unit := do
  liftError env.findAllLanguages
  let paths ← collectArgPaths fs args.pathsFile args.paths
  let scope ← valueOf args.scope
  liftError (env.generateTags scope paths args.quiet args.time)

/-! ### `build-wasm` and `playground` -/

/-- The arguments of the `build-wasm` subcommand: the first of its paths, the only one
`value_of` decodes, and `--docker`. -/
structure BuildWasmArgs where
  path : Option OsArg
  docker : Bool

/-- The `build-wasm` branch of `run`, with `wasm::compile_language_to_wasm(&loader,
&grammar_path, &current_dir, docker)` as `compile`. -/
def runBuildWasm (compile : String → String → Bool → Except Error Unit) (currentDir : String)
    (args : BuildWasmArgs) : Except Fault Unit := do
  let path ← valueOf args.path
  liftError (compile (pathJoin currentDir (path.getD "")) currentDir args.docker)

/-- The `playground` branch of `run`, with `playground::serve(&current_dir, open_in_browser)`
as `serve`. -/
def runPlayground (serve : String → Bool → Except Error Unit) (currentDir : String)
    (quiet : Bool) : Except Error Unit :=
  serve currentDir !quiet

/-! ### `dump-languages` -/

/-- A language configuration as `dump-languages` prints it: its scope, and the `Debug` texts
of its parser path, highlight file names, file types and regular expressions. -/
structure DumpedLanguage where
  scope : Option String
  parser : String
  highlights : String
  fileTypes : String
  contentRegex : String
  injectionRegex : String
  deriving DecidableEq, Repr

/-- The text of the `println!` for one language configuration, without the newline that
`println!` adds; a configuration without a scope prints an empty one. -/
def dumpLanguage (language : DumpedLanguage) : String :=
  "scope: " ++ language.scope.getD "" ++ "\nparser: " ++ language.parser ++
    "\nhighlights: " ++ language.highlights ++ "\nfile_types: " ++ language.fileTypes ++
    "\ncontent_regex: " ++ language.contentRegex ++ "\ninjection_regex: " ++
    language.injectionRegex ++ "\n"

structure DumpEnv where
  /-- `config.get()` and `loader.find_all_languages(&loader_config)`. -/
  findAllLanguages : Except Error Unit
  /-- `loader.get_all_language_configurations()`. -/
  configurations : List DumpedLanguage

def dumpStream (_ : String) : Option Stream :=
  some .stdout

def runDumpLanguages (env : DumpEnv) : List String × Except Error Unit :=
  match env.findAllLanguages with
  | .error e => ([], .error e)
  | .ok () => (env.configurations.map dumpLanguage, .ok ())

/-! ### Errors -/

structure InitConfigEnv.Loud (env : InitConfigEnv) : Prop where
  initial : Rust.Anyhow.Loud env.initial
  addLoaderConfig : Rust.Anyhow.Loud env.addLoaderConfig
  addThemeConfig : Rust.Anyhow.Loud env.addThemeConfig
  save : Rust.Anyhow.Loud env.save

theorem runInitConfig_loud {env : InitConfigEnv} (loud : env.Loud) :
    Loud (runInitConfig env).2 := by
  intro e failed
  unfold runInitConfig at failed
  split at failed
  · cases failed
    simp
  · split at failed
    · rename_i e' _ _ initial
      cases failed
      exact loud.initial e initial
    · rename_i e' _ _ added
      cases failed
      exact loud.addLoaderConfig e added
    · rename_i e' _ _ added
      cases failed
      exact loud.addThemeConfig e added
    · split at failed
      · rename_i e' saved
        cases failed
        exact loud.save e saved
      · cases failed

structure TagsEnv.Loud (env : TagsEnv) : Prop where
  findAllLanguages : Rust.Anyhow.Loud env.findAllLanguages
  generateTags : ∀ scope paths quiet time, Rust.Anyhow.Loud (env.generateTags scope paths quiet time)

theorem runTags_loud {fs : FileSystem} {env : TagsEnv} (fsLoud : fs.Loud) (loud : env.Loud)
    (args : TagsArgs) : LoudFault (runTags fs env args) :=
  loud.findAllLanguages.liftError.bind fun _ => (collectArgPaths_loud fsLoud _ _).bind fun _ =>
    (loudFault_valueOf _).bind fun _ => (loud.generateTags _ _ _ _).liftError

theorem runTags_panic {fs : FileSystem} {env : TagsEnv} {args : TagsArgs} {msg : String}
    (h : runTags fs env args = .error (.panic msg)) : msg = invalidUtf8 ∧ .invalid ∈ args.osArgs := by
  obtain ⟨_, -, h⟩ := liftError_bind_eq_panic h
  obtain collected | ⟨_, -, h⟩ := bind_eq_error.mp h
  · obtain ⟨rfl, mem⟩ := collectArgPaths_eq_panic collected
    exact ⟨rfl, by simp only [TagsArgs.osArgs, List.mem_append] at mem ⊢; tauto⟩
  obtain decoded | ⟨_, -, h⟩ := bind_eq_error.mp h
  · obtain ⟨given, panic⟩ := valueOf_eq_error decoded
    exact ⟨Fault.panic.inj panic, by simp [TagsArgs.osArgs, given]⟩
  exact absurd h (liftError_ne_panic _ _)

theorem runBuildWasm_panic {compile : String → String → Bool → Except Error Unit}
    {currentDir : String} {args : BuildWasmArgs} {msg : String}
    (h : runBuildWasm compile currentDir args = .error (.panic msg)) :
    msg = invalidUtf8 ∧ args.path = some .invalid := by
  obtain decoded | ⟨_, -, h⟩ := bind_eq_error.mp h
  · obtain ⟨given, panic⟩ := valueOf_eq_error decoded
    exact ⟨Fault.panic.inj panic, given⟩
  exact absurd h (liftError_ne_panic _ _)

theorem runDumpLanguages_loud {env : DumpEnv} (loud : Loud env.findAllLanguages) :
    Loud (runDumpLanguages env).2 := by
  unfold runDumpLanguages
  split
  · rename_i e' found
    simpa [found] using loud
  · simp

/-! ### What `dump-languages` writes -/

/-- What a sequence of `println!` writes: each text followed by a newline. -/
def printlns (texts : List String) : List Char :=
  texts.flatMap fun text => text.data ++ ['\n']

/-- The lines `dump-languages` writes for one configuration: six `key: value` lines and the
empty line that ends its block. -/
def dumpedLines (language : DumpedLanguage) : List (List Char) :=
  [("scope: " ++ language.scope.getD "").data, ("parser: " ++ language.parser).data,
    ("highlights: " ++ language.highlights).data, ("file_types: " ++ language.fileTypes).data,
    ("content_regex: " ++ language.contentRegex).data,
    ("injection_regex: " ++ language.injectionRegex).data, []]

/-- A printed field that stays on its line: no newline, and no carriage return at its end. -/
def InLine (field : String) : Prop :=
  '\n' ∉ field.data ∧ field.data.getLast? ≠ some '\r'

def DumpedLanguage.InLine (language : DumpedLanguage) : Prop :=
  ∀ field ∈ [language.scope.getD "", language.parser, language.highlights, language.fileTypes,
    language.contentRegex, language.injectionRegex], Delegated.InLine field

private theorem dumpLanguage_println (language : DumpedLanguage) :
    (dumpLanguage language).data ++ ['\n'] = (dumpedLines language).flatMap (· ++ ['\n']) := by
  simp only [dumpLanguage, dumpedLines, String.data_append, List.flatMap_cons, List.flatMap_nil,
    List.append_assoc, List.append_nil]
  rfl

private theorem keyLine_inLine {key field : String} (single : '\n' ∉ key.data)
    (spaced : key.data.getLast? = some ' ') (inLine : InLine field) :
    '\n' ∉ (key ++ field).data ∧ (key ++ field).data.getLast? ≠ some '\r' := by
  obtain ⟨fieldSingle, kept⟩ := inLine
  refine ⟨by simp [single, fieldSingle], ?_⟩
  rw [String.data_append, List.getLast?_append]
  cases last : field.data.getLast? with
  | none => simp [spaced]
  | some c => simpa [last] using kept

/-- Whatever configurations the loader has, when none of their printed fields leaves its line,
the standard output of `dump-languages` reads back, line by line, as each configuration's six
`key: value` lines followed by an empty line, in the loader's order. -/
theorem runDumpLanguages_lines {env : DumpEnv} (found : env.findAllLanguages = .ok ())
    (inLine : ∀ language ∈ env.configurations, language.InLine) :
    lines (printlns (runDumpLanguages env).1) = env.configurations.flatMap dumpedLines := by
  have printed : printlns (runDumpLanguages env).1 =
      (env.configurations.flatMap dumpedLines).flatMap (· ++ ['\n']) := by
    simp only [runDumpLanguages, found, printlns, List.flatMap_map, dumpLanguage_println,
      List.flatMap_assoc]
  rw [printed, lines_flatMap_newline]
  intro line mem
  obtain ⟨language, listed, mem⟩ := List.mem_flatMap.mp mem
  have fields := inLine language listed
  simp only [dumpedLines, List.mem_cons, List.not_mem_nil, or_false] at mem
  rcases mem with rfl | rfl | rfl | rfl | rfl | rfl | rfl
  all_goals first
    | exact keyLine_inLine (by decide) rfl (fields _ (by simp))
    | simp

end TreeSitterCli.Run.Delegated
