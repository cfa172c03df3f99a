import TreeSitterCli.Rust.Str
import TreeSitterCli.Rust.Process

/-!
The `test` subcommand of `run`. It sets the parser to the first language of the current
directory and then runs up to four stages, in order, stopping at the first that fails: the
corpus tests (in `test/corpus`, or in `corpus` when `test/corpus` is not a directory), the
check of the queries, the highlight tests and the tag tests (each when its directory
exists). The loader, the parser and the test runners are parameters, and the directories are
taken as they are when the branch starts.
-/

set_option autoImplicit false
set_option relaxedAutoImplicit false

namespace TreeSitterCli.Run.Test

open TreeSitterCli.Rust.Str (pathJoin)
open TreeSitterCli.Rust.Anyhow (Error Fault Loud LoudFault LoudFault.bind Loud.liftError liftError
  liftError_ne_panic liftError_eq_ok_iff bind_eq_error)
open TreeSitterCli.Rust.Process (OsArg invalidUtf8 valueOf valueOf_eq_error loudFault_valueOf)

structure TestArgs where
  debug : Bool
  debugGraph : Bool
  debugBuild : Bool
  update : Bool
  filter : Option OsArg
  /-- `--include` (`include` is a keyword of Lean). -/
  includeRegex : Option OsArg
  excludeRegex : Option OsArg
  applyAllCaptures : Bool

def TestArgs.osArgs (args : TestArgs) : List OsArg :=
  args.filter.toList ++ args.includeRegex.toList ++ args.excludeRegex.toList

/-- The values the branch reads before anything else: `--filter`, `--include` and
`--exclude`. -/
structure TestValues where
  filter : Option String
  includeRegex : Option String
  excludeRegex : Option String

def testValues (args : TestArgs) : Except Fault TestValues := do
  let filter ← valueOf args.filter
  let includeRegex ← valueOf args.includeRegex
  let excludeRegex ← valueOf args.excludeRegex
  pure ⟨filter, includeRegex, excludeRegex⟩

/-- `TestOptions`, with each regular expression given by its pattern. -/
structure TestOptions where
  path : String
  debug : Bool
  debugGraph : Bool
  filter : Option String
  /-- The field `include`. -/
  includeRegex : Option String
  excludeRegex : Option String
  update : Bool
  deriving DecidableEq, Repr

inductive TestStage
  /-- `test::run_tests_at_path(&mut parser, &mut opts)`. -/
  | corpus (opts : TestOptions)
  /-- `test::check_queries_at_path(language, &current_dir.join("queries"))`. -/
  | queries (dir : String)
  /-- `test_highlight::test_highlights(&loader, &mut highlighter, &test_highlight_dir,
  apply_all_captures)`. -/
  | highlights (dir : String) (applyAllCaptures : Bool)
  /-- `test_tags::test_tags(&loader, &mut tags_context, &test_tag_dir)`. -/
  | tags (dir : String)
  deriving DecidableEq, Repr

structure TestEnv (Language : Type) where
  /-- `Regex::new(pattern).is_ok()`. -/
  isValidRegex : String → Bool
  /-- `Path::is_dir`. -/
  isDir : String → Bool
  /-- `loader.use_debug_build(debug_build)` and `loader.languages_at_path(&current_dir)`. -/
  languagesAtPath : Bool → String → Except Error (List Language)
  /-- `parser.set_language(language)`. -/
  setLanguage : Language → Except Error Unit
  /-- A stage, run with the parser set to `language`. -/
  runStage : Language → TestStage → Except Error Unit

variable {Language : Type}

/-- `matches.value_of(name).and_then(|s| Regex::new(s).ok())`: a pattern that does not
compile is dropped. -/
def regexArg (env : TestEnv Language) (pattern : Option String) : Option String :=
  pattern.filter env.isValidRegex

/-- `test_dir.join("corpus")`, or `current_dir.join("corpus")` when that is not a
directory. -/
def testCorpusDir (env : TestEnv Language) (currentDir : String) : String :=
  let dir := pathJoin (pathJoin currentDir "test") "corpus"
  if env.isDir dir then dir else pathJoin currentDir "corpus"

def testOptions (env : TestEnv Language) (currentDir : String) (args : TestArgs)
    (values : TestValues) : TestOptions :=
  { path := testCorpusDir env currentDir
    debug := args.debug
    debugGraph := args.debugGraph
    filter := values.filter
    includeRegex := regexArg env values.includeRegex
    excludeRegex := regexArg env values.excludeRegex
    update := args.update }

/-- The stages the branch runs once the parser is set, in order. -/
def testStages (env : TestEnv Language) (currentDir : String) (args : TestArgs)
    (values : TestValues) : List TestStage :=
  let testDir := pathJoin currentDir "test"
  let highlightDir := pathJoin testDir "highlight"
  let tagDir := pathJoin testDir "tags"
  (if env.isDir (testCorpusDir env currentDir) then [.corpus (testOptions env currentDir args values)]
    else []) ++
  [.queries (pathJoin currentDir "queries")] ++
  (if env.isDir highlightDir then [.highlights highlightDir args.applyAllCaptures] else []) ++
  (if env.isDir tagDir then [.tags tagDir] else [])

/-- Stages run in order by `?`: the ones that ran, up to the first that fails, with the
result. -/
def runStages (run : TestStage → Except Error Unit) :
    List TestStage → List TestStage × Except Error Unit
  | [] => ([], .ok ())
  | stage :: stages =>
      match run stage with
      | .error e => ([stage], .error e)
      | .ok () =>
          let (ran, result) := runStages run stages
          (stage :: ran, result)

def runTest (env : TestEnv Language) (currentDir : String) (args : TestArgs) :
    List TestStage × Except Fault Unit :=
  match testValues args with
  | .error f => ([], .error f)
  | .ok values =>
      match env.languagesAtPath args.debugBuild currentDir with
      | .error e => ([], .error (.error e))
      | .ok languages =>
          match languages.head? with
          | none => ([], .error (.error (Error.msg "No language found")))
          | some language =>
              match env.setLanguage language with
              | .error e => ([], .error (.error e))
              | .ok () =>
                  (runStages (env.runStage language) (testStages env currentDir args values)).map id
                    liftError

/-! ### Running the stages -/

theorem runStages_eq_ok_iff (run : TestStage → Except Error Unit) (stages : List TestStage) :
    (runStages run stages).2 = .ok () ↔ ∀ stage ∈ stages, run stage = .ok () := by
  induction stages with
  | nil => simp [runStages]
  | cons stage stages ih =>
      cases passed : run stage <;> simp [runStages, passed, ih]

/-- The branch succeeds exactly when its values are UTF-8, the loader finds a language, the
parser takes the first, and every stage passes. -/
theorem runTest_eq_ok_iff (env : TestEnv Language) (currentDir : String) (args : TestArgs) :
    (runTest env currentDir args).2 = .ok () ↔
      ∃ values language languages, testValues args = .ok values ∧
        env.languagesAtPath args.debugBuild currentDir = .ok (language :: languages) ∧
        env.setLanguage language = .ok () ∧
        ∀ stage ∈ testStages env currentDir args values, env.runStage language stage = .ok () := by
  rw [runTest]
  rcases testValues args with f | values
  · simp
  rcases env.languagesAtPath args.debugBuild currentDir with e | _ | ⟨language, languages⟩
  · simp
  · simp
  · cases set : env.setLanguage language <;>
      simp [set, ← runStages_eq_ok_iff, liftError_eq_ok_iff]

/-! ### Errors -/

structure TestEnv.Loud (env : TestEnv Language) : Prop where
  languagesAtPath : ∀ debugBuild dir, Rust.Anyhow.Loud (env.languagesAtPath debugBuild dir)
  setLanguage : ∀ language, Rust.Anyhow.Loud (env.setLanguage language)
  runStage : ∀ language stage, Rust.Anyhow.Loud (env.runStage language stage)

private theorem runStages_loud {run : TestStage → Except Error Unit}
    (loud : ∀ stage, Loud (run stage)) (stages : List TestStage) : Loud (runStages run stages).2 := by
  induction stages with
  | nil => simp [runStages]
  | cons stage stages ih =>
      intro e failed
      unfold runStages at failed
      split at failed
      · rename_i e' ran
        cases failed
        exact loud stage e ran
      · cases rest : runStages run stages with
        | mk ran result =>
            rw [rest] at failed ih
            exact ih e failed

private theorem testValues_eq_error {args : TestArgs} {f : Fault}
    (h : testValues args = .error f) : f = .panic invalidUtf8 ∧ .invalid ∈ args.osArgs := by
  have decodedArg : ∀ {arg : Option OsArg}, (arg = some .invalid → .invalid ∈ args.osArgs) →
      valueOf arg = .error f → f = .panic invalidUtf8 ∧ .invalid ∈ args.osArgs :=
    fun listed decoded => by
      obtain ⟨given, panic⟩ := valueOf_eq_error decoded
      exact ⟨panic, listed given⟩
  obtain decoded | ⟨_, -, h⟩ := bind_eq_error.mp h
  · exact decodedArg (fun given => by simp [TestArgs.osArgs, given]) decoded
  obtain decoded | ⟨_, -, h⟩ := bind_eq_error.mp h
  · exact decodedArg (fun given => by simp [TestArgs.osArgs, given]) decoded
  obtain decoded | ⟨_, -, h⟩ := bind_eq_error.mp h
  · exact decodedArg (fun given => by simp [TestArgs.osArgs, given]) decoded
  cases h

theorem runTest_loud {env : TestEnv Language} (loud : env.Loud) (currentDir : String)
    (args : TestArgs) : LoudFault (runTest env currentDir args).2 := by
  intro e failed
  unfold runTest at failed
  split at failed
  · rename_i f decoded
    cases failed
    exact nomatch (testValues_eq_error decoded).1
  split at failed
  · rename_i e' found
    cases failed
    exact loud.languagesAtPath _ _ e found
  split at failed
  · cases failed
    simp
  split at failed
  · rename_i e' set
    cases failed
    exact loud.setLanguage _ e set
  exact (runStages_loud (loud.runStage _) _).liftError e failed

theorem runTest_panic {env : TestEnv Language} {currentDir : String} {args : TestArgs}
    {msg : String} (h : (runTest env currentDir args).2 = .error (.panic msg)) :
    msg = invalidUtf8 ∧ .invalid ∈ args.osArgs := by
  unfold runTest at h
  split at h
  · rename_i f decoded
    cases h
    obtain ⟨panic, mem⟩ := testValues_eq_error decoded
    exact ⟨Fault.panic.inj panic, mem⟩
  split at h
  · cases h
  split at h
  · cases h
  split at h
  · cases h
  exact absurd h (liftError_ne_panic _ _)

end TreeSitterCli.Run.Test
