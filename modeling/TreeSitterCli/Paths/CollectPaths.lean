import TreeSitterCli.Rust.Str
import TreeSitterCli.Rust.Process

/-!
`collect_paths`, which turns the `--paths` file or the path arguments of a subcommand into
the list of files the subcommand works on. The file system is a parameter: what a path
exists as, what a glob pattern matches, and what a file holds are whatever the machine says.

`collectPaths` takes the specifiers as text; `collectArgPaths` is the call of the branches,
whose clap iterator decodes each specifier only when the loop reaches it.
-/

set_option autoImplicit false
set_option relaxedAutoImplicit false

namespace TreeSitterCli.Paths.CollectPaths

open TreeSitterCli.Rust.Str (trim lines startsWith trimStartMatches isWhitespace joinLines
  trim_eq_nil_iff lines_eq_nil_iff lines_joinLines)
open TreeSitterCli.Rust.Anyhow (Error Fault debugStr liftError liftError_ne_panic
  liftError_bind_eq_panic liftError_eq_ok_iff bind_eq_error bind_eq_ok Loud Loud.bind LoudFault
  LoudFault.bind Loud.liftError loudFault_ok)
open TreeSitterCli.Rust.Process (OsArg invalidUtf8 valueOf valueOf_eq_error loudFault_toStr
  loudFault_valueOf OsArg.toStr_eq_error)

/-- One item of a glob iterator: a `GlobError`, a match that is not UTF-8 (`to_str` gives
`None`), or the match's text. -/
abbrev GlobEntry := Except Error (Option String)

/-- What `collect_paths` reads of the file system. -/
structure FileSystem where
  /-- `Path::new(path).exists()`. -/
  pathExists : String → Bool
  /-- `glob(pattern)`: a `PatternError`, or the items the iterator yields, in order. -/
  glob : String → Except Error (List GlobEntry)
  /-- `fs::read_to_string(path)`. -/
  readToString : String → Except Error String

/-- The closure `incorporate_path`: a positive path is pushed, a negative one removes the
first equal entry, if any. -/
def incorporatePath (result : List String) (path : String) (positive : Bool) : List String :=
  if positive then result ++ [path] else result.erase path

/-- The loop over the items of a glob: the first `GlobError` ends it, and a match that is
not UTF-8 is passed over. -/
def incorporateMatches (positive : Bool) : List String → List GlobEntry → Except Error (List String)
  | result, [] => .ok result
  | _, .error e :: _ => .error e
  | result, .ok none :: entries => incorporateMatches positive result entries
  | result, .ok (some path) :: entries =>
      incorporateMatches positive (incorporatePath result path positive) entries

/-- Whether a specifier is positive, and the path or pattern it names: a leading `!`
negates it and every leading `!` is trimmed. -/
def specifierPath (spec : String) : Bool × String :=
  if startsWith spec.data '!' then (false, ⟨trimStartMatches spec.data '!'⟩) else (true, spec)

/-- One pass of the loop over the specifiers: an existing path is taken literally, anything
else is expanded as a glob pattern. -/
def incorporateSpecifier (fs : FileSystem) (result : List String) (spec : String) :
    Except Error (List String) :=
  let (positive, path) := specifierPath spec
  if fs.pathExists path then .ok (incorporatePath result path positive)
  else match fs.glob path with
    | .error e => .error (e.context ("Invalid glob pattern " ++ debugStr path))
    | .ok entries => incorporateMatches positive result entries

/-- The loop `for mut path in paths` over the specifiers, in order. -/
def incorporateSpecifiers (fs : FileSystem) : List String → List String → Except Error (List String)
  | result, [] => .ok result
  | result, spec :: specs => match incorporateSpecifier fs result spec with
    | .error e => .error e
    | .ok result => incorporateSpecifiers fs result specs

def checkNonEmpty (result : List String) : Except Error (List String) :=
  if result.isEmpty then
    .error (.msg "No files were found at or matched by the provided pathname/glob")
  else .ok result

def collectPaths (fs : FileSystem) (pathsFile : Option String) (paths : Option (List String)) :
    Except Error (List String) :=
  match pathsFile, paths with
  | some pathsFile, _ => match fs.readToString pathsFile with
    | .error e => .error (e.context ("Failed to read paths file " ++ pathsFile))
    | .ok contents => .ok ((lines (trim contents.data)).map String.mk)
  | none, some paths => match incorporateSpecifiers fs [] paths with
    | .error e => .error e
    | .ok result => checkNonEmpty result
  | none, none => .error (.msg "Must provide one or more paths")

/-- The loop over the specifiers as `values_of("paths")` yields them, each decoded when the
loop reaches it. -/
def incorporateArgs (fs : FileSystem) : List String → List OsArg → Except Fault (List String)
  | result, [] => .ok result
  | result, arg :: args => do
      let spec ← arg.toStr
      let result ← liftError (incorporateSpecifier fs result spec)
      incorporateArgs fs result args

/-- `collect_paths(matches.value_of("paths-file"), matches.values_of("paths"))`. The paths
file is decoded first; with one, the path arguments are never read. -/
def collectArgPaths (fs : FileSystem) (pathsFile : Option OsArg) (paths : Option (List OsArg)) :
    Except Fault (List String) := do
  match ← valueOf pathsFile, paths with
  | none, some args => do
      let result ← incorporateArgs fs [] args
      liftError (checkNonEmpty result)
  | pathsFile, _ => liftError (collectPaths fs pathsFile none)

@[simp] theorem incorporatePath_positive (result : List String) (path : String) :
    incorporatePath result path true = result ++ [path] := rfl

@[simp] theorem incorporatePath_negative (result : List String) (path : String) :
    incorporatePath result path false = result.erase path := rfl

theorem mem_incorporatePath {result : List String} {path p : String} {positive : Bool}
    (h : p ∈ incorporatePath result path positive) : p ∈ result ∨ p = path := by
  cases positive with
  | true => simpa using h
  | false => exact .inl (List.mem_of_mem_erase h)

theorem checkNonEmpty_ne_nil {result ps : List String} (h : checkNonEmpty result = .ok ps) :
    ps ≠ [] := by
  unfold checkNonEmpty at h
  split_ifs at h with empty
  cases h
  simpa using empty

theorem collectPaths_specifiers_ne_nil {fs : FileSystem} {specs ps : List String}
    (h : collectPaths fs none (some specs) = .ok ps) : ps ≠ [] := by
  simp only [collectPaths] at h
  split at h
  · cases h
  · exact checkNonEmpty_ne_nil h

/-- Without a paths file a successful result is never empty. -/
theorem collectPaths_ne_nil_of_no_pathsFile {fs : FileSystem} {paths : Option (List String)}
    {ps : List String} (h : collectPaths fs none paths = .ok ps) : ps ≠ [] := by
  cases paths with
  | none => cases h
  | some specs => exact collectPaths_specifiers_ne_nil h

/-! ### Errors -/

def FileSystem.Loud (fs : FileSystem) : Prop :=
  ∀ pattern entries, fs.glob pattern = .ok entries →
    ∀ e, .error e ∈ entries → e.message ≠ ""

private theorem incorporateMatches_loud (positive : Bool) {entries : List GlobEntry}
    (loud : ∀ e, .error e ∈ entries → e.message ≠ "") (result : List String) :
    Loud (incorporateMatches positive result entries) := by
  induction entries generalizing result with
  | nil => simp [incorporateMatches]
  | cons entry entries ih =>
      have rest := fun e mem => loud e (List.mem_cons_of_mem entry mem)
      rcases entry with e | _ | path
      · simpa [incorporateMatches] using loud e (List.mem_cons_self _ _)
      · exact ih rest result
      · exact ih rest _

private theorem incorporateSpecifier_loud {fs : FileSystem} (loud : fs.Loud) (result : List String)
    (spec : String) : Loud (incorporateSpecifier fs result spec) := by
  unfold incorporateSpecifier
  cases specifierPath spec with
  | mk positive path =>
      dsimp only
      split_ifs
      · simp
      · cases globbed : fs.glob path with
        | error e => simp
        | ok entries => exact incorporateMatches_loud positive (loud _ entries globbed) result

private theorem incorporateSpecifiers_loud {fs : FileSystem} (loud : fs.Loud) (specs : List String)
    (result : List String) : Loud (incorporateSpecifiers fs result specs) := by
  induction specs generalizing result with
  | nil => simp [incorporateSpecifiers]
  | cons spec specs ih =>
      have first := incorporateSpecifier_loud loud result spec
      unfold incorporateSpecifiers
      cases step : incorporateSpecifier fs result spec with
      | error e => simpa [step] using first
      | ok result' => exact ih result'

private theorem checkNonEmpty_loud (result : List String) : Loud (checkNonEmpty result) := by
  unfold checkNonEmpty
  split_ifs <;> simp

theorem collectPaths_loud {fs : FileSystem} (loud : fs.Loud) (pathsFile : Option String)
    (paths : Option (List String)) : Loud (collectPaths fs pathsFile paths) := by
  unfold collectPaths
  split
  · split <;> simp
  · have specified := incorporateSpecifiers_loud loud ‹List String› []
    split
    · simpa [*] using specified
    · exact checkNonEmpty_loud _
  · simp

/-! ### Decoding the arguments -/

variable {fs : FileSystem}

private theorem incorporateArgs_utf8 (specs result : List String) :
    incorporateArgs fs result (specs.map .utf8) = liftError (incorporateSpecifiers fs result specs) := by
  induction specs generalizing result with
  | nil => rfl
  | cons spec specs ih =>
      show liftError (incorporateSpecifier fs result spec) >>=
          (incorporateArgs fs · (specs.map .utf8)) = _
      simp only [incorporateSpecifiers]
      cases incorporateSpecifier fs result spec with
      | error e => rfl
      | ok result' => exact ih result'

theorem collectArgPaths_utf8 (pathsFile : Option String) (paths : Option (List String)) :
    collectArgPaths fs (pathsFile.map .utf8) (paths.map (·.map .utf8)) =
      liftError (collectPaths fs pathsFile paths) := by
  rcases pathsFile with _ | pathsFile
  · rcases paths with _ | specs
    · rfl
    · show incorporateArgs fs [] (specs.map .utf8) >>= (liftError ∘ checkNonEmpty) = _
      rw [incorporateArgs_utf8]
      simp only [collectPaths]
      cases incorporateSpecifiers fs [] specs <;> rfl
  · rfl

@[simp] theorem collectArgPaths_pathsFile (pathsFile : String) (paths : Option (List OsArg)) :
    collectArgPaths fs (some (.utf8 pathsFile)) paths = liftError (collectPaths fs (some pathsFile) none) :=
  rfl

private theorem incorporateArgs_eq_panic {args : List OsArg} {result : List String} {msg : String}
    (h : incorporateArgs fs result args = .error (.panic msg)) : msg = invalidUtf8 ∧ .invalid ∈ args := by
  induction args generalizing result with
  | nil => cases h
  | cons arg args ih =>
      obtain decoded | ⟨spec, -, h⟩ := bind_eq_error.mp h
      · obtain ⟨rfl, panic⟩ := OsArg.toStr_eq_error decoded
        exact ⟨(Fault.panic.inj panic), List.mem_cons_self _ _⟩
      obtain ⟨result', -, h⟩ := liftError_bind_eq_panic h
      exact (ih h).imp_right (List.mem_cons_of_mem _)

theorem collectArgPaths_eq_panic {pathsFile : Option OsArg} {paths : Option (List OsArg)}
    {msg : String} (h : collectArgPaths fs pathsFile paths = .error (.panic msg)) :
    msg = invalidUtf8 ∧ .invalid ∈ pathsFile.toList ++ paths.getD [] := by
  obtain decoded | ⟨file, -, h⟩ := bind_eq_error.mp h
  · obtain ⟨rfl, panic⟩ := valueOf_eq_error decoded
    exact ⟨Fault.panic.inj panic, by simp⟩
  split at h
  · obtain looped | ⟨_, -, h⟩ := bind_eq_error.mp h
    · obtain ⟨msg, mem⟩ := incorporateArgs_eq_panic looped
      exact ⟨msg, by simp [*]⟩
    · exact absurd h (liftError_ne_panic _ _)
  · exact absurd h (liftError_ne_panic _ _)

theorem collectArgPaths_eq_nil {pathsFile : Option OsArg} {paths : Option (List OsArg)}
    (h : collectArgPaths fs pathsFile paths = .ok []) :
    ∃ file, pathsFile = some (.utf8 file) ∧ collectPaths fs (some file) none = .ok [] := by
  rcases pathsFile with _ | ⟨file | _⟩
  · cases paths with
    | none => cases h
    | some args =>
        obtain ⟨result, -, h⟩ := bind_eq_ok.mp
          (show incorporateArgs fs [] args >>= (liftError ∘ checkNonEmpty) = .ok [] from h)
        exact (checkNonEmpty_ne_nil ((liftError_eq_ok_iff _ _).mp h) rfl).elim
  · exact ⟨file, rfl, (liftError_eq_ok_iff _ _).mp h⟩
  · cases h

private theorem incorporateArgs_loud (loud : fs.Loud) (args : List OsArg) (result : List String) :
    LoudFault (incorporateArgs fs result args) := by
  induction args generalizing result with
  | nil => exact loudFault_ok _
  | cons arg args ih =>
      exact (loudFault_toStr arg).bind fun spec =>
        (incorporateSpecifier_loud loud result spec).liftError.bind ih

theorem collectArgPaths_loud (loud : fs.Loud) (pathsFile : Option OsArg)
    (paths : Option (List OsArg)) : LoudFault (collectArgPaths fs pathsFile paths) := by
  refine (loudFault_valueOf pathsFile).bind fun file => ?_
  split
  · exact (incorporateArgs_loud loud _ []).bind fun result => (checkNonEmpty_loud result).liftError
  · exact (collectPaths_loud loud _ none).liftError

/-- Two text files, `a.txt` and `b.txt`, which `*.txt` matches in that order, a script
`slow.js`, a paths file `paths.list` that lists the text files, and a paths file `blank.list`
of blank lines. -/
def textFiles : FileSystem where
  pathExists path :=
    path == "a.txt" || path == "b.txt" || path == "slow.js" || path == "paths.list" ||
      path == "blank.list"
  glob pattern :=
    if pattern == "*.txt" then .ok [.ok (some "a.txt"), .ok (some "b.txt")] else .ok []
  readToString path :=
    if path == "paths.list" then .ok "a.txt\nb.txt\n"
    else if path == "blank.list" then .ok "\n  \n"
    else .error (Error.msg "No such file or directory (os error 2)")

theorem incorporateSpecifiers_of_collectPaths {fs : FileSystem} {specs ps : List String}
    (h : collectPaths fs none (some specs) = .ok ps) : incorporateSpecifiers fs [] specs = .ok ps := by
  simp only [collectPaths] at h
  split at h
  · cases h
  · rename_i found
    unfold checkNonEmpty at h
    split_ifs at h
    cases h
    exact found

theorem collectPaths_pathsFile {fs : FileSystem} {pathsFile contents : String}
    (paths : Option (List String)) (read : fs.readToString pathsFile = .ok contents) :
    collectPaths fs (some pathsFile) paths = .ok ((lines (trim contents.data)).map String.mk) := by
  simp [collectPaths, read]

/-! ### The paths file -/

theorem collectPaths_pathsFile_eq_nil_iff {fs : FileSystem} {pathsFile contents : String}
    (paths : Option (List String)) (read : fs.readToString pathsFile = .ok contents) :
    collectPaths fs (some pathsFile) paths = .ok [] ↔ ∀ c ∈ contents.data, isWhitespace c := by
  rw [collectPaths_pathsFile paths read, ← trim_eq_nil_iff, ← lines_eq_nil_iff]
  simp

theorem collectPaths_pathsFile_blank :
    textFiles.readToString "blank.list" = .ok "\n  \n" ∧
      (collectPaths textFiles (some "blank.list") none = .ok [] ↔
        ∀ c ∈ "\n  \n".data, isWhitespace c) := by
  have read : textFiles.readToString "blank.list" = .ok "\n  \n" := rfl
  exact ⟨read, collectPaths_pathsFile_eq_nil_iff none read⟩

/-- A paths file whose text, once trimmed, is paths written one per line reads back as
those paths, when no path is empty, holds a newline or ends with a carriage return. -/
theorem collectPaths_pathsFile_lines {fs : FileSystem} {pathsFile contents : String}
    (paths : Option (List String)) {ps : List String}
    (read : fs.readToString pathsFile = .ok contents)
    (listed : trim contents.data = joinLines (ps.map String.data))
    (wellFormed : ∀ p ∈ ps, '\n' ∉ p.data ∧ p.data.getLast? ≠ some '\r' ∧ p.data ≠ []) :
    collectPaths fs (some pathsFile) paths = .ok ps := by
  rw [collectPaths_pathsFile paths read, listed, lines_joinLines _ (by simpa using wellFormed),
    List.map_map]
  exact congrArg Except.ok (List.map_id ps)

theorem collectPaths_pathsFile_listed :
    textFiles.readToString "paths.list" = .ok "a.txt\nb.txt\n" ∧
      trim "a.txt\nb.txt\n".data = joinLines (["a.txt", "b.txt"].map String.data) ∧
      (∀ p ∈ ["a.txt", "b.txt"], '\n' ∉ p.data ∧ p.data.getLast? ≠ some '\r' ∧ p.data ≠ []) ∧
      collectPaths textFiles (some "paths.list") none = .ok ["a.txt", "b.txt"] := by
  have read : textFiles.readToString "paths.list" = .ok "a.txt\nb.txt\n" := rfl
  have listed : trim "a.txt\nb.txt\n".data = joinLines (["a.txt", "b.txt"].map String.data) := by
    decide
  have wellFormed : ∀ p ∈ ["a.txt", "b.txt"],
      '\n' ∉ p.data ∧ p.data.getLast? ≠ some '\r' ∧ p.data ≠ [] := by decide
  exact ⟨read, listed, wellFormed, collectPaths_pathsFile_lines none read listed wellFormed⟩

end TreeSitterCli.Paths.CollectPaths
