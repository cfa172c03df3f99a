import TreeSitterCli.Paths.CollectPaths

/-!
The `query` subcommand of `run`. It resolves the paths, selects one language from the first
path, reads the optional `--byte-range` and `--row-range` arguments with two closures of the
same shape, and hands everything to `query::query_files_at_paths`. The loader and the query
engine are parameters.

The branch can panic before it calls the query engine: on an argument value that is not
UTF-8, at `paths[0]` when a paths file lists no path, and in a range closure.
-/

set_option autoImplicit false
set_option relaxedAutoImplicit false

namespace TreeSitterCli.Run.Query

open TreeSitterCli.Rust.Str (split parseUsize one_lt_split_length_iff split_of_not_mem
  split_append_cons parseUsize_toString digit_of_mem_toString isWhitespace)
open TreeSitterCli.Rust.Anyhow (Error Fault unwrap unwrapNonePanic index liftError
  liftError_ne_panic liftError_bind_eq_panic bind_eq_error bind_eq_ok LoudFault LoudFault.bind
  Loud.liftError loudFault_ok loudFault_unwrap loudFault_index)
open TreeSitterCli.Rust.Process (OsArg invalidUtf8 valueOf valueOf_eq_error valueOf_eq_some
  OsArg.toStr_eq_error loudFault_toStr loudFault_valueOf)
open TreeSitterCli.Paths.CollectPaths (FileSystem collectPaths collectArgPaths textFiles
  FileSystem.Loud collectArgPaths_loud collectArgPaths_eq_panic collectArgPaths_eq_nil
  collectArgPaths_pathsFile collectPaths_pathsFile_eq_nil_iff)

structure Point where
  row : Nat
  column : Nat
  deriving DecidableEq, Repr

/-- The range closure of the query branch, with the constructor `make` of its range:
`let mut parts = arg.split(':'); let start = parts.next()?.parse().ok()?;
let end = parts.next().unwrap().parse().ok()?; Some(make(start, end))`. -/
def rangeArg {α : Type} (make : Nat → Nat → α) (arg : String) : Except Fault (Option α) :=
  match split arg.data ':' with
  | [] => .ok none
  | first :: rest =>
      match parseUsize first with
      | none => .ok none
      | some start => do
          let second ← unwrap rest.head?
          match parseUsize second with
          | none => .ok none
          | some stop => .ok (some (make start stop))

def byteRangeArg : String → Except Fault (Option (Nat × Nat)) :=
  rangeArg fun start stop => (start, stop)

def rowRangeArg : String → Except Fault (Option (Point × Point)) :=
  rangeArg fun start stop => (⟨start, 0⟩, ⟨stop, 0⟩)

/-- `matches.value_of(name).and_then(closure)`. -/
def andThenArg {α : Type} (arg : Option String) (closure : String → Except Fault (Option α)) :
    Except Fault (Option α) :=
  match arg with
  | none => .ok none
  | some s => closure s

/-- The arguments of the `query` subcommand that the branch reads. `--captures`, `--quiet`
and `--time` are read with `values_of(..).is_some()`, which decodes nothing. -/
structure QueryArgs where
  queryPath : OsArg
  pathsFile : Option OsArg
  paths : Option (List OsArg)
  scope : Option OsArg
  byteRange : Option OsArg
  rowRange : Option OsArg
  captures : Bool
  test : Bool
  quiet : Bool
  time : Bool

def QueryArgs.osArgs (args : QueryArgs) : List OsArg :=
  args.queryPath :: args.pathsFile.toList ++ args.paths.getD [] ++ args.scope.toList ++
    args.byteRange.toList ++ args.rowRange.toList

/-- The call `query::query_files_at_paths(&language, paths, query_path, ordered_captures,
byte_range, point_range, should_test, quiet, time)`. -/
structure QueryCall (Language : Type) where
  language : Language
  paths : List String
  queryPath : String
  orderedCaptures : Bool
  byteRange : Option (Nat × Nat)
  pointRange : Option (Point × Point)
  shouldTest : Bool
  quiet : Bool
  time : Bool

structure QueryEnv (Language : Type) where
  /-- `config.get()` followed by `loader.find_all_languages(&loader_config)`. -/
  findAllLanguages : Except Error Unit
  /-- `loader.select_language(path, &current_dir, scope)`. -/
  selectLanguage : String → Option String → Except Error Language
  /-- `query::query_files_at_paths(..)`. -/
  queryFilesAtPaths : QueryCall Language → Except Error Unit

/-- The `query` branch of `run` up to the call of the query engine. -/
def queryCall {Language : Type} (fs : FileSystem) (env : QueryEnv Language) (args : QueryArgs) :
    Except Fault (QueryCall Language) := do
  let paths ← collectArgPaths fs args.pathsFile args.paths
  liftError env.findAllLanguages
  let first ← index paths 0
  let scope ← valueOf args.scope
  let language ← liftError (env.selectLanguage first scope)
  let queryPath ← args.queryPath.toStr
  let byteRange ← andThenArg (← valueOf args.byteRange) byteRangeArg
  let pointRange ← andThenArg (← valueOf args.rowRange) rowRangeArg
  pure
    { language := language, paths := paths, queryPath := queryPath,
      orderedCaptures := args.captures, byteRange := byteRange, pointRange := pointRange,
      shouldTest := args.test, quiet := args.quiet, time := args.time }

def runQuery {Language : Type} (fs : FileSystem) (env : QueryEnv Language) (args : QueryArgs) :
    Except Fault Unit := do
  let call ← queryCall fs env args
  liftError (env.queryFilesAtPaths call)

/-! ### The range closures -/

/-- The reading of a range argument that returns `Some` exactly when the first two fields
parse. -/
def rangeOfFields {α : Type} (make : Nat → Nat → α) : List (List Char) → Option α
  | first :: second :: _ => (parseUsize first).bind fun start => (parseUsize second).map (make start)
  | _ => none

/-- A range closure panics exactly on an argument without `:` that parses as a number; on
every other argument it returns the range of its first two fields, if both parse. -/
theorem rangeArg_eq {α : Type} (make : Nat → Nat → α) (arg : String) :
    rangeArg make arg =
      if ':' ∉ arg.data ∧ (parseUsize arg.data).isSome then .error (.panic unwrapNonePanic)
      else .ok (rangeOfFields make (split arg.data ':')) := by
  by_cases colon : ':' ∈ arg.data
  · obtain ⟨first, second, rest, fields⟩ : ∃ first second rest,
        split arg.data ':' = first :: second :: rest := by
      have two := (one_lt_split_length_iff arg.data ':').mpr colon
      match split arg.data ':', two with
      | first :: second :: rest, _ => exact ⟨first, second, rest, rfl⟩
    rw [if_neg (fun h => h.1 colon), rangeArg, fields, rangeOfFields]
    cases hf : parseUsize first <;> cases hs : parseUsize second <;>
      simp [hf, hs, unwrap, bind, Except.bind]
  · rw [rangeArg, split_of_not_mem colon]
    cases h : parseUsize arg.data <;> simp [h, colon, rangeOfFields, unwrap, bind, Except.bind]

/-- `--byte-range 5` and `--row-range 5` make the closures unwrap a missing second field. -/
theorem rangeArgs_bare_number_panic :
    byteRangeArg "5" = .error (.panic unwrapNonePanic) ∧
      rowRangeArg "5" = .error (.panic unwrapNonePanic) :=
  ⟨rfl, rfl⟩

/-- A range printed as `start:end` reads back as `start..end` when both numbers fit in a
`usize`, and as no range when one does not; it never panics. -/
theorem rangeArg_toString {α : Type} (make : Nat → Nat → α) (start stop : Nat) :
    rangeArg make (toString start ++ ":" ++ toString stop) =
      .ok (if start < 2 ^ 64 ∧ stop < 2 ^ 64 then some (make start stop) else none) := by
  have digits : ∀ n : Nat, ':' ∉ (toString n).data := fun n mem => by
    have := digit_of_mem_toString mem
    revert this
    decide
  have fields : split (toString start ++ ":" ++ toString stop).data ':' =
      [(toString start).data, (toString stop).data] := by
    rw [String.data_append, String.data_append, List.append_assoc, List.singleton_append,
      split_append_cons (digits start), split_of_not_mem (digits stop)]
  simp only [rangeArg, fields, parseUsize_toString, List.head?_cons, unwrap, bind, Except.bind]
  split_ifs <;> first | rfl | omega

private theorem andThenArg_rangeArg_error {α : Type} {make : Nat → Nat → α} {arg : Option String}
    {f : Fault} (h : andThenArg arg (rangeArg make) = .error f) :
    f = .panic unwrapNonePanic ∧
      ∃ s, arg = some s ∧ ':' ∉ s.data ∧ (parseUsize s.data).isSome := by
  cases arg with
  | none => cases h
  | some s =>
      simp only [andThenArg, rangeArg] at h
      split at h
      · cases h
      · rename_i first rest fields
        split at h
        · cases h
        · rename_i start parsed
          cases rest with
          | cons second rest =>
              simp only [unwrap, List.head?_cons, bind, Except.bind] at h
              split at h <;> cases h
          | nil =>
              have bare : ':' ∉ s.data := by
                rw [← one_lt_split_length_iff, fields]
                simp
              rw [split_of_not_mem bare, List.cons.injEq] at fields
              cases h
              exact ⟨rfl, s, rfl, bare, by simp [fields.1, parsed]⟩

/-! ### Where the query branch panics -/

/-- The branch panics before the query engine only on an argument value that is not UTF-8, at
`paths[0]` on a paths file that lists no path, and on a range argument that is a bare
number. -/
theorem queryCall_eq_panic {Language : Type} {fs : FileSystem} {env : QueryEnv Language}
    {args : QueryArgs} {msg : String} (h : queryCall fs env args = .error (.panic msg)) :
    (msg = invalidUtf8 ∧ .invalid ∈ args.osArgs) ∨
      (msg = "index out of bounds: the len is 0 but the index is 0" ∧
        ∃ file, args.pathsFile = some (.utf8 file) ∧ collectPaths fs (some file) none = .ok []) ∨
      (msg = unwrapNonePanic ∧ ∃ s, (args.byteRange = some (.utf8 s) ∨ args.rowRange = some (.utf8 s)) ∧
        ':' ∉ s.data ∧ (parseUsize s.data).isSome) := by
  have decodedArg : ∀ {arg : Option OsArg}, (arg = some .invalid → .invalid ∈ args.osArgs) →
      valueOf arg = .error (.panic msg) → msg = invalidUtf8 ∧ .invalid ∈ args.osArgs :=
    fun listed decoded => by
      obtain ⟨given, panic⟩ := valueOf_eq_error decoded
      exact ⟨Fault.panic.inj panic, listed given⟩
  simp only [queryCall] at h
  obtain collected | ⟨paths, resolved, h⟩ := bind_eq_error.mp h
  · obtain ⟨rfl, mem⟩ := collectArgPaths_eq_panic collected
    refine .inl ⟨rfl, ?_⟩
    simp only [QueryArgs.osArgs, List.mem_cons, List.mem_append] at mem ⊢
    tauto
  obtain ⟨_, -, h⟩ := liftError_bind_eq_panic h
  obtain indexed | ⟨first, -, h⟩ := bind_eq_error.mp h
  · -- `paths[0]` panics only on an empty list, which only a paths file resolves to
    have empty : paths = [] := by cases paths <;> simp_all [index]
    subst empty
    refine .inr (.inl ⟨?_, collectArgPaths_eq_nil resolved⟩)
    cases indexed
    rfl
  obtain badScope | ⟨_, -, h⟩ := bind_eq_error.mp h
  · exact .inl (decodedArg (fun given => by simp [QueryArgs.osArgs, given]) badScope)
  obtain ⟨_, -, h⟩ := liftError_bind_eq_panic h
  obtain decoded | ⟨_, -, h⟩ := bind_eq_error.mp h
  · obtain ⟨invalid, panic⟩ := OsArg.toStr_eq_error decoded
    exact .inl ⟨Fault.panic.inj panic, by simp [QueryArgs.osArgs, ← invalid]⟩
  obtain decoded | ⟨byteArg, byteDecoded, h⟩ := bind_eq_error.mp h
  · exact .inl (decodedArg (fun given => by simp [QueryArgs.osArgs, given]) decoded)
  obtain byteFailed | ⟨_, -, h⟩ := bind_eq_error.mp h
  · obtain ⟨panic, s, rfl, bare⟩ := andThenArg_rangeArg_error byteFailed
    exact .inr (.inr ⟨Fault.panic.inj panic, s, .inl (valueOf_eq_some byteDecoded), bare⟩)
  obtain decoded | ⟨rowArg, rowDecoded, h⟩ := bind_eq_error.mp h
  · exact .inl (decodedArg (fun given => by simp [QueryArgs.osArgs, given]) decoded)
  obtain rowFailed | ⟨_, -, h⟩ := bind_eq_error.mp h
  · obtain ⟨panic, s, rfl, bare⟩ := andThenArg_rangeArg_error rowFailed
    exact .inr (.inr ⟨Fault.panic.inj panic, s, .inr (valueOf_eq_some rowDecoded), bare⟩)
  cases h

/-- With a paths file that reads and a loader that finds its languages, the query branch
panics at `paths[0]` exactly when the file holds only whitespace. -/
theorem runQuery_blank_pathsFile_iff {Language : Type} {fs : FileSystem} {env : QueryEnv Language}
    {args : QueryArgs} {file contents : String} (given : args.pathsFile = some (.utf8 file))
    (read : fs.readToString file = .ok contents) (found : env.findAllLanguages = .ok ()) :
    runQuery fs env args = .error (.panic "index out of bounds: the len is 0 but the index is 0") ↔
      ∀ c ∈ contents.data, isWhitespace c := by
  rw [← collectPaths_pathsFile_eq_nil_iff none read]
  constructor
  · intro h
    obtain prepared | ⟨_, -, h⟩ := bind_eq_error.mp h
    · rcases queryCall_eq_panic prepared with ⟨other, -⟩ | ⟨-, file', given', empty⟩ | ⟨other, -⟩
      · exact absurd other (by decide)
      · rw [given, Option.some.injEq, OsArg.utf8.injEq] at given'
        exact given' ▸ empty
      · exact absurd other (by decide)
    · exact absurd h (liftError_ne_panic _ _)
  · intro empty
    simp only [runQuery, queryCall, given, collectArgPaths_pathsFile, empty, found, liftError,
      bind, Except.bind]
    rfl

/-! ### Errors -/

structure QueryEnv.Loud {Language : Type} (env : QueryEnv Language) : Prop where
  findAllLanguages : Rust.Anyhow.Loud env.findAllLanguages
  selectLanguage : ∀ path scope, Rust.Anyhow.Loud (env.selectLanguage path scope)
  queryFilesAtPaths : ∀ call, Rust.Anyhow.Loud (env.queryFilesAtPaths call)

private theorem rangeArg_loud {α : Type} (make : Nat → Nat → α) (arg : Option String) :
    LoudFault (andThenArg arg (rangeArg make)) := by
  cases arg with
  | none => simp [andThenArg]
  | some s =>
      simp only [andThenArg, rangeArg]
      split
      · simp
      · split
        · simp
        · refine (loudFault_unwrap _).bind fun _ => ?_
          split <;> simp

theorem runQuery_loud {Language : Type} {fs : FileSystem} {env : QueryEnv Language}
    (fsLoud : fs.Loud) (loud : env.Loud) (args : QueryArgs) : LoudFault (runQuery fs env args) := by
  refine LoudFault.bind ?_ fun call => (loud.queryFilesAtPaths call).liftError
  unfold queryCall
  refine (collectArgPaths_loud fsLoud _ _).bind fun paths => ?_
  refine loud.findAllLanguages.liftError.bind fun _ => ?_
  refine (loudFault_index paths 0).bind fun first => ?_
  refine (loudFault_valueOf _).bind fun scope => ?_
  refine (loud.selectLanguage first scope).liftError.bind fun _ => ?_
  refine (loudFault_toStr _).bind fun _ => ?_
  refine (loudFault_valueOf _).bind fun byteArg => ?_
  refine (rangeArg_loud _ byteArg).bind fun _ => ?_
  refine (loudFault_valueOf _).bind fun rowArg => ?_
  exact (rangeArg_loud _ rowArg).bind fun _ => loudFault_ok _

def oneLanguage : QueryEnv Unit where
  findAllLanguages := .ok ()
  selectLanguage _ _ := .ok ()
  queryFilesAtPaths _ := .ok ()

def queryBlankList : QueryArgs :=
  { queryPath := .utf8 "q.scm", pathsFile := some (.utf8 "blank.list"), paths := none, scope := none,
    byteRange := none, rowRange := none, captures := false, test := false, quiet := false,
    time := false }

theorem runQuery_blank_pathsFile_iff_blankList :
    queryBlankList.pathsFile = some (.utf8 "blank.list") ∧
      textFiles.readToString "blank.list" = .ok "\n  \n" ∧ oneLanguage.findAllLanguages = .ok () ∧
      (runQuery textFiles oneLanguage queryBlankList =
          .error (.panic "index out of bounds: the len is 0 but the index is 0") ↔
        ∀ c ∈ "\n  \n".data, isWhitespace c) :=
  ⟨rfl, rfl, rfl, runQuery_blank_pathsFile_iff rfl rfl rfl⟩

/-- A blank paths file resolves to no paths, and the query branch then indexes `paths[0]`. -/
theorem blank_pathsFile_query_panics :
    collectPaths textFiles (some "blank.list") none = .ok [] ∧
      runQuery textFiles oneLanguage queryBlankList =
        .error (.panic "index out of bounds: the len is 0 but the index is 0") :=
  ⟨rfl, rfl⟩

end TreeSitterCli.Run.Query
