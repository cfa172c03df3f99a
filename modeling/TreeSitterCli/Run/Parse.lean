import TreeSitterCli.Paths.CollectPaths

/-!
The `parse` subcommand of `run`. After reading its flags and resolving the paths, it runs
one loop over the paths: select the file's language, set it on the parser, parse the file,
fold the result into the statistics when `--stat` is given, and remember whether any parse
failed. A failed parse does not stop the loop. After it the branch prints the statistics when
`--stat` is given, and the verdict fails the command when a parse failed.

The loader, the parser and the parse module are parameters over a state `σ` they share, so
that each call may depend on all calls before it. The loop state also keeps the calls of
`parse_file_at_path` made so far, with what each returned; `ParseTrace` ties that log to what
the collaborators answered.
-/

set_option autoImplicit false
set_option relaxedAutoImplicit false

namespace TreeSitterCli.Run.Parse

open TreeSitterCli.Rust.Str (IntErrorKind fromStrRadix fromStrRadix_toString)
open TreeSitterCli.Rust.Anyhow (Error Fault unwrapResult resultUnwrapPanic liftError
  liftError_ne_panic liftError_bind_eq_panic liftError_eq_ok_iff liftError_eq_error_iff
  bind_eq_error bind_eq_ok LoudFault LoudFault.bind Loud.liftError Loud.mapError_context
  loudFault_ok)
open TreeSitterCli.Rust.Process (OsArg invalidUtf8 valueOf valuesOf Stream Console valueOf_eq_error
  valuesOf_eq_error valueOf_ok_of_ne_invalid OsArg.toStr_eq_error loudFault_toStr loudFault_valueOf
  loudFault_valuesOf Console.emit_eq_error Console.writable_of_emit_eq_error)
open TreeSitterCli.Paths.CollectPaths (FileSystem collectArgPaths FileSystem.Loud
  collectArgPaths_loud collectArgPaths_eq_panic)

inductive ParseOutput
  | normal | quiet | xml | dot
  deriving DecidableEq, Repr

inductive Encoding
  | utf8 | utf16
  deriving DecidableEq, Repr

/-- Modelled from the spec: `parse::ParseResult`, declared in the parse module, which is not
among the sources. The fields are those the loop reads; a duration is present only when
the parse was timed. -/
structure ParseResult where
  successful : Bool
  bytes : Nat
  duration : Option Nat
  deriving DecidableEq, Repr

/-- Modelled from the spec: `parse::Stats` and its `Default`, declared in the parse module.
The spec's `RunSummary` gives its counters as unsigned integers; durations are in
nanoseconds. -/
structure Stats where
  successfulParses : Nat := 0
  totalParses : Nat := 0
  totalBytes : Nat := 0
  totalDuration : Nat := 0
  deriving DecidableEq, Repr

structure ParseFileOptions (Language : Type) where
  language : Language
  path : String
  edits : List String
  maxPathLength : Nat
  output : ParseOutput
  printTime : Bool
  timeout : Nat
  debug : Bool
  debugGraph : Bool
  encoding : Option Encoding

/-- The flags of the branch that every pass of the loop reads. `scope` is still undecoded:
each pass calls `matches.value_of("scope")` again. -/
structure ParseSettings where
  scope : Option OsArg
  edits : List String
  output : ParseOutput
  time : Bool
  timeout : Nat
  debug : Bool
  debugGraph : Bool
  encoding : Option Encoding

/-- The loader, the parser and the parse module, over the state `σ` they share. -/
structure ParseEnv (σ Language : Type) where
  /-- `config.get()` followed by `loader.find_all_languages(&loader_config)`. -/
  findAllLanguages : σ → Except Error σ
  selectLanguage : σ → String → Option String → Except Error (Language × σ)
  setLanguage : σ → Language → Except Error σ
  parseFileAtPath : σ → ParseFileOptions Language → Except Error (ParseResult × σ)

/-- The variables of the loop, and the calls of `parse_file_at_path` it has made. -/
structure ParseLoop (σ Language : Type) where
  world : σ
  stats : Stats
  hasError : Bool
  calls : List (ParseFileOptions Language × ParseResult)

def ParseLoop.initial {σ Language : Type} (world : σ) : ParseLoop σ Language :=
  { world := world, stats := {}, hasError := false, calls := [] }

/-- The `if should_track_stats` block for one result. -/
def Stats.record (stats : Stats) (result : ParseResult) : Stats :=
  let stats := { stats with totalParses := stats.totalParses + 1 }
  let stats :=
    if result.successful then { stats with successfulParses := stats.successfulParses + 1 }
    else stats
  match result.duration with
  | some duration =>
      { stats with
        totalBytes := stats.totalBytes + result.bytes
        totalDuration := stats.totalDuration + duration }
  | none => stats

variable {σ Language : Type}

/-- `ParseFileOptions { .. }` as a pass builds it. -/
def fileOptions (settings : ParseSettings) (maxPathLength : Nat) (language : Language)
    (path : String) : ParseFileOptions Language :=
  { language := language
    path := path
    edits := settings.edits
    maxPathLength := maxPathLength
    output := settings.output
    printTime := settings.time
    timeout := settings.timeout
    debug := settings.debug
    debugGraph := settings.debugGraph
    encoding := settings.encoding }

/-- The end of a pass: the statistics block, `has_error |= !parse_result.successful`, and the
call it made. -/
def ParseLoop.record (st : ParseLoop σ Language) (shouldTrackStats : Bool)
    (opts : ParseFileOptions Language) (result : ParseResult) (world : σ) : ParseLoop σ Language :=
  { world := world
    stats := if shouldTrackStats then st.stats.record result else st.stats
    hasError := st.hasError || !result.successful
    calls := st.calls ++ [(opts, result)] }

/-- One pass of `for path in paths`. -/
def parseStep (env : ParseEnv σ Language) (settings : ParseSettings) (maxPathLength : Nat)
    (shouldTrackStats : Bool) (st : ParseLoop σ Language) (path : String) :
    Except Fault (ParseLoop σ Language) := do
  let scope ← valueOf settings.scope
  let (language, world) ← liftError (env.selectLanguage st.world path scope)
  let world ← liftError ((env.setLanguage world language).mapError (·.context "incompatible language"))
  let opts := fileOptions settings maxPathLength language path
  let (parseResult, world) ← liftError (env.parseFileAtPath world opts)
  pure (st.record shouldTrackStats opts parseResult world)

/-- The loop `for path in paths`, which `?` leaves at the first error of a call. -/
def parseFiles (env : ParseEnv σ Language) (settings : ParseSettings) (maxPathLength : Nat)
    (shouldTrackStats : Bool) : ParseLoop σ Language → List String →
    Except Fault (ParseLoop σ Language)
  | st, [] => .ok st
  | st, path :: paths =>
      match parseStep env settings maxPathLength shouldTrackStats st path with
      | .error f => .error f
      | .ok st => parseFiles env settings maxPathLength shouldTrackStats st paths

/-- `paths.iter().map(|p| p.chars().count()).max().unwrap_or(0)`. -/
def maxPathLength (paths : List String) : Nat :=
  (paths.map String.length).foldr max 0

/-- `if has_error { return Err(anyhow!("")) }`: an error without a message, which `main`
reports only through the exit status. -/
def parseVerdict (st : ParseLoop σ Language) : Except Error Unit :=
  if st.hasError then .error (Error.msg "") else .ok ()

def parsePaths (env : ParseEnv σ Language) (settings : ParseSettings) (shouldTrackStats : Bool)
    (world : σ) (paths : List String) : Except Fault (ParseLoop σ Language) :=
  parseFiles env settings (maxPathLength paths) shouldTrackStats (ParseLoop.initial world) paths

structure ParseArgs where
  pathsFile : Option OsArg
  paths : Option (List OsArg)
  scope : Option OsArg
  debug : Bool
  debugGraph : Bool
  outputDot : Bool
  outputXml : Bool
  quiet : Bool
  encoding : Option (List OsArg)
  time : Bool
  edits : Option (List OsArg)
  timeout : Option OsArg
  stat : Bool

def ParseArgs.osArgs (args : ParseArgs) : List OsArg :=
  args.encoding.getD [] ++ args.edits.getD [] ++ args.timeout.toList ++ args.pathsFile.toList ++
    args.paths.getD [] ++ args.scope.toList

/-- `--dot`, then `--xml`, then `--quiet` select the output; otherwise it is normal. -/
def parseOutput (args : ParseArgs) : ParseOutput :=
  if args.outputDot then .dot
  else if args.outputXml then .xml
  else if args.quiet then .quiet
  else .normal

/-- `matches.values_of("encoding").map_or(Ok(None), |mut e| match e.next() { .. })`, which
decodes the first value only. -/
def encodingArg : Option (List OsArg) → Except Fault (Option Encoding)
  | none => .ok none
  | some values => match values.head? with
    | none => .ok none
    | some value => do
        match ← value.toStr with
        | "utf16" => pure (some .utf16)
        | "utf8" => pure (some .utf8)
        | _ => .error (.error (Error.msg "Invalid encoding. Expected one of: utf8, utf16"))

/-- `.map_or(0, |t| t.parse::<u64>().unwrap())` on the value of `--timeout`. -/
def timeoutArg : Option String → Except Fault Nat
  | none => .ok 0
  | some t => unwrapResult ((fromStrRadix 64 t.data).mapError IntErrorKind.debug)

/-- The flags of the branch, read in the order of the source. -/
def parseFlags (args : ParseArgs) : Except Fault ParseSettings := do
  let output := parseOutput args
  let encoding ← encodingArg args.encoding
  let edits ← valuesOf args.edits
  let timeout ← timeoutArg (← valueOf args.timeout)
  pure
    { scope := args.scope
      edits := edits.getD []
      output := output
      time := args.time
      timeout := timeout
      debug := args.debug
      debugGraph := args.debugGraph
      encoding := encoding }

def parseRun (fs : FileSystem) (env : ParseEnv σ Language) (args : ParseArgs) (world : σ) :
    Except Fault (ParseLoop σ Language) := do
  let settings ← parseFlags args
  let paths ← collectArgPaths fs args.pathsFile args.paths
  let world ← liftError (env.findAllLanguages world)
  parsePaths env settings args.stat world paths

def Stats.stream (_ : Stats) : Option Stream :=
  some .stdout

/-- The `parse` branch of `run`: the statistics it prints, and its result. -/
def runParse (fs : FileSystem) (env : ParseEnv σ Language) (args : ParseArgs) (world : σ) :
    List Stats × Except Fault Unit :=
  match parseRun fs env args world with
  | .error f => ([], .error f)
  | .ok st => (if args.stat then [st.stats] else [], liftError (parseVerdict st))

/-! ### The flags -/

theorem parseRun_eq_ok {fs : FileSystem} {env : ParseEnv σ Language} {args : ParseArgs}
    {world : σ} {st : ParseLoop σ Language} (h : parseRun fs env args world = .ok st) :
    ∃ settings paths world', parseFlags args = .ok settings ∧
      collectArgPaths fs args.pathsFile args.paths = .ok paths ∧
      env.findAllLanguages world = .ok world' ∧ parsePaths env settings args.stat world' paths = .ok st := by
  obtain ⟨settings, read, h⟩ := bind_eq_ok.mp h
  obtain ⟨paths, resolved, h⟩ := bind_eq_ok.mp h
  obtain ⟨world', found, h⟩ := bind_eq_ok.mp h
  exact ⟨settings, paths, world', read, resolved, (liftError_eq_ok_iff _ _).mp found, h⟩

theorem runParse_eq {fs : FileSystem} {env : ParseEnv σ Language} {args : ParseArgs}
    {world world' : σ} {settings : ParseSettings} {paths : List String} {st : ParseLoop σ Language}
    (read : parseFlags args = .ok settings)
    (resolved : collectArgPaths fs args.pathsFile args.paths = .ok paths)
    (found : env.findAllLanguages world = .ok world')
    (ran : parsePaths env settings args.stat world' paths = .ok st) :
    runParse fs env args world = (if args.stat then [st.stats] else [], liftError (parseVerdict st)) := by
  simp only [runParse, parseRun, read, resolved, found, ran, liftError, bind, Except.bind]

theorem parseFlags_scope {args : ParseArgs} {settings : ParseSettings}
    (h : parseFlags args = .ok settings) : settings.scope = args.scope := by
  obtain ⟨encoding, -, h⟩ := bind_eq_ok.mp h
  obtain ⟨edits, -, h⟩ := bind_eq_ok.mp h
  obtain ⟨timeout, -, h⟩ := bind_eq_ok.mp h
  obtain ⟨_, -, h⟩ := bind_eq_ok.mp h
  cases h
  rfl

/-- `--timeout` reads back the decimal text of every number below `2 ^ 64`, and panics on that
of every larger number with the `Debug` text of `PosOverflow`. -/
theorem timeoutArg_toString (t : Nat) :
    timeoutArg (some (toString t)) =
      if t < 2 ^ 64 then .ok t
      else .error (.panic (resultUnwrapPanic ++ ": " ++ IntErrorKind.posOverflow.debug)) := by
  rw [timeoutArg, fromStrRadix_toString]
  split_ifs <;> rfl

/-! ### Where the branch panics -/

private theorem encodingArg_eq_panic {values : Option (List OsArg)} {msg : String}
    (h : encodingArg values = .error (.panic msg)) : msg = invalidUtf8 ∧ .invalid ∈ values.getD [] := by
  rcases values with _ | _ | ⟨value, values⟩
  · cases h
  · cases h
  · obtain decoded | ⟨text, -, h⟩ := bind_eq_error.mp h
    · obtain ⟨rfl, panic⟩ := OsArg.toStr_eq_error decoded
      exact ⟨Fault.panic.inj panic, List.mem_cons_self _ _⟩
    · split at h <;> cases h

private theorem timeoutArg_error {arg : Option String} {f : Fault} (h : timeoutArg arg = .error f) :
    ∃ t kind, arg = some t ∧ fromStrRadix 64 t.data = .error kind ∧
      f = .panic (resultUnwrapPanic ++ ": " ++ kind.debug) := by
  cases arg with
  | none => cases h
  | some t =>
      cases parsed : fromStrRadix 64 t.data with
      | ok _ => simp [timeoutArg, parsed, unwrapResult, Except.mapError] at h
      | error kind =>
          simp only [timeoutArg, parsed, unwrapResult, Except.mapError, Except.error.injEq] at h
          exact ⟨t, kind, rfl, parsed, h.symm⟩

private theorem parseFlags_eq_panic {args : ParseArgs} {msg : String}
    (h : parseFlags args = .error (.panic msg)) :
    (msg = invalidUtf8 ∧ .invalid ∈ args.osArgs) ∨
      ∃ t kind, args.timeout = some (.utf8 t) ∧ fromStrRadix 64 t.data = .error kind ∧
        msg = resultUnwrapPanic ++ ": " ++ kind.debug := by
  obtain encoded | ⟨_, -, h⟩ := bind_eq_error.mp h
  · obtain ⟨rfl, mem⟩ := encodingArg_eq_panic encoded
    exact .inl ⟨rfl, by simp [ParseArgs.osArgs, mem]⟩
  obtain edited | ⟨_, -, h⟩ := bind_eq_error.mp h
  · obtain ⟨⟨values, given, mem⟩, panic⟩ := valuesOf_eq_error edited
    exact .inl ⟨Fault.panic.inj panic, by simp [ParseArgs.osArgs, given, mem]⟩
  obtain decoded | ⟨text, decoded, h⟩ := bind_eq_error.mp h
  · obtain ⟨given, panic⟩ := valueOf_eq_error decoded
    exact .inl ⟨Fault.panic.inj panic, by simp [ParseArgs.osArgs, given]⟩
  obtain timed | ⟨_, -, h⟩ := bind_eq_error.mp h
  · obtain ⟨t, kind, rfl, parsed, panic⟩ := timeoutArg_error timed
    exact .inr ⟨t, kind, Rust.Process.valueOf_eq_some decoded, parsed, Fault.panic.inj panic⟩
  cases h

section Loop

variable {env : ParseEnv σ Language} (settings : ParseSettings) (maxLength : Nat)
  (shouldTrackStats : Bool)

private theorem parseStep_eq_panic {st : ParseLoop σ Language} {path msg : String}
    (h : parseStep env settings maxLength shouldTrackStats st path = .error (.panic msg)) :
    msg = invalidUtf8 ∧ settings.scope = some .invalid := by
  obtain decoded | ⟨scope, -, h⟩ := bind_eq_error.mp h
  · obtain ⟨given, panic⟩ := valueOf_eq_error decoded
    exact ⟨Fault.panic.inj panic, given⟩
  repeat
    obtain ⟨_, -, h⟩ := liftError_bind_eq_panic h
  cases h

private theorem parseFiles_eq_panic {paths : List String} {st : ParseLoop σ Language} {msg : String}
    (h : parseFiles env settings maxLength shouldTrackStats st paths = .error (.panic msg)) :
    msg = invalidUtf8 ∧ settings.scope = some .invalid := by
  induction paths generalizing st with
  | nil => cases h
  | cons path paths ih =>
      unfold parseFiles at h
      cases ran : parseStep env settings maxLength shouldTrackStats st path with
      | error f =>
          rw [ran] at h
          cases h
          exact parseStep_eq_panic settings maxLength shouldTrackStats ran
      | ok st₁ => rw [ran] at h; exact ih h

/-! ### What the loop computes -/

/-- The calls a run of the loop makes from `world` over `paths`, as the collaborators answer
them: each pass decodes `--scope`, selects a language for its path in the world the pass
starts in, sets it, and parses the file with the options the loop builds, each call in the
world the one before left. -/
inductive ParseTrace (env : ParseEnv σ Language) (settings : ParseSettings) (maxLength : Nat) :
    σ → List String → List (ParseFileOptions Language × ParseResult) → σ → Prop
  | done (world : σ) : ParseTrace env settings maxLength world [] [] world
  | step {world world₁ world₂ world₃ world' : σ} {path : String} {paths : List String}
      {scope : Option String} {language : Language} {result : ParseResult}
      {calls : List (ParseFileOptions Language × ParseResult)}
      (decoded : valueOf settings.scope = .ok scope)
      (selected : env.selectLanguage world path scope = .ok (language, world₁))
      (set : env.setLanguage world₁ language = .ok world₂)
      (parsed : env.parseFileAtPath world₂ (fileOptions settings maxLength language path) =
        .ok (result, world₃))
      (rest : ParseTrace env settings maxLength world₃ paths calls world') :
      ParseTrace env settings maxLength world (path :: paths)
        ((fileOptions settings maxLength language path, result) :: calls) world'

variable {settings maxLength}

theorem ParseTrace.paths {world world' : σ} {paths : List String}
    {calls : List (ParseFileOptions Language × ParseResult)}
    (trace : ParseTrace env settings maxLength world paths calls world') :
    calls.map (·.1.path) = paths := by
  induction trace with
  | done => rfl
  | step _ _ _ _ _ ih => simp [fileOptions, ih]

theorem ParseTrace.told {world world' : σ} {paths : List String}
    {calls : List (ParseFileOptions Language × ParseResult)}
    (trace : ParseTrace env settings maxLength world paths calls world') :
    ∀ call ∈ calls, call.1.maxPathLength = maxLength := by
  induction trace with
  | done => simp
  | step _ _ _ _ _ ih => simpa [fileOptions] using ih

variable (settings maxLength)

def ParseEnv.Succeeds (env : ParseEnv σ Language) : Prop :=
  (∀ world path scope, ∃ language world', env.selectLanguage world path scope = .ok (language, world')) ∧
    (∀ world language, ∃ world', env.setLanguage world language = .ok world') ∧
    (∀ world opts, ∃ result world', env.parseFileAtPath world opts = .ok (result, world'))

/-- The summary of a list of results: all of them counted, the successful ones counted, and
bytes and durations summed over the results that carry a duration. -/
def Stats.ofResults (results : List ParseResult) : Stats :=
  { successfulParses := (results.filter (·.successful)).length
    totalParses := results.length
    totalBytes := ((results.filter (·.duration.isSome)).map (·.bytes)).sum
    totalDuration := (results.filterMap (·.duration)).sum }

structure ParseLoop.Coherent (st : ParseLoop σ Language) : Prop where
  hasError : st.hasError = st.calls.any fun call => !call.2.successful
  stats : st.stats = if shouldTrackStats then Stats.ofResults (st.calls.map Prod.snd) else {}

private theorem Stats.ofResults_append_singleton (results : List ParseResult) (result : ParseResult) :
    Stats.ofResults (results ++ [result]) = (Stats.ofResults results).record result := by
  rcases result with ⟨_ | _, bytes, _ | duration⟩ <;>
    simp [Stats.ofResults, Stats.record, List.filter_append, List.filterMap_append]

private theorem ParseLoop.coherent_initial (world : σ) :
    (ParseLoop.initial world : ParseLoop σ Language).Coherent shouldTrackStats :=
  ⟨rfl, by cases shouldTrackStats <;> rfl⟩

private theorem ParseLoop.coherent_record {st : ParseLoop σ Language}
    (coherent : st.Coherent shouldTrackStats) (opts : ParseFileOptions Language)
    (result : ParseResult) (world : σ) :
    (st.record shouldTrackStats opts result world).Coherent shouldTrackStats := by
  constructor
  · simp [ParseLoop.record, coherent.hasError]
  · cases shouldTrackStats <;>
      simp [ParseLoop.record, coherent.stats, Stats.ofResults_append_singleton]

theorem parseStep_ok (ok : env.Succeeds) (decodes : settings.scope ≠ some .invalid)
    (st : ParseLoop σ Language) (path : String) :
    ∃ st', parseStep env settings maxLength shouldTrackStats st path = .ok st' := by
  obtain ⟨scope, decoded⟩ := valueOf_ok_of_ne_invalid decodes
  obtain ⟨language, world₁, selected⟩ := ok.1 st.world path scope
  obtain ⟨world₂, set⟩ := ok.2.1 world₁ language
  obtain ⟨result, world₃, parsed⟩ := ok.2.2 world₂ (fileOptions settings maxLength language path)
  exact ⟨st.record shouldTrackStats (fileOptions settings maxLength language path) result world₃,
    by simp [parseStep, decoded, selected, set, parsed, Except.mapError, liftError, bind,
      Except.bind, pure, Except.pure]⟩

theorem parseFiles_ok (ok : env.Succeeds) (decodes : settings.scope ≠ some .invalid)
    (paths : List String) (st : ParseLoop σ Language) :
    ∃ st', parseFiles env settings maxLength shouldTrackStats st paths = .ok st' := by
  induction paths generalizing st with
  | nil => exact ⟨st, rfl⟩
  | cons path paths ih =>
      obtain ⟨st₁, step⟩ := parseStep_ok settings maxLength shouldTrackStats ok decodes st path
      obtain ⟨st', run⟩ := ih st₁
      exact ⟨st', by simp only [parseFiles, step]; exact run⟩

theorem parseStep_eq_ok {st st' : ParseLoop σ Language} {path : String}
    (h : parseStep env settings maxLength shouldTrackStats st path = .ok st') :
    ∃ scope language world₁ world₂ result world₃, valueOf settings.scope = .ok scope ∧
      env.selectLanguage st.world path scope = .ok (language, world₁) ∧
      env.setLanguage world₁ language = .ok world₂ ∧
      env.parseFileAtPath world₂ (fileOptions settings maxLength language path) = .ok (result, world₃) ∧
      st' = st.record shouldTrackStats (fileOptions settings maxLength language path) result world₃ := by
  obtain ⟨scope, decoded, h⟩ := bind_eq_ok.mp h
  obtain ⟨⟨language, world₁⟩, selected, h⟩ := bind_eq_ok.mp h
  obtain ⟨world₂, set, h⟩ := bind_eq_ok.mp h
  obtain ⟨⟨result, world₃⟩, parsed, h⟩ := bind_eq_ok.mp h
  refine ⟨scope, language, world₁, world₂, result, world₃, decoded,
    (liftError_eq_ok_iff _ _).mp selected, ?_, (liftError_eq_ok_iff _ _).mp parsed,
    (Except.ok.inj h).symm⟩
  have accepted := (liftError_eq_ok_iff _ _).mp set
  cases setting : env.setLanguage world₁ language <;> simp_all [Except.mapError]

theorem parseFiles_eq_ok {paths : List String} {st st' : ParseLoop σ Language}
    (coherent : st.Coherent shouldTrackStats)
    (h : parseFiles env settings maxLength shouldTrackStats st paths = .ok st') :
    ∃ calls, st'.calls = st.calls ++ calls ∧
      ParseTrace env settings maxLength st.world paths calls st'.world ∧
      st'.Coherent shouldTrackStats := by
  induction paths generalizing st with
  | nil => cases h; exact ⟨[], by simp, .done _, coherent⟩
  | cons path paths ih =>
      unfold parseFiles at h
      cases ran : parseStep env settings maxLength shouldTrackStats st path with
      | error f => simp [ran] at h
      | ok st₁ =>
          simp only [ran] at h
          obtain ⟨scope, language, world₁, world₂, result, world₃, decoded, selected, set, parsed, rfl⟩ :=
            parseStep_eq_ok settings maxLength shouldTrackStats ran
          obtain ⟨calls, grown, trace, coherent'⟩ :=
            ih (ParseLoop.coherent_record shouldTrackStats coherent _ result world₃) h
          exact ⟨_ :: calls, by simp [grown, ParseLoop.record],
            .step decoded selected set parsed trace, coherent'⟩

theorem parsePaths_eq_ok {world : σ} {paths : List String} {st : ParseLoop σ Language}
    (h : parsePaths env settings shouldTrackStats world paths = .ok st) :
    ParseTrace env settings (maxPathLength paths) world paths st.calls st.world ∧
      st.Coherent shouldTrackStats := by
  obtain ⟨calls, grown, trace, coherent⟩ :=
    parseFiles_eq_ok settings _ shouldTrackStats (ParseLoop.coherent_initial shouldTrackStats world) h
  have only : st.calls = calls := by simpa [ParseLoop.initial] using grown
  exact ⟨only ▸ trace, coherent⟩

/-! ### The width of the paths -/

private theorem length_le_maxPathLength {paths : List String} {path : String}
    (mem : path ∈ paths) :
    path.length ≤ maxPathLength paths := by
  induction paths with
  | nil => cases mem
  | cons first paths ih =>
      simp only [maxPathLength, List.map_cons, List.foldr_cons] at ih ⊢
      rcases List.mem_cons.mp mem with rfl | mem
      · exact le_max_left _ _
      · exact le_max_of_le_right (ih mem)

private theorem exists_length_eq_maxPathLength {paths : List String} (nonempty : paths ≠ []) :
    ∃ path ∈ paths, path.length = maxPathLength paths := by
  induction paths with
  | nil => exact absurd rfl nonempty
  | cons first paths ih =>
      simp only [maxPathLength, List.map_cons, List.foldr_cons] at ih ⊢
      rcases max_choice first.length ((paths.map String.length).foldr max 0) with longest | longest
      · exact ⟨first, List.mem_cons_self _ _, longest.symm⟩
      · cases paths with
        | nil => exact ⟨first, List.mem_cons_self _ _, by simp⟩
        | cons second paths =>
            obtain ⟨path, mem, attained⟩ := ih (List.cons_ne_nil _ _)
            exact ⟨path, List.mem_cons_of_mem _ mem, attained.trans longest.symm⟩

end Loop

private theorem parseVerdict_error_iff {shouldTrackStats : Bool} {st : ParseLoop σ Language}
    (coherent : st.Coherent shouldTrackStats) :
    (∃ f, liftError (parseVerdict st) = .error f) ↔ ∃ call ∈ st.calls, call.2.successful = false := by
  unfold parseVerdict
  rw [coherent.hasError]
  split_ifs with failed <;> simpa [liftError] using failed

/-- Over every resolved path list, once the flags are read (with a UTF-8 `--scope`) and the
languages found, when select_language, set_language and parse_file_at_path always return `Ok`,
the branch parses each path once, in order, with the calls the collaborators answer; it
prints the statistics under `--stat`; it fails exactly when some parse was unsuccessful; and
the statistics summarise exactly the results returned. -/
theorem runParse_spec {fs : FileSystem} {env : ParseEnv σ Language} {args : ParseArgs}
    {world world' : σ} {settings : ParseSettings} {paths : List String}
    (ok : env.Succeeds) (read : parseFlags args = .ok settings) (decodes : args.scope ≠ some .invalid)
    (resolved : collectArgPaths fs args.pathsFile args.paths = .ok paths)
    (found : env.findAllLanguages world = .ok world') :
    ∃ st, parsePaths env settings args.stat world' paths = .ok st ∧
      ParseTrace env settings (maxPathLength paths) world' paths st.calls st.world ∧
      st.calls.map (·.1.path) = paths ∧
      runParse fs env args world = (if args.stat then [st.stats] else [], liftError (parseVerdict st)) ∧
      ((∃ f, (runParse fs env args world).2 = .error f) ↔ ∃ call ∈ st.calls, call.2.successful = false) ∧
      (args.stat = true → st.stats = Stats.ofResults (st.calls.map Prod.snd)) := by
  obtain ⟨st, ran⟩ := parseFiles_ok settings (maxPathLength paths) args.stat ok
    (parseFlags_scope read ▸ decodes) paths (ParseLoop.initial world')
  obtain ⟨trace, coherent⟩ := parsePaths_eq_ok settings args.stat ran
  have branch := runParse_eq read resolved found ran
  refine ⟨st, ran, trace, trace.paths, branch, ?_, fun tracked => by simpa [tracked] using coherent.stats⟩
  rw [branch]
  exact parseVerdict_error_iff coherent

/-- Three files, of which `slow.js` times out: it is unsuccessful and carries no duration. -/
def threeFiles : ParseEnv Unit Unit where
  findAllLanguages world := .ok world
  selectLanguage world _ _ := .ok ((), world)
  setLanguage world _ := .ok world
  parseFileAtPath world opts :=
    .ok ({ successful := opts.path != "slow.js"
           bytes := 10
           duration := if opts.path == "slow.js" then none else some 5 }, world)

theorem threeFiles_succeeds : threeFiles.Succeeds :=
  ⟨fun _ _ _ => ⟨(), (), rfl⟩, fun _ _ => ⟨(), rfl⟩, fun _ _ => ⟨_, (), rfl⟩⟩

def timedThreeFiles : ParseArgs :=
  { pathsFile := none
    paths := some [.utf8 "a.txt", .utf8 "b.txt", .utf8 "slow.js"]
    scope := none
    debug := false
    debugGraph := false
    outputDot := false
    outputXml := false
    quiet := false
    encoding := none
    time := true
    edits := none
    timeout := none
    stat := true }

def timedSettings : ParseSettings :=
  { scope := none
    edits := []
    output := .normal
    time := true
    timeout := 0
    debug := false
    debugGraph := false
    encoding := none }

theorem runParse_spec_threeFiles :
    threeFiles.Succeeds ∧ parseFlags timedThreeFiles = .ok timedSettings ∧
      timedThreeFiles.scope ≠ some .invalid ∧
      collectArgPaths Paths.CollectPaths.textFiles timedThreeFiles.pathsFile timedThreeFiles.paths =
        .ok ["a.txt", "b.txt", "slow.js"] ∧
      threeFiles.findAllLanguages () = .ok () ∧
      ∃ st, parsePaths threeFiles timedSettings timedThreeFiles.stat () ["a.txt", "b.txt", "slow.js"] =
          .ok st ∧
        ParseTrace threeFiles timedSettings (maxPathLength ["a.txt", "b.txt", "slow.js"]) ()
          ["a.txt", "b.txt", "slow.js"] st.calls st.world ∧
        st.calls.map (·.1.path) = ["a.txt", "b.txt", "slow.js"] ∧
        runParse Paths.CollectPaths.textFiles threeFiles timedThreeFiles () =
          (if timedThreeFiles.stat then [st.stats] else [], liftError (parseVerdict st)) ∧
        ((∃ f, (runParse Paths.CollectPaths.textFiles threeFiles timedThreeFiles ()).2 = .error f) ↔
          ∃ call ∈ st.calls, call.2.successful = false) ∧
        (timedThreeFiles.stat = true → st.stats = Stats.ofResults (st.calls.map Prod.snd)) :=
  ⟨threeFiles_succeeds, rfl, by decide, rfl, rfl,
    runParse_spec threeFiles_succeeds rfl (by decide) rfl rfl⟩

structure ParseEnv.Loud (env : ParseEnv σ Language) : Prop where
  findAllLanguages : ∀ world, Rust.Anyhow.Loud (env.findAllLanguages world)
  selectLanguage : ∀ world path scope, Rust.Anyhow.Loud (env.selectLanguage world path scope)
  parseFileAtPath : ∀ world opts, Rust.Anyhow.Loud (env.parseFileAtPath world opts)

private theorem parseFiles_loud {env : ParseEnv σ Language} (loud : env.Loud)
    (settings : ParseSettings) (maxLength : Nat) (shouldTrackStats : Bool) (paths : List String)
    (st : ParseLoop σ Language) :
    LoudFault (parseFiles env settings maxLength shouldTrackStats st paths) := by
  induction paths generalizing st with
  | nil => exact loudFault_ok _
  | cons path paths ih =>
      have step : LoudFault (parseStep env settings maxLength shouldTrackStats st path) := by
        refine (loudFault_valueOf _).bind fun scope => ?_
        refine (loud.selectLanguage _ _ _).liftError.bind fun ⟨language, world⟩ => ?_
        refine (Loud.mapError_context _ (by decide)).liftError.bind fun world => ?_
        exact (loud.parseFileAtPath _ _).liftError.bind fun _ => loudFault_ok _
      unfold parseFiles
      cases ran : parseStep env settings maxLength shouldTrackStats st path with
      | error f => simpa [ran] using step
      | ok st' => exact ih st'

private theorem parseFlags_loud (args : ParseArgs) : LoudFault (parseFlags args) := by
  have encoded : LoudFault (encodingArg args.encoding) := by
    unfold encodingArg
    split
    · exact loudFault_ok _
    · split
      · exact loudFault_ok _
      · refine (loudFault_toStr _).bind fun text => ?_
        split <;> first | exact loudFault_ok _ | simp [LoudFault]
  have timed : ∀ t, LoudFault (timeoutArg t) := fun t e failed => by
    obtain ⟨_, _, _, _, panic⟩ := timeoutArg_error failed
    cases panic
  dsimp only [parseFlags]
  exact encoded.bind fun _ => (loudFault_valuesOf _).bind fun _ =>
    (loudFault_valueOf _).bind fun t => (timed t).bind fun _ => loudFault_ok _

private theorem parseRun_loud {fs : FileSystem} {env : ParseEnv σ Language} (fsLoud : fs.Loud)
    (loud : env.Loud) (args : ParseArgs) (world : σ) : LoudFault (parseRun fs env args world) :=
  (parseFlags_loud args).bind fun _ => (collectArgPaths_loud fsLoud _ _).bind fun _ =>
    (loud.findAllLanguages world).liftError.bind fun _ => parseFiles_loud loud _ _ _ _ _

/-- The `parse` branch read its flags, resolved the paths, found the languages and ran its
loop over every path with the calls the collaborators answered, some parse was unsuccessful,
and under `--stat` the statistics were printed. -/
def ParseFailed (console : Console) (fs : FileSystem) (env : ParseEnv σ Language) (args : ParseArgs)
    (world : σ) : Prop :=
  ∃ settings paths world' st, parseFlags args = .ok settings ∧
    collectArgPaths fs args.pathsFile args.paths = .ok paths ∧
    env.findAllLanguages world = .ok world' ∧
    parsePaths env settings args.stat world' paths = .ok st ∧
    ParseTrace env settings (maxPathLength paths) world' paths st.calls st.world ∧
    (args.stat = true → console.stdout = none) ∧
    ∃ call ∈ st.calls, call.2.successful = false

theorem emit_runParse_error {console : Console} {fs : FileSystem} {env : ParseEnv σ Language}
    {args : ParseArgs} {world : σ} {e : Error} (fsLoud : fs.Loud) (loud : env.Loud)
    (h : console.emit Stats.stream (runParse fs env args world) = .error (.error e)) :
    e.message ≠ "" ∨ (e = Error.msg "" ∧ ParseFailed console fs env args world) := by
  have writable := Console.writable_of_emit_eq_error h
  obtain failed | ⟨_, _, _, _, ⟨⟩⟩ := Console.emit_eq_error h
  unfold runParse at failed writable
  cases ran : parseRun fs env args world with
  | error f =>
      rw [ran] at failed
      cases failed
      exact .inl (parseRun_loud fsLoud loud args world e ran)
  | ok st =>
      rw [ran] at failed writable
      obtain ⟨settings, paths, world', read, resolved, found, looped⟩ := parseRun_eq_ok ran
      obtain ⟨trace, coherent⟩ := parsePaths_eq_ok settings args.stat looped
      have verdict := (liftError_eq_error_iff _ _).mp failed
      unfold parseVerdict at verdict
      split_ifs at verdict with hasError
      cases verdict
      refine .inr ⟨rfl, settings, paths, world', st, read, resolved, found, looped, trace,
        fun stat => by simpa [stat, Stats.stream] using writable, ?_⟩
      simpa [coherent.hasError] using hasError

theorem emit_runParse_eq {console : Console} {fs : FileSystem} {env : ParseEnv σ Language}
    {args : ParseArgs} {world world' : σ} {settings : ParseSettings} {paths : List String}
    {st : ParseLoop σ Language} (read : parseFlags args = .ok settings)
    (resolved : collectArgPaths fs args.pathsFile args.paths = .ok paths)
    (found : env.findAllLanguages world = .ok world')
    (ran : parsePaths env settings args.stat world' paths = .ok st)
    (printed : args.stat = true → console.stdout = none) :
    console.emit Stats.stream (runParse fs env args world) = liftError (parseVerdict st) := by
  rw [runParse_eq read resolved found ran, Rust.Process.Console.emit_of_writable]
  intro s mem
  cases stat : args.stat <;> simp_all [Stats.stream, Rust.Process.Console.refusal]

theorem emit_runParse_of_parseFailed {console : Console} {fs : FileSystem}
    {env : ParseEnv σ Language} {args : ParseArgs} {world : σ}
    (failed : ParseFailed console fs env args world) :
    console.emit Stats.stream (runParse fs env args world) = .error (.error (Error.msg "")) := by
  obtain ⟨settings, paths, world', st, read, resolved, found, ran, -, printed, call, made,
    unsuccessful⟩ := failed
  obtain ⟨-, coherent⟩ := parsePaths_eq_ok settings args.stat ran
  have hasError : st.hasError = true := by
    rw [coherent.hasError, List.any_eq_true]
    exact ⟨call, made, by simp [unsuccessful]⟩
  rw [emit_runParse_eq read resolved found ran printed]
  simp [parseVerdict, hasError, liftError]

theorem runParse_prints {fs : FileSystem} {env : ParseEnv σ Language} {args : ParseArgs}
    {world : σ} : ∀ stats ∈ (runParse fs env args world).1, args.stat = true := by
  unfold runParse
  split
  · simp
  · split_ifs with stat <;> simp [stat]

theorem runParse_panic {fs : FileSystem} {env : ParseEnv σ Language} {args : ParseArgs}
    {world : σ} {msg : String} (h : (runParse fs env args world).2 = .error (.panic msg)) :
    (msg = invalidUtf8 ∧ .invalid ∈ args.osArgs) ∨
      ∃ t kind, args.timeout = some (.utf8 t) ∧ fromStrRadix 64 t.data = .error kind ∧
        msg = resultUnwrapPanic ++ ": " ++ kind.debug := by
  unfold runParse at h
  split at h
  · rename_i f ran
    cases h
    obtain read | ⟨settings, read, h⟩ := bind_eq_error.mp ran
    · exact parseFlags_eq_panic read
    obtain collected | ⟨paths, -, h⟩ := bind_eq_error.mp h
    · obtain ⟨rfl, mem⟩ := collectArgPaths_eq_panic collected
      refine .inl ⟨rfl, ?_⟩
      simp only [ParseArgs.osArgs, List.mem_append] at mem ⊢
      tauto
    obtain ⟨world', -, h⟩ := liftError_bind_eq_panic h
    obtain ⟨rfl, given⟩ := parseFiles_eq_panic settings _ _ h
    exact .inl ⟨rfl, by simp [ParseArgs.osArgs, ← parseFlags_scope read, given]⟩
  · exact absurd h (liftError_ne_panic _ _)

end TreeSitterCli.Run.Parse
