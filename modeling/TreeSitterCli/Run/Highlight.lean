import TreeSitterCli.Paths.CollectPaths

/-!
The `highlight` subcommand of `run`. A language configuration is bound once from `--scope`
when one is given; otherwise each path looks one up by its file name. A path without a
language configuration, or whose configuration has no highlighting, is reported on standard
error and skipped, and the loop goes on with the next path. Every other error stops the
branch. The loader, the file system and the highlighter are parameters.

A run is the list of what the branch writes, in order, with its result: the lines written
before an error stay written.
-/

set_option autoImplicit false
set_option relaxedAutoImplicit false

namespace TreeSitterCli.Run.Highlight

open TreeSitterCli.Rust.Str (isWhitespace lines trim startsWith split trimMatches joinLines
  lines_flatMap_newline lines_joinLines_eq trim_eq_nil_iff trim_cons trim_of_ends
  trimMatches_of_ends trimMatches_enclosed split_append_cons split_of_not_mem)
open TreeSitterCli.Rust.Anyhow (Error Fault debugStr liftError liftError_ne_panic bind_eq_error Loud
  LoudFault Loud.liftError loudFault_ok loud_ok)
open TreeSitterCli.Rust.Process (OsArg invalidUtf8 valueOf valuesOf Stream valueOf_eq_error
  valuesOf_eq_error valueOf_eq_some loudFault_valueOf loudFault_valuesOf)
open TreeSitterCli.Paths.CollectPaths (FileSystem collectArgPaths FileSystem.Loud
  collectArgPaths_loud collectArgPaths_eq_panic)

inductive HighlightEvent
  /-- `println!("{}", highlight::HTML_HEADER)`. -/
  | htmlHeader
  /-- `println!("{}", highlight::HTML_FOOTER)`. -/
  | htmlFooter
  /-- A line written with `eprintln!`. -/
  | warn (line : String)
  /-- What `highlight::html` or `highlight::ansi` writes for one file. -/
  | highlighted (output : String)
  deriving DecidableEq, Repr

/-- The stream of each `println!` and `eprintln!`; the highlighter writes its output itself and
returns the errors of its writes. -/
def HighlightEvent.stream : HighlightEvent → Option Stream
  | .htmlHeader | .htmlFooter => some .stdout
  | .warn _ => some .stderr
  | .highlighted _ => none

structure HighlightArgs where
  pathsFile : Option OsArg
  paths : Option (List OsArg)
  scope : Option OsArg
  html : Bool
  quiet : Bool
  time : Bool
  check : Bool
  capturesPath : Option OsArg
  queryPaths : Option (List OsArg)
  applyAllCaptures : Bool

def HighlightArgs.osArgs (args : HighlightArgs) : List OsArg :=
  args.pathsFile.toList ++ args.paths.getD [] ++ args.scope.toList ++ args.queryPaths.getD [] ++
    args.capturesPath.toList

/-- `let html_mode = quiet || matches.is_present("html")`. -/
def HighlightArgs.htmlMode (args : HighlightArgs) : Bool :=
  args.quiet || args.html

/-- The loader, the file system and the highlighter, with the languages `L`, the language
configurations `C` and the highlight configurations `H` they hand out. -/
structure HighlightEnv (L C H : Type) where
  /-- `config.get()`, `loader.configure_highlights(..)`, `config.get()` and
  `loader.find_all_languages(&loader_config)`. -/
  findAllLanguages : Except Error Unit
  languageConfigurationForScope : String → Except Error (Option (L × C))
  languageConfigurationForFileName : String → Except Error (Option (L × C))
  /-- `language_config.highlight_config(language, apply_all_captures, query_paths)`. -/
  highlightConfig : C → L → Bool → Option (List String) → Except Error (Option H)
  nonconformantCaptureNames : H → Finset String → List String
  /-- `fs::read_to_string(path)`. -/
  readToString : String → Except Error String
  /-- `fs::read(path)`. -/
  read : String → Except Error (List UInt8)
  /-- `highlight::html(&loader, &theme, &source, config, quiet, time, ..)`: what it writes
  and its result. -/
  html : List UInt8 → H → Bool → Bool → String × Except Error Unit
  /-- `highlight::ansi(&loader, &theme, &source, config, time, ..)`. -/
  ansi : List UInt8 → H → Bool → String × Except Error Unit

/-- The capture name a line of a captures file declares: blank lines and `;` comments
declare none, otherwise the text before any `;`, trimmed and without surrounding quotes. -/
def captureName (line : List Char) : Option String :=
  if (trim line).isEmpty || startsWith (trim line) ';' then none
  else (split line ';').head?.map fun field => ⟨trimMatches (trim field) '"'⟩

/-- The capture names of a captures file, collected into a `HashSet`. -/
def captureNames (file : String) : Finset String :=
  ((lines file.data).filterMap captureName).toFinset

def captureReport (names : List String) : List HighlightEvent :=
  if names.isEmpty then [.warn "All highlight captures conform to standards."]
  else .warn ("Non-standard highlight " ++ (if names.length > 1 then "captures" else "capture") ++
      " detected:") :: names.map fun name => .warn ("* " ++ name)

variable {L C H : Type}

/-- The `if should_check` block for a highlight configuration. -/
def checkCaptures (env : HighlightEnv L C H) (args : HighlightArgs) (config : H) :
    List HighlightEvent × Except Fault Unit :=
  if args.check then
    match valueOf args.capturesPath with
    | .error f => ([], .error f)
    | .ok (some capturesPath) => match env.readToString capturesPath with
      | .ok file => (captureReport (env.nonconformantCaptureNames config (captureNames file)), .ok ())
      | .error e => ([], .error (.error e))
    | .ok none => (captureReport (env.nonconformantCaptureNames config ∅), .ok ())
  else ([], .ok ())

/-- `highlight::html(..)` in HTML mode, `highlight::ansi(..)` otherwise. -/
def highlighter (env : HighlightEnv L C H) (args : HighlightArgs) (config : H)
    (source : List UInt8) : String × Except Error Unit :=
  if args.htmlMode then env.html source config args.quiet args.time
  else env.ansi source config args.time

def highlightWith (env : HighlightEnv L C H) (args : HighlightArgs) (config : H) (path : String) :
    List HighlightEvent × Except Fault Unit :=
  match checkCaptures env args config with
  | (report, .error f) => (report, .error f)
  | (report, .ok ()) => match env.read path with
    | .error e => (report, .error (.error e))
    | .ok source =>
        (report ++ [.highlighted (highlighter env args config source).1],
          liftError (highlighter env args config source).2)

/-- One pass of `for path in paths`; `language` is the configuration bound by `--scope`. -/
def highlightFile (env : HighlightEnv L C H) (args : HighlightArgs) (language : Option (L × C))
    (queryPaths : Option (List String)) (path : String) : List HighlightEvent × Except Fault Unit :=
  let bound : Except Error (Option (L × C)) := match language with
    | some v => .ok (some v)
    | none => env.languageConfigurationForFileName path
  match bound with
  | .error e => ([], .error (.error e))
  | .ok none => ([.warn ("No language found for path " ++ debugStr path)], .ok ())
  | .ok (some (lang, languageConfig)) =>
      match env.highlightConfig languageConfig lang args.applyAllCaptures queryPaths with
      | .error e => ([], .error (.error e))
      | .ok none => ([.warn ("No syntax highlighting config found for path " ++ debugStr path)], .ok ())
      | .ok (some config) => highlightWith env args config path

/-- The loop `for path in paths`, which stops at the first error. -/
def highlightFiles (env : HighlightEnv L C H) (args : HighlightArgs) (language : Option (L × C))
    (queryPaths : Option (List String)) : List String → List HighlightEvent × Except Fault Unit
  | [] => ([], .ok ())
  | path :: paths =>
      match highlightFile env args language queryPaths path with
      | (events, .error f) => (events, .error f)
      | (events, .ok ()) =>
          let (more, result) := highlightFiles env args language queryPaths paths
          (events ++ more, result)

/-- The branch once the `--scope` configuration is bound: the query paths, the loop, and the
footer. -/
def highlightBound (env : HighlightEnv L C H) (args : HighlightArgs) (paths : List String)
    (language : Option (L × C)) : List HighlightEvent × Except Fault Unit :=
  match valuesOf args.queryPaths with
  | .error f => ([], .error f)
  | .ok queryPaths => match highlightFiles env args language queryPaths paths with
    | (events, .error f) => (events, .error f)
    | (events, .ok ()) =>
        (events ++ if args.htmlMode && !args.quiet then [.htmlFooter] else [], .ok ())

/-- The branch from the resolved paths on: the header, the `--scope` binding, and the rest. -/
def highlightPaths (env : HighlightEnv L C H) (args : HighlightArgs) (paths : List String) :
    List HighlightEvent × Except Fault Unit :=
  let header := if args.htmlMode && !args.quiet then [HighlightEvent.htmlHeader] else []
  let bound : List HighlightEvent × Except Fault Unit := match valueOf args.scope with
    | .error f => ([], .error f)
    | .ok none => highlightBound env args paths none
    | .ok (some scope) => match env.languageConfigurationForScope scope with
      | .error e => ([], .error (.error e))
      | .ok none => ([], .error (.error (Error.msg ("Unknown scope '" ++ scope ++ "'"))))
      | .ok (some v) => highlightBound env args paths (some v)
  (header ++ bound.1, bound.2)

def runHighlight (fs : FileSystem) (env : HighlightEnv L C H) (args : HighlightArgs) :
    List HighlightEvent × Except Fault Unit :=
  match env.findAllLanguages with
  | .error e => ([], .error (.error e))
  | .ok () => match collectArgPaths fs args.pathsFile args.paths with
    | .error f => ([], .error f)
    | .ok paths => highlightPaths env args paths

/-! ### What the loop writes for each path -/

def found {α : Type} : Except Error (Option α) → Option α
  | .ok r => r
  | .error _ => none

/-- A path's language configuration: the `--scope` one when a scope is given, otherwise the
one found by the path's file name. -/
def languageOf (env : HighlightEnv L C H) (scope : Option String) (path : String) : Option (L × C) :=
  match scope with
  | some scope => found (env.languageConfigurationForScope scope)
  | none => found (env.languageConfigurationForFileName path)

def bindingFor (env : HighlightEnv L C H) (language : Option (L × C)) (path : String) :
    Option (L × C) :=
  match language with
  | some v => some v
  | none => found (env.languageConfigurationForFileName path)

structure HighlightEnv.Succeeds (env : HighlightEnv L C H) : Prop where
  forScope : ∀ scope, ∃ r, env.languageConfigurationForScope scope = .ok r
  forFileName : ∀ path, ∃ r, env.languageConfigurationForFileName path = .ok r
  highlightConfig : ∀ languageConfig lang all queryPaths,
    ∃ r, env.highlightConfig languageConfig lang all queryPaths = .ok r
  read : ∀ path, ∃ source, env.read path = .ok source
  html : ∀ source config quiet time, (env.html source config quiet time).2 = .ok ()
  ansi : ∀ source config time, (env.ansi source config time).2 = .ok ()

def CapturesReadable (env : HighlightEnv L C H) (args : HighlightArgs) : Prop :=
  args.check = true → ∀ arg, args.capturesPath = some arg →
    ∃ path file, arg = .utf8 path ∧ env.readToString path = .ok file

/-- What a pass writes for a path bound to `language` when every collaborator answers: a
path without a language or a highlight configuration gets one warning; any other path gets
the `--check` report, then what the highlighter writes for the file's contents. -/
def PassOutput (env : HighlightEnv L C H) (args : HighlightArgs) (queryPaths : Option (List String))
    (path : String) : Option (L × C) → List HighlightEvent → Prop
  | none, out => out = [.warn ("No language found for path " ++ debugStr path)]
  | some (lang, languageConfig), out =>
      match found (env.highlightConfig languageConfig lang args.applyAllCaptures queryPaths) with
      | none => out = [.warn ("No syntax highlighting config found for path " ++ debugStr path)]
      | some config => ∃ source, env.read path = .ok source ∧
          out = (checkCaptures env args config).1 ++ [.highlighted (highlighter env args config source).1]

variable {env : HighlightEnv L C H} {args : HighlightArgs}

private theorem checkCaptures_ok (captures : CapturesReadable env args) (config : H) :
    (checkCaptures env args config).2 = .ok () := by
  unfold checkCaptures
  split_ifs with check
  · cases given : args.capturesPath with
    | none => rfl
    | some arg =>
        obtain ⟨path, file, rfl, read⟩ := captures check arg given
        simp [read]
  · rfl

private theorem highlightWith_ok (ok : env.Succeeds) (captures : CapturesReadable env args)
    (config : H) (path : String) :
    ∃ source, env.read path = .ok source ∧ highlightWith env args config path =
      ((checkCaptures env args config).1 ++ [.highlighted (highlighter env args config source).1], .ok ()) := by
  obtain ⟨source, read⟩ := ok.read path
  have highlighted : (highlighter env args config source).2 = .ok () := by
    unfold highlighter
    split_ifs
    · exact ok.html _ _ _ _
    · exact ok.ansi _ _ _
  refine ⟨source, read, ?_⟩
  unfold highlightWith
  rw [show checkCaptures env args config = ((checkCaptures env args config).1, .ok ()) from
    Prod.ext rfl (checkCaptures_ok captures config)]
  simp [read, highlighted]

theorem highlightFile_output (ok : env.Succeeds) (captures : CapturesReadable env args)
    (language : Option (L × C)) (queryPaths : Option (List String)) (path : String) :
    ∃ out, highlightFile env args language queryPaths path = (out, .ok ()) ∧
      PassOutput env args queryPaths path (bindingFor env language path) out := by
  have bound : ∃ r, (match language with
      | some v => (.ok (some v) : Except Error (Option (L × C)))
      | none => env.languageConfigurationForFileName path) = .ok r ∧
        bindingFor env language path = r := by
    cases language with
    | some v => exact ⟨some v, rfl, rfl⟩
    | none =>
        obtain ⟨r, looked⟩ := ok.forFileName path
        exact ⟨r, looked, by simp [bindingFor, looked, found]⟩
  obtain ⟨r, looked, binding⟩ := bound
  simp only [highlightFile, looked, binding]
  rcases r with _ | ⟨lang, languageConfig⟩
  · exact ⟨_, rfl, rfl⟩
  · obtain ⟨hc, configured⟩ :=
      ok.highlightConfig languageConfig lang args.applyAllCaptures queryPaths
    simp only [configured, PassOutput, found]
    rcases hc with _ | config
    · exact ⟨_, rfl, rfl⟩
    · obtain ⟨source, read, highlighted⟩ := highlightWith_ok ok captures config path
      exact ⟨_, highlighted, source, read, rfl⟩

/-- The loop runs over every path and writes, path after path, what `PassOutput` says. -/
theorem highlightFiles_output (ok : env.Succeeds) (captures : CapturesReadable env args)
    (language : Option (L × C)) (queryPaths : Option (List String)) (paths : List String) :
    ∃ outs, List.Forall₂ (fun path out => PassOutput env args queryPaths path
        (bindingFor env language path) out) paths outs ∧
      highlightFiles env args language queryPaths paths = (outs.flatten, .ok ()) := by
  induction paths with
  | nil => exact ⟨[], .nil, rfl⟩
  | cons path paths ih =>
      obtain ⟨out, pass, written⟩ := highlightFile_output ok captures language queryPaths path
      obtain ⟨outs, writtenAll, rest⟩ := ih
      exact ⟨out :: outs, .cons written writtenAll, by simp [highlightFiles, pass, rest]⟩

def HighlightEvent.isFrame : HighlightEvent → Bool
  | .htmlHeader | .htmlFooter => true
  | _ => false

def Unframed (events : List HighlightEvent) : Prop :=
  ∀ event ∈ events, event.isFrame = false

def Framed (opened closed : Bool) (events : List HighlightEvent) : Prop :=
  ∃ body, Unframed body ∧
    events =
      (if opened then [.htmlHeader] else []) ++ body ++ (if closed then [.htmlFooter] else [])

/-- The frame of a run in a mode that writes one when `framing`: a run that succeeds is framed
exactly in that mode; a run that fails has no footer, and a header only in that mode. -/
def HtmlFramed (framing : Bool) (run : List HighlightEvent × Except Fault Unit) : Prop :=
  match run.2 with
  | .ok () => Framed framing framing run.1
  | .error _ => ∃ opened, (opened = true → framing = true) ∧ Framed opened false run.1

private theorem unframed_append {events more : List HighlightEvent} :
    Unframed (events ++ more) ↔ Unframed events ∧ Unframed more :=
  List.forall_mem_append

private theorem captureReport_unframed (names : List String) : Unframed (captureReport names) := by
  unfold captureReport
  split_ifs <;> simp [Unframed, HighlightEvent.isFrame]

private theorem checkCaptures_unframed (config : H) :
    Unframed (checkCaptures env args config).1 := by
  unfold checkCaptures
  split_ifs
  · split
    · simp [Unframed]
    · split
      · exact captureReport_unframed _
      · simp [Unframed]
    · exact captureReport_unframed _
  · simp [Unframed]

private theorem highlightWith_unframed (config : H) (path : String) :
    Unframed (highlightWith env args config path).1 := by
  have report : Unframed (checkCaptures env args config).1 := checkCaptures_unframed config
  unfold highlightWith
  split
  · rename_i checked
    simpa [checked] using report
  · rename_i checked
    rw [checked] at report
    split
    · exact report
    · exact unframed_append.mpr ⟨report, by simp [Unframed, HighlightEvent.isFrame]⟩

private theorem highlightFile_unframed (language : Option (L × C)) (queryPaths : Option (List String))
    (path : String) : Unframed (highlightFile env args language queryPaths path).1 := by
  cases language <;> simp only [highlightFile] <;> repeat' split
  all_goals first
    | exact highlightWith_unframed _ path
    | simp [Unframed, HighlightEvent.isFrame]

private theorem highlightFiles_unframed (language : Option (L × C)) (queryPaths : Option (List String))
    (paths : List String) : Unframed (highlightFiles env args language queryPaths paths).1 := by
  induction paths with
  | nil => simp [highlightFiles, Unframed]
  | cons path paths ih =>
      have pass : Unframed (highlightFile env args language queryPaths path).1 :=
        highlightFile_unframed language queryPaths path
      unfold highlightFiles
      split
      · rename_i ran
        simpa [ran] using pass
      · rename_i ran
        rw [ran] at pass
        exact unframed_append.mpr ⟨pass, ih⟩

private theorem htmlFramed_error (framing : Bool) {events : List HighlightEvent}
    (body : Unframed events) (f : Fault) :
    HtmlFramed framing ((if framing then [.htmlHeader] else []) ++ events, .error f) :=
  ⟨framing, id, events, body, by simp⟩

private theorem htmlFramed_ok (framing : Bool) {events : List HighlightEvent}
    (body : Unframed events) :
    HtmlFramed framing
      ((if framing then [.htmlHeader] else []) ++ events ++ (if framing then [.htmlFooter] else []),
        .ok ()) :=
  ⟨events, body, rfl⟩

private theorem highlightBound_framed (paths : List String) (language : Option (L × C)) :
    HtmlFramed (args.htmlMode && !args.quiet)
      ((if args.htmlMode && !args.quiet then [HighlightEvent.htmlHeader] else []) ++
        (highlightBound env args paths language).1, (highlightBound env args paths language).2) := by
  cases decoded : valuesOf args.queryPaths with
  | error f =>
      simpa [highlightBound, decoded] using
        htmlFramed_error (args.htmlMode && !args.quiet) (show Unframed [] by simp [Unframed]) f
  | ok queryPaths =>
      have body : Unframed (highlightFiles env args language queryPaths paths).1 :=
        highlightFiles_unframed language queryPaths paths
      rcases ran : highlightFiles env args language queryPaths paths with ⟨events, f | ⟨⟩⟩
      · rw [ran] at body
        simpa [highlightBound, decoded, ran] using htmlFramed_error (args.htmlMode && !args.quiet) body f
      · rw [ran] at body
        simpa [highlightBound, decoded, ran] using htmlFramed_ok (args.htmlMode && !args.quiet) body

theorem highlightPaths_htmlFramed (paths : List String) :
    HtmlFramed (args.htmlMode && !args.quiet) (highlightPaths env args paths) := by
  have unstarted : ∀ f, HtmlFramed (args.htmlMode && !args.quiet)
      ((if args.htmlMode && !args.quiet then [.htmlHeader] else []) ++ [], .error f) :=
    htmlFramed_error _ (show Unframed [] by simp [Unframed])
  unfold highlightPaths
  rcases valueOf args.scope with f | _ | name
  · exact unstarted f
  · exact highlightBound_framed paths none
  · dsimp only
    rcases env.languageConfigurationForScope name with e | _ | v
    · exact unstarted _
    · exact unstarted _
    · exact highlightBound_framed paths (some v)

/-- Over every run, with any loader, file system and highlighter, the HTML frame is written
only with `--html` and without `--quiet`: a run that succeeds writes `HTML_HEADER` first and
`HTML_FOOTER` last, a run that fails writes no footer, and no frame line appears anywhere
else in the output. -/
theorem runHighlight_htmlFramed (fs : FileSystem) :
    HtmlFramed (args.html && !args.quiet) (runHighlight fs env args) := by
  have mode : (args.htmlMode && !args.quiet) = (args.html && !args.quiet) := by
    unfold HighlightArgs.htmlMode
    cases args.quiet <;> cases args.html <;> rfl
  have unstarted : ∀ f, HtmlFramed (args.html && !args.quiet) ([], .error f) :=
    fun f => ⟨false, by simp, [], by simp [Unframed], rfl⟩
  unfold runHighlight
  split
  · exact unstarted _
  · split
    · exact unstarted _
    · exact mode ▸ highlightPaths_htmlFramed _

private theorem HtmlFramed.frames {framing : Bool} {run : List HighlightEvent × Except Fault Unit}
    (framed : HtmlFramed framing run) : ∀ event ∈ run.1, event.isFrame = true → framing = true := by
  have frames : ∀ {opened closed : Bool} {events : List HighlightEvent},
      Framed opened closed events → ∀ event ∈ events, event.isFrame = true → opened || closed := by
    rintro opened closed _ ⟨body, unframed, rfl⟩ event mem frame
    simp only [List.mem_append] at mem
    rcases mem with (mem | mem) | mem
    · split_ifs at mem <;> simp_all
    · exact absurd (unframed event mem) (by simp [frame])
    · split_ifs at mem <;> simp_all
  intro event mem frame
  unfold HtmlFramed at framed
  split at framed
  · simpa using frames framed event mem frame
  · obtain ⟨opened, opens, framed⟩ := framed
    exact opens (by simpa using frames framed event mem frame)

theorem runHighlight_stdout (fs : FileSystem) :
    ∀ event ∈ (runHighlight fs env args).1, event.stream = some .stdout →
      (args.html && !args.quiet) = true := by
  have mode : (args.htmlMode && !args.quiet) = (args.html && !args.quiet) := by
    unfold HighlightArgs.htmlMode
    cases args.quiet <;> cases args.html <;> rfl
  intro event mem written
  have frame : event.isFrame = true := by cases event <;> simp_all [HighlightEvent.stream, HighlightEvent.isFrame]
  unfold runHighlight at mem
  split at mem
  · cases mem
  · split at mem
    · cases mem
    · exact mode ▸ (highlightPaths_htmlFramed _).frames event mem frame

/-! ### The captures file -/

/-- A line of a captures file as it is written: blank, a `;` comment, or a capture name, bare
or in double quotes, with an optional `;` comment after it. -/
inductive CaptureLine
  | blank (spaces : List Char)
  | comment (text : List Char)
  | capture (name : String) (quoted : Bool) (trailing : Option (List Char))
  deriving DecidableEq, Repr

def captureField (name : String) (quoted : Bool) : List Char :=
  if quoted then '"' :: name.data ++ ['"'] else name.data

def CaptureLine.render : CaptureLine → List Char
  | .blank spaces => spaces
  | .comment text => ';' :: text
  | .capture name quoted trailing => captureField name quoted ++ (trailing.map (';' :: ·)).getD []

def CaptureLine.declared : CaptureLine → Option String
  | .capture name _ _ => some name
  | _ => none

/-- A captures file: its lines, each ended by a newline, except the last when `finalNewline`
is false. -/
def capturesFile (file : List CaptureLine) (finalNewline : Bool) : String :=
  if finalNewline then ⟨(file.map CaptureLine.render).flatMap (· ++ ['\n'])⟩
  else ⟨joinLines (file.map CaptureLine.render)⟩

def CommentText (text : List Char) : Prop :=
  '\n' ∉ text ∧ text.getLast? ≠ some '\r'

/-- A line the file can hold: a blank line is whitespace within the line, maybe none, and a
capture name is not empty, holds no `;` or newline, and neither starts nor ends with
whitespace or a quote. -/
def CaptureLine.WellFormed : CaptureLine → Prop
  | .blank spaces => ∀ c ∈ spaces, isWhitespace c ∧ c ≠ '\n' ∧ c ≠ '\r'
  | .comment text => CommentText text
  | .capture name _ trailing =>
      name.data ≠ [] ∧ ';' ∉ name.data ∧ '\n' ∉ name.data ∧
        (∀ c ∈ name.data.head?, isWhitespace c = false ∧ c ≠ '"') ∧
        (∀ c ∈ name.data.getLast?, isWhitespace c = false ∧ c ≠ '"') ∧
        ∀ text ∈ trailing, CommentText text

private theorem captureField_head? (name : String) (quoted : Bool) :
    (captureField name quoted).head? = if quoted then some '"' else name.data.head? := by
  cases quoted <;> rfl

private theorem captureField_getLast? (name : String) (quoted : Bool) :
    (captureField name quoted).getLast? = if quoted then some '"' else name.data.getLast? := by
  cases quoted
  · rfl
  · exact List.getLast?_concat ('"' :: name.data)

private theorem not_mem_captureField {name : String} {c : Char} (quoted : Bool)
    (absent : c ∉ name.data) (unquote : c ≠ '"') : c ∉ captureField name quoted := by
  cases quoted <;> simp [captureField, absent, unquote]

private theorem commentText_line {text : List Char} (comment : CommentText text) :
    '\n' ∉ ';' :: text ∧ (';' :: text).getLast? ≠ some '\r' := by
  obtain ⟨single, kept⟩ := comment
  refine ⟨by simpa using single, ?_⟩
  cases last : text.getLast? <;> simp_all [List.getLast?_cons]

private theorem render_line {line : CaptureLine} (wellFormed : line.WellFormed) :
    '\n' ∉ line.render ∧ line.render.getLast? ≠ some '\r' := by
  cases line with
  | blank spaces =>
      refine ⟨fun mem => (wellFormed _ mem).2.1 rfl, fun last => ?_⟩
      exact (wellFormed _ (List.mem_of_getLast?_eq_some last)).2.2 rfl
  | comment text => exact commentText_line wellFormed
  | capture name quoted trailing =>
      obtain ⟨-, -, single, -, last, comment⟩ := wellFormed
      have field : '\n' ∉ captureField name quoted := not_mem_captureField quoted single (by decide)
      cases trailing with
      | none =>
          simp only [CaptureLine.render, Option.map_none', Option.getD_none, List.append_nil,
            captureField_getLast?]
          refine ⟨field, ?_⟩
          split_ifs
          · decide
          · exact fun lastCR => absurd (last _ lastCR).1 (by decide)
      | some text =>
          obtain ⟨single', kept⟩ := commentText_line (comment text rfl)
          have ends : (';' :: text).getLast? = some (text.getLast?.getD ';') := List.getLast?_cons
          simp only [CaptureLine.render, Option.map_some', Option.getD_some, List.mem_append,
            List.getLast?_append, ends, Option.or_some]
          exact ⟨fun mem => mem.elim field single', ends ▸ kept⟩

private theorem captureField_cons {name : String} (quoted : Bool) (nonempty : name.data ≠ [])
    (noSemicolon : ';' ∉ name.data)
    (first : ∀ c ∈ name.data.head?, isWhitespace c = false ∧ c ≠ '"') :
    ∃ c rest, captureField name quoted = c :: rest ∧ isWhitespace c = false ∧ c ≠ ';' := by
  cases quoted with
  | true => exact ⟨'"', _, rfl, by decide, by decide⟩
  | false =>
      obtain ⟨c, rest, named⟩ := List.exists_cons_of_ne_nil nonempty
      refine ⟨c, rest, named, (first c (by simp [named])).1, fun same => noSemicolon ?_⟩
      simp [named, same]

private theorem captureName_render {line : CaptureLine} (wellFormed : line.WellFormed) :
    captureName line.render = line.declared := by
  cases line with
  | blank spaces =>
      have blank : trim spaces = [] := (trim_eq_nil_iff _).mpr fun c mem => (wellFormed c mem).1
      simp [captureName, CaptureLine.render, CaptureLine.declared, blank]
  | comment text =>
      obtain ⟨rest, trimmed⟩ := trim_cons text (c := ';') (by decide)
      simp [captureName, CaptureLine.render, CaptureLine.declared, trimmed, startsWith]
  | capture name quoted trailing =>
      obtain ⟨nonempty, noSemicolon, -, first, last, -⟩ := wellFormed
      obtain ⟨c, rest, opened, kept, notSemicolon⟩ :=
        captureField_cons quoted nonempty noSemicolon first
      have fieldNoSemicolon : ';' ∉ captureField name quoted :=
        not_mem_captureField quoted noSemicolon (by decide)
      have fields : (split (CaptureLine.capture name quoted trailing).render ';').head? =
          some (captureField name quoted) := by
        cases trailing with
        | none => simp [CaptureLine.render, split_of_not_mem fieldNoSemicolon]
        | some text => simp [CaptureLine.render, split_append_cons fieldNoSemicolon]
      have trimmed : trim (captureField name quoted) = captureField name quoted := by
        apply trim_of_ends
        · rw [captureField_head?]
          split_ifs
          · simp; decide
          · exact fun c mem => (first c mem).1
        · rw [captureField_getLast?]
          split_ifs
          · simp; decide
          · exact fun c mem => (last c mem).1
      have unquoted : trimMatches (captureField name quoted) '"' = name.data := by
        cases quoted with
        | true =>
            exact trimMatches_enclosed (fun c mem => (first c mem).2) fun c mem => (last c mem).2
        | false =>
            exact trimMatches_of_ends (fun c mem => (first c mem).2) fun c mem => (last c mem).2
      obtain ⟨more, trimmedLine⟩ :
          ∃ more, trim (CaptureLine.capture name quoted trailing).render = c :: more := by
        simp only [CaptureLine.render, opened, List.cons_append]
        exact trim_cons _ kept
      rw [captureName, if_neg (by simp [trimmedLine, startsWith, notSemicolon]), fields]
      simp [trimmed, unquoted, CaptureLine.declared]

def standardCaptures : List CaptureLine :=
  [.comment [' ', 'o', 'k'], .capture "function" false none, .blank [],
    .capture "keyword" true (some [' ', 'o', 'k'])]

structure HighlightEnv.Loud (env : HighlightEnv L C H) : Prop where
  findAllLanguages : Rust.Anyhow.Loud env.findAllLanguages
  forScope : ∀ scope, Rust.Anyhow.Loud (env.languageConfigurationForScope scope)
  forFileName : ∀ path, Rust.Anyhow.Loud (env.languageConfigurationForFileName path)
  highlightConfig : ∀ languageConfig lang all queryPaths,
    Rust.Anyhow.Loud (env.highlightConfig languageConfig lang all queryPaths)
  readToString : ∀ path, Rust.Anyhow.Loud (env.readToString path)
  read : ∀ path, Rust.Anyhow.Loud (env.read path)
  html : ∀ source config quiet time, Rust.Anyhow.Loud (env.html source config quiet time).2
  ansi : ∀ source config time, Rust.Anyhow.Loud (env.ansi source config time).2

private theorem checkCaptures_loud (loud : env.Loud) (config : H) :
    LoudFault (checkCaptures env args config).2 := by
  intro e failed
  unfold checkCaptures at failed
  split_ifs at failed
  split at failed
  · rename_i f decoded
    cases failed
    exact loudFault_valueOf _ e decoded
  · split at failed
    · cases failed
    · rename_i e' read
      cases failed
      exact loud.readToString _ e read
  · cases failed

private theorem highlightWith_loud (loud : env.Loud) (config : H) (path : String) :
    LoudFault (highlightWith env args config path).2 := by
  intro e failed
  unfold highlightWith at failed
  split at failed
  · rename_i report f checked
    cases failed
    exact checkCaptures_loud loud config e (by rw [checked])
  · split at failed
    · rename_i e' read
      cases failed
      exact loud.read path e read
    · refine Loud.liftError ?_ e failed
      unfold highlighter
      split_ifs
      · exact loud.html _ _ _ _
      · exact loud.ansi _ _ _

private theorem highlightFile_loud (loud : env.Loud) (language : Option (L × C))
    (queryPaths : Option (List String)) (path : String) :
    LoudFault (highlightFile env args language queryPaths path).2 := by
  intro e failed
  cases language <;> simp only [highlightFile] at failed <;> repeat' split at failed
  all_goals first
    | exact highlightWith_loud loud _ path e failed
    | (cases failed; done)
    | (rename_i e' bound; cases failed; first
        | exact loud.forFileName path e bound
        | exact loud.highlightConfig _ _ _ _ e bound)

private theorem highlightFiles_loud (loud : env.Loud) (language : Option (L × C))
    (queryPaths : Option (List String)) (paths : List String) :
    LoudFault (highlightFiles env args language queryPaths paths).2 := by
  induction paths with
  | nil => simp [highlightFiles, LoudFault]
  | cons path paths ih =>
      intro e failed
      unfold highlightFiles at failed
      split at failed
      · rename_i events f pass
        cases failed
        exact highlightFile_loud loud language queryPaths path e (by rw [pass])
      · exact ih e failed

private theorem highlightBound_loud (loud : env.Loud) (paths : List String)
    (language : Option (L × C)) : LoudFault (highlightBound env args paths language).2 := by
  intro e failed
  unfold highlightBound at failed
  split at failed
  · rename_i f decoded
    cases failed
    exact loudFault_valuesOf _ e decoded
  · split at failed
    · rename_i events f ran
      cases failed
      exact highlightFiles_loud loud language _ paths e (by rw [ran])
    · cases failed

private theorem highlightPaths_loud (loud : env.Loud) (paths : List String) :
    LoudFault (highlightPaths env args paths).2 := by
  intro e failed
  dsimp only [highlightPaths] at failed
  split at failed
  · rename_i f decoded
    cases failed
    exact loudFault_valueOf _ e decoded
  · exact highlightBound_loud loud paths none e failed
  · split at failed
    · rename_i e' looked
      cases failed
      exact loud.forScope _ e looked
    · cases failed
      simp
    · exact highlightBound_loud loud paths _ e failed

theorem runHighlight_loud {fs : FileSystem} (fsLoud : fs.Loud) (loud : env.Loud) :
    LoudFault (runHighlight fs env args).2 := by
  intro e failed
  unfold runHighlight at failed
  split at failed
  · rename_i e' found
    cases failed
    exact loud.findAllLanguages e found
  · split at failed
    · rename_i f resolved
      cases failed
      exact collectArgPaths_loud fsLoud _ _ e resolved
    · exact highlightPaths_loud loud _ e failed

/-! ### Panics -/

private theorem checkCaptures_panic {config : H} {msg : String}
    (h : (checkCaptures env args config).2 = .error (.panic msg)) :
    msg = invalidUtf8 ∧ args.capturesPath = some .invalid := by
  unfold checkCaptures at h
  split_ifs at h
  split at h
  · rename_i f decoded
    cases h
    obtain ⟨given, panic⟩ := valueOf_eq_error decoded
    exact ⟨Fault.panic.inj panic, given⟩
  · split at h <;> cases h
  · cases h

private theorem highlightWith_panic {config : H} {path msg : String}
    (h : (highlightWith env args config path).2 = .error (.panic msg)) :
    msg = invalidUtf8 ∧ args.capturesPath = some .invalid := by
  unfold highlightWith at h
  split at h
  · rename_i report f checked
    cases h
    exact checkCaptures_panic (by rw [checked])
  · split at h
    · cases h
    · exact absurd h (liftError_ne_panic _ _)

private theorem highlightFiles_panic {language : Option (L × C)} {queryPaths : Option (List String)}
    {paths : List String} {msg : String}
    (h : (highlightFiles env args language queryPaths paths).2 = .error (.panic msg)) :
    msg = invalidUtf8 ∧ args.capturesPath = some .invalid := by
  induction paths with
  | nil => cases h
  | cons path paths ih =>
      unfold highlightFiles at h
      split at h
      · rename_i events f pass
        cases h
        have pass' : (highlightFile env args language queryPaths path).2 = .error (.panic msg) := by
          rw [pass]
        cases language <;> simp only [highlightFile] at pass' <;> repeat' split at pass'
        all_goals first
          | exact highlightWith_panic pass'
          | cases pass'
      · exact ih h

private theorem highlightBound_panic {paths : List String} {language : Option (L × C)}
    {msg : String} (h : (highlightBound env args paths language).2 = .error (.panic msg)) :
    msg = invalidUtf8 ∧ .invalid ∈ args.osArgs := by
  unfold highlightBound at h
  split at h
  · rename_i f decoded
    cases h
    obtain ⟨⟨values, given, mem⟩, panic⟩ := valuesOf_eq_error decoded
    exact ⟨Fault.panic.inj panic, by simp [HighlightArgs.osArgs, given, mem]⟩
  · split at h
    · rename_i events f ran
      cases h
      obtain ⟨rfl, given⟩ := highlightFiles_panic (by rw [ran])
      exact ⟨rfl, by simp [HighlightArgs.osArgs, given]⟩
    · cases h

theorem runHighlight_panic {fs : FileSystem} {msg : String}
    (h : (runHighlight fs env args).2 = .error (.panic msg)) :
    msg = invalidUtf8 ∧ .invalid ∈ args.osArgs := by
  unfold runHighlight at h
  split at h
  · cases h
  split at h
  · rename_i f collected
    cases h
    obtain ⟨rfl, mem⟩ := collectArgPaths_eq_panic collected
    refine ⟨rfl, ?_⟩
    simp only [HighlightArgs.osArgs, List.mem_append] at mem ⊢
    tauto
  dsimp only [highlightPaths] at h
  split at h
  · rename_i f decoded
    cases h
    obtain ⟨given, panic⟩ := valueOf_eq_error decoded
    exact ⟨Fault.panic.inj panic, by simp [HighlightArgs.osArgs, given]⟩
  · exact highlightBound_panic h
  · split at h
    · cases h
    · cases h
    · exact highlightBound_panic h

/-! ### Runs -/

/-- A loader that knows the `.js` files `a.js` and `c.js`, whose language has highlighting,
and a file system where the captures file cannot be read. -/
def jsHighlighting : HighlightEnv Unit Unit Unit where
  findAllLanguages := .ok ()
  languageConfigurationForScope _ := .ok none
  languageConfigurationForFileName path :=
    .ok (if path == "a.js" || path == "c.js" then some ((), ()) else none)
  highlightConfig _ _ _ _ := .ok (some ())
  nonconformantCaptureNames _ _ := []
  readToString _ := .error (Error.msg "No such file or directory (os error 2)")
  read _ := .ok []
  html _ _ _ _ := ("<pre></pre>", .ok ())
  ansi _ _ _ := ("", .ok ())

theorem jsHighlighting_succeeds : jsHighlighting.Succeeds :=
  ⟨fun _ => ⟨_, rfl⟩, fun _ => ⟨_, rfl⟩, fun _ _ _ _ => ⟨_, rfl⟩, fun _ => ⟨_, rfl⟩,
    fun _ _ _ _ => rfl, fun _ _ _ => rfl⟩

def plainArgs : HighlightArgs :=
  { pathsFile := none
    paths := some [.utf8 "a.js", .utf8 "b.txt", .utf8 "c.js"]
    scope := none
    html := false
    quiet := false
    time := false
    check := false
    capturesPath := none
    queryPaths := none
    applyAllCaptures := false }

def checkingArgs : HighlightArgs :=
  { plainArgs with check := true, capturesPath := some (.utf8 "captures.scm") }

end TreeSitterCli.Run.Highlight
