import TreeSitterCli.Paths.CollectPaths

/-!
The specifiers as a sequence of incorporation events. Each specifier contributes its
polarity together with the path it names, when that path exists, or with the UTF-8 matches
of its glob otherwise. A successful `collect_paths` is the replay of these events through
`incorporate_path`, starting from the empty list.
-/

set_option autoImplicit false
set_option relaxedAutoImplicit false

namespace TreeSitterCli.Paths.Events

open TreeSitterCli.Paths.CollectPaths

/-- One call of `incorporate_path`: a path and the polarity of its specifier. -/
structure Incorporation where
  positive : Bool
  path : String
  deriving DecidableEq, Repr

def globMatch : GlobEntry → Option String
  | .ok path => path
  | .error _ => none

def globMatches (entries : List GlobEntry) : List String :=
  entries.filterMap globMatch

/-- The events of one specifier: the stripped path itself when it exists, otherwise the
matches of the pattern's glob. -/
def specifierEvents (fs : FileSystem) (spec : String) : List Incorporation :=
  let (positive, path) := specifierPath spec
  if fs.pathExists path then [⟨positive, path⟩]
  else match fs.glob path with
    | .ok entries => (globMatches entries).map (⟨positive, ·⟩)
    | .error _ => []

def incorporationEvents (fs : FileSystem) (specs : List String) : List Incorporation :=
  specs.flatMap (specifierEvents fs)

/-- The result list after `incorporate_path` has run on each event in turn. -/
def replay (result : List String) (events : List Incorporation) : List String :=
  events.foldl (fun result e => incorporatePath result e.path e.positive) result

@[simp] theorem replay_nil (result : List String) : replay result [] = result := rfl

@[simp] theorem replay_cons (result : List String) (e : Incorporation) (events : List Incorporation) :
    replay result (e :: events) = replay (incorporatePath result e.path e.positive) events := rfl

theorem replay_append (result : List String) (events more : List Incorporation) :
    replay result (events ++ more) = replay (replay result events) more := by
  simp [replay, List.foldl_append]

private theorem replay_map_matches (positive : Bool) (result : List String) (path : String)
    (paths : List String) :
    replay result ((path :: paths).map (⟨positive, ·⟩)) =
      replay (incorporatePath result path positive) (paths.map (⟨positive, ·⟩)) := rfl

private theorem incorporateMatches_eq_ok {positive : Bool} {result r : List String}
    {entries : List GlobEntry} (h : incorporateMatches positive result entries = .ok r) :
    r = replay result ((globMatches entries).map (⟨positive, ·⟩)) := by
  induction entries generalizing result with
  | nil =>
      cases h
      rfl
  | cons entry entries ih =>
      rcases entry with e | _ | path
      · cases h
      · exact ih h
      · simpa only [globMatches, List.filterMap_cons, globMatch, replay_map_matches] using ih h

private theorem incorporateSpecifier_eq_ok {fs : FileSystem} {result r : List String} {spec : String}
    (h : incorporateSpecifier fs result spec = .ok r) :
    r = replay result (specifierEvents fs spec) := by
  rcases named : specifierPath spec with ⟨positive, path⟩
  simp only [incorporateSpecifier, specifierEvents, named] at h ⊢
  by_cases literal : fs.pathExists path
  · simp only [literal, if_true, Except.ok.injEq] at h ⊢
    rw [← h]
    rfl
  · simp only [literal, Bool.false_eq_true, if_false] at h ⊢
    cases found : fs.glob path with
    | error e => simp [found] at h
    | ok entries =>
        simp only [found] at h ⊢
        exact incorporateMatches_eq_ok h

private theorem incorporateSpecifiers_eq_ok {fs : FileSystem} {result r : List String}
    {specs : List String} (h : incorporateSpecifiers fs result specs = .ok r) :
    r = replay result (incorporationEvents fs specs) := by
  induction specs generalizing result with
  | nil =>
      cases h
      rfl
  | cons spec specs ih =>
      simp only [incorporateSpecifiers] at h
      split at h
      · cases h
      · rename_i next step
        rw [incorporationEvents, List.flatMap_cons, replay_append,
          ← incorporateSpecifier_eq_ok step]
        exact ih h

theorem collectPaths_eq_replay {fs : FileSystem} {specs ps : List String}
    (h : collectPaths fs none (some specs) = .ok ps) :
    ps = replay [] (incorporationEvents fs specs) :=
  incorporateSpecifiers_eq_ok (incorporateSpecifiers_of_collectPaths h)

end TreeSitterCli.Paths.Events
