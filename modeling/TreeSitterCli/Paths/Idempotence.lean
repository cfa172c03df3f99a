import TreeSitterCli.Paths.Resolution

/-!
Feeding a resolved list back into `collect_paths`. Every resolved path exists when globs
yield only existing paths, so a second run takes each one literally, unless its name starts
with `!`: the specifier loop reads that `!` as a negation, whatever the file is called.
-/

set_option autoImplicit false
set_option relaxedAutoImplicit false

namespace TreeSitterCli.Paths.Idempotence

open TreeSitterCli.Rust.Str (startsWith)
open TreeSitterCli.Rust.Anyhow (Error)
open TreeSitterCli.Paths.CollectPaths
open TreeSitterCli.Paths.Events

/-- Every path a glob yields exists. -/
def GlobYieldsExisting (fs : FileSystem) : Prop :=
  ∀ pattern entries path, fs.glob pattern = .ok entries → .ok (some path) ∈ entries →
    fs.pathExists path = true

variable {fs : FileSystem}

private theorem mem_replay {result : List String} {events : List Incorporation} {p : String}
    (h : p ∈ replay result events) : p ∈ result ∨ p ∈ events.map (·.path) := by
  induction events generalizing result with
  | nil => exact .inl h
  | cons e events ih =>
      rcases ih h with earlier | later
      · rcases mem_incorporatePath earlier with old | rfl
        · exact .inl old
        · exact .inr (List.mem_cons_self _ _)
      · exact .inr (List.mem_cons_of_mem _ later)

private theorem pathExists_of_specifierEvents (globs : GlobYieldsExisting fs) {spec : String}
    {e : Incorporation} (h : e ∈ specifierEvents fs spec) : fs.pathExists e.path = true := by
  rcases named : specifierPath spec with ⟨positive, path⟩
  simp only [specifierEvents, named] at h
  split_ifs at h with literal
  · rw [List.mem_singleton.mp h]
    exact literal
  · split at h
    · rename_i entries found
      obtain ⟨match_, mem, rfl⟩ := List.mem_map.mp h
      obtain ⟨entry, entryMem, yields⟩ := List.mem_filterMap.mp mem
      rcases entry with _ | _ | _
      · cases yields
      · cases yields
      · cases yields
        exact globs _ _ _ found entryMem
    · cases h

theorem pathExists_of_collectPaths (globs : GlobYieldsExisting fs) {specs ps : List String}
    (h : collectPaths fs none (some specs) = .ok ps) {p : String} (mem : p ∈ ps) :
    fs.pathExists p = true := by
  rw [collectPaths_eq_replay h] at mem
  rcases mem_replay mem with none | named
  · cases none
  · obtain ⟨e, event, rfl⟩ := List.mem_map.mp named
    obtain ⟨spec, -, fromSpec⟩ := List.mem_flatMap.mp event
    exact pathExists_of_specifierEvents globs fromSpec

private theorem specifierPath_of_unmarked {spec : String}
    (unmarked : startsWith spec.data '!' = false) :
    specifierPath spec = (true, spec) := by
  simp [specifierPath, unmarked]

theorem incorporateSpecifiers_literal (result : List String) {ps : List String}
    (literal : ∀ p ∈ ps, fs.pathExists p = true ∧ startsWith p.data '!' = false) :
    incorporateSpecifiers fs result ps = .ok (result ++ ps) := by
  induction ps generalizing result with
  | nil => simp [incorporateSpecifiers]
  | cons p ps ih =>
      obtain ⟨present, unmarked⟩ := literal p (List.mem_cons_self _ _)
      have step : incorporateSpecifier fs result p = .ok (result ++ [p]) := by
        simp [incorporateSpecifier, specifierPath_of_unmarked unmarked, present]
      simp only [incorporateSpecifiers, step]
      rw [ih _ fun q mem => literal q (List.mem_cons_of_mem _ mem)]
      simp

/-- Resolving a resolved list again gives the same list, when globs yield only existing
paths and no resolved path starts with `!`. -/
theorem collectPaths_idempotent (globs : GlobYieldsExisting fs) {specs ps : List String}
    (h : collectPaths fs none (some specs) = .ok ps)
    (unmarked : ∀ p ∈ ps, startsWith p.data '!' = false) :
    collectPaths fs none (some ps) = .ok ps := by
  have again : incorporateSpecifiers fs [] ps = .ok ([] ++ ps) :=
    incorporateSpecifiers_literal [] fun p mem =>
      ⟨pathExists_of_collectPaths globs h mem, unmarked p mem⟩
  have nonempty := collectPaths_specifiers_ne_nil h
  simp [collectPaths, checkNonEmpty, again, nonempty]

private theorem textFiles_globYieldsExisting : GlobYieldsExisting textFiles := by
  intro pattern entries path found mem
  simp only [textFiles] at found
  split_ifs at found
  · cases found
    simp only [List.mem_cons, Except.ok.injEq, Option.some.injEq, List.mem_nil_iff,
      or_false] at mem
    rcases mem with rfl | rfl <;> rfl
  · cases found
    cases mem

theorem collectPaths_idempotent_textFiles :
    GlobYieldsExisting textFiles ∧
      collectPaths textFiles none (some ["*.txt"]) = .ok ["a.txt", "b.txt"] ∧
      (∀ p ∈ ["a.txt", "b.txt"], startsWith p.data '!' = false) ∧
      collectPaths textFiles none (some ["a.txt", "b.txt"]) = .ok ["a.txt", "b.txt"] := by
  have run : collectPaths textFiles none (some ["*.txt"]) = .ok ["a.txt", "b.txt"] := rfl
  have unmarked : ∀ p ∈ ["a.txt", "b.txt"], startsWith p.data '!' = false := by decide
  exact ⟨textFiles_globYieldsExisting, run, unmarked,
    collectPaths_idempotent textFiles_globYieldsExisting run unmarked⟩

def bangFile : FileSystem where
  pathExists path := path == "!a"
  glob pattern := if pattern == "*" then .ok [.ok (some "!a")] else .ok []
  readToString _ := .error (Error.msg "No such file or directory (os error 2)")

/-- `*` resolves to `!a`, but `!a` read back is the negation of `a`, which matches nothing. -/
theorem collectPaths_bang_not_idempotent :
    GlobYieldsExisting bangFile ∧
      collectPaths bangFile none (some ["*"]) = .ok ["!a"] ∧
      collectPaths bangFile none (some ["!a"]) =
        .error (Error.msg "No files were found at or matched by the provided pathname/glob") := by
  refine ⟨?_, rfl, rfl⟩
  intro pattern entries path found mem
  simp only [bangFile] at found
  split_ifs at found
  · cases found
    simp only [List.mem_singleton, Except.ok.injEq, Option.some.injEq] at mem
    rw [mem]
    rfl
  · cases found
    cases mem

end TreeSitterCli.Paths.Idempotence
