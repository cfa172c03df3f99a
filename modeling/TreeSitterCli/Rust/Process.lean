import TreeSitterCli.Rust.Anyhow

/-!
What the process exchanges with the operating system outside its collaborators: the values
of its arguments and its standard streams.

The app sets no `AppSettings::StrictUtf8`, so clap 2 accepts argument values that are not
UTF-8 and decodes a value only when a branch reads it: `value_of` decodes the first value
and `values_of` is an iterator that decodes each value as it is reached, both with
`to_str().expect(INVALID_UTF8)`. `println!` and `eprintln!` panic when the write fails.
-/

set_option autoImplicit false
set_option relaxedAutoImplicit false

namespace TreeSitterCli.Rust.Process

open TreeSitterCli.Rust.Anyhow (Fault LoudFault bind_eq_error)

/-! ### Argument values -/

/-- An argument value as the operating system passes it: UTF-8 text, or bytes that are not. -/
inductive OsArg
  | utf8 (text : String)
  | invalid
  deriving DecidableEq, Repr

/-- clap's `INVALID_UTF8`. -/
def invalidUtf8 : String :=
  "unexpected invalid UTF-8 code point"

/-- `os_str.to_str().expect(INVALID_UTF8)`. -/
def OsArg.toStr : OsArg → Except Fault String
  | .utf8 text => .ok text
  | .invalid => .error (.panic invalidUtf8)

/-- `matches.value_of(name)`. -/
def valueOf : Option OsArg → Except Fault (Option String)
  | none => .ok none
  | some arg => some <$> arg.toStr

/-- `matches.values_of(name)` collected into a vector. -/
def valuesOf : Option (List OsArg) → Except Fault (Option (List String))
  | none => .ok none
  | some args => some <$> args.mapM OsArg.toStr

@[simp] theorem OsArg.toStr_utf8 (text : String) : (OsArg.utf8 text).toStr = .ok text := rfl

@[simp] theorem valueOf_none : valueOf none = .ok none := rfl

@[simp] theorem valueOf_utf8 (text : String) : valueOf (some (.utf8 text)) = .ok (some text) := rfl

theorem OsArg.toStr_eq_error {arg : OsArg} {f : Fault} (h : arg.toStr = .error f) :
    arg = .invalid ∧ f = .panic invalidUtf8 := by
  cases arg with
  | utf8 _ => cases h
  | invalid => exact ⟨rfl, (Except.error.inj h).symm⟩

theorem valueOf_eq_some {arg : Option OsArg} {text : String} (h : valueOf arg = .ok (some text)) :
    arg = some (.utf8 text) := by
  rcases arg with _ | _ | _ <;> cases h
  rfl

theorem valueOf_ok_of_ne_invalid {arg : Option OsArg} (valid : arg ≠ some .invalid) :
    ∃ text, valueOf arg = .ok text := by
  rcases arg with _ | _ | _
  · exact ⟨none, rfl⟩
  · exact ⟨_, rfl⟩
  · exact absurd rfl valid

theorem valueOf_eq_error {arg : Option OsArg} {f : Fault} (h : valueOf arg = .error f) :
    arg = some .invalid ∧ f = .panic invalidUtf8 := by
  rcases arg with _ | _ | _
  · cases h
  · cases h
  · exact ⟨rfl, (Except.error.inj h).symm⟩

private theorem mapM_toStr_utf8 (texts : List String) :
    (texts.map OsArg.utf8).mapM OsArg.toStr = .ok texts := by
  induction texts with
  | nil => rfl
  | cons text texts ih =>
      simp only [List.map_cons, List.mapM_cons, OsArg.toStr_utf8, ih]
      rfl

private theorem mapM_toStr_eq_error {args : List OsArg} {f : Fault}
    (h : args.mapM OsArg.toStr = .error f) : .invalid ∈ args ∧ f = .panic invalidUtf8 := by
  induction args with
  | nil => cases h
  | cons arg args ih =>
      rw [List.mapM_cons] at h
      obtain decoded | ⟨_, -, h⟩ := bind_eq_error.mp h
      · obtain ⟨rfl, rfl⟩ := OsArg.toStr_eq_error decoded
        exact ⟨List.mem_cons_self _ _, rfl⟩
      obtain rest | ⟨_, -, ⟨⟩⟩ := bind_eq_error.mp h
      exact (ih rest).imp_left (List.mem_cons_of_mem _)

@[simp] theorem valuesOf_utf8 (texts : List String) :
    valuesOf (some (texts.map .utf8)) = .ok (some texts) := by
  rw [valuesOf, mapM_toStr_utf8]
  rfl

theorem valuesOf_eq_error {args : Option (List OsArg)} {f : Fault} (h : valuesOf args = .error f) :
    (∃ values, args = some values ∧ .invalid ∈ values) ∧ f = .panic invalidUtf8 := by
  cases args with
  | none => cases h
  | some values =>
      cases decoded : values.mapM OsArg.toStr with
      | error f' =>
          obtain ⟨mem, panic⟩ := mapM_toStr_eq_error decoded
          rw [valuesOf, decoded] at h
          exact ⟨⟨values, rfl, mem⟩, (Except.error.inj h).symm.trans panic⟩
      | ok _ => rw [valuesOf, decoded] at h; cases h

theorem loudFault_toStr (arg : OsArg) : LoudFault arg.toStr := by
  cases arg <;> simp [OsArg.toStr, LoudFault]

theorem loudFault_valueOf (arg : Option OsArg) : LoudFault (valueOf arg) := fun _ h =>
  nomatch (valueOf_eq_error h).2

theorem loudFault_valuesOf (args : Option (List OsArg)) : LoudFault (valuesOf args) := fun _ h =>
  nomatch (valuesOf_eq_error h).2

/-! ### The standard streams -/

inductive Stream
  | stdout
  | stderr
  deriving DecidableEq, Repr

def Stream.label : Stream → String
  | .stdout => "stdout"
  | .stderr => "stderr"

/-- The standard streams, each with the error its writes fail with, if they do: a pipe whose
reader is gone gives `Broken pipe (os error 32)`, since Rust ignores `SIGPIPE`. The standard
library counts a write to a closed descriptor as done, so that is no failure. -/
structure Console where
  stdout : Option String := none
  stderr : Option String := none
  deriving DecidableEq, Repr

def Console.refusal (console : Console) : Stream → Option String
  | .stdout => console.stdout
  | .stderr => console.stderr

/-- The panic of `print_to` for a write that failed with `e`. -/
def printPanic (stream : Stream) (e : String) : String :=
  "failed printing to " ++ stream.label ++ ": " ++ e

/-- `println!` on `.stdout`, `eprintln!` on `.stderr`. -/
def Console.print (console : Console) (stream : Stream) : Except Fault Unit :=
  match console.refusal stream with
  | none => .ok ()
  | some e => .error (.panic (printPanic stream e))

/-- A branch's output and result, played on the console: `stream` tells which events are
writes of `println!` or `eprintln!`, and to which stream. The first write that fails panics,
and the events after it, and the result, are those of a branch the panic has left. -/
def Console.emit {E : Type} (console : Console) (stream : E → Option Stream)
    (run : List E × Except Fault Unit) : Except Fault Unit := do
  (run.1.filterMap stream).forM console.print
  run.2

variable {console : Console}

private theorem forM_print_of_writable {streams : List Stream}
    (writable : ∀ s ∈ streams, console.refusal s = none) : streams.forM console.print = .ok () := by
  induction streams with
  | nil => rfl
  | cons s streams ih =>
      rw [List.forM, Console.print, writable s (List.mem_cons_self _ _)]
      exact ih fun s' mem => writable s' (List.mem_cons_of_mem _ mem)

private theorem forM_print_eq_error {streams : List Stream} {f : Fault}
    (h : streams.forM console.print = .error f) :
    ∃ s ∈ streams, ∃ e, console.refusal s = some e ∧ f = .panic (printPanic s e) := by
  induction streams with
  | nil => cases h
  | cons s streams ih =>
      rw [List.forM, Console.print] at h
      cases refused : console.refusal s with
      | some e =>
          rw [refused] at h
          exact ⟨s, List.mem_cons_self _ _, e, refused, (Except.error.inj h).symm⟩
      | none =>
          rw [refused] at h
          obtain ⟨s', mem, e, refused', panic⟩ := ih h
          exact ⟨s', List.mem_cons_of_mem _ mem, e, refused', panic⟩

private theorem forM_print_eq_ok {streams : List Stream}
    (h : streams.forM console.print = .ok ()) : ∀ s ∈ streams, console.refusal s = none := by
  induction streams with
  | nil => simp
  | cons s streams ih =>
      rw [List.forM, Console.print] at h
      cases refused : console.refusal s with
      | some e => rw [refused] at h; cases h
      | none =>
          rw [refused] at h
          exact List.forall_mem_cons.mpr ⟨refused, ih h⟩

theorem Console.emit_of_writable {E : Type} {stream : E → Option Stream}
    {run : List E × Except Fault Unit}
    (writable : ∀ s ∈ run.1.filterMap stream, console.refusal s = none) :
    console.emit stream run = run.2 := by
  rw [Console.emit, forM_print_of_writable writable]
  rfl

/-- A played branch fails with the branch's own fault, or panics at a write it makes to a
stream that fails it. -/
theorem Console.emit_eq_error {E : Type} {stream : E → Option Stream}
    {run : List E × Except Fault Unit} {f : Fault} (h : console.emit stream run = .error f) :
    run.2 = .error f ∨
      ∃ s ∈ run.1.filterMap stream, ∃ e, console.refusal s = some e ∧ f = .panic (printPanic s e) := by
  obtain printed | ⟨_, -, h⟩ := bind_eq_error.mp h
  · exact .inr (forM_print_eq_error printed)
  · exact .inl h

theorem Console.writable_of_emit_eq_error {E : Type} {stream : E → Option Stream}
    {run : List E × Except Fault Unit} {e : Anyhow.Error} (h : console.emit stream run = .error (.error e)) :
    ∀ s ∈ run.1.filterMap stream, console.refusal s = none := by
  obtain printed | ⟨⟨⟩, printed, -⟩ := bind_eq_error.mp h
  · obtain ⟨_, _, _, _, ⟨⟩⟩ := forM_print_eq_error printed
  · exact forM_print_eq_ok printed

theorem Console.loudFault_emit {E : Type} {stream : E → Option Stream}
    {run : List E × Except Fault Unit} (loud : LoudFault run.2) : LoudFault (console.emit stream run) :=
  fun e h => (Console.emit_eq_error h).elim (loud e) fun ⟨_, _, _, _, panic⟩ => nomatch panic

end TreeSitterCli.Rust.Process
