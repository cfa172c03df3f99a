import Mathlib.Data.Nat.Digits

/-!
How the CLI's fallible code ends. `run` returns `anyhow::Result`: an error carries the
message its `Display` prints and the messages of the errors it wraps, added by `.context`.
Code that calls `unwrap` or indexes a vector can also panic; `Fault` keeps the two apart, so
that a branch that returns an error can be told from one that panics.
-/

set_option autoImplicit false
set_option relaxedAutoImplicit false

namespace TreeSitterCli.Rust.Anyhow

/-- An `anyhow::Error`: its message, the messages of the errors it wraps (outermost first),
and whether an `std::io::Error` of kind `BrokenPipe` is the error `main` downcasts to. -/
structure Error where
  message : String
  causes : List String := []
  brokenPipe : Bool := false
  deriving DecidableEq, Repr

/-- `anyhow!(text)`. -/
def Error.msg (text : String) : Error :=
  { message := text }

/-- `.context(text)` and `.with_context(|| text)` on a failed result. -/
def Error.context (e : Error) (text : String) : Error :=
  { message := text, causes := e.message :: e.causes, brokenPipe := e.brokenPipe }

/-- An error propagated by `?`, or a panic with the message Rust prints for it. -/
inductive Fault
  | error (e : Error)
  | panic (message : String)
  deriving DecidableEq, Repr

def unwrapNonePanic : String :=
  "called `Option::unwrap()` on a `None` value"

def unwrap {α : Type} : Option α → Except Fault α
  | some a => .ok a
  | none => .error (.panic unwrapNonePanic)

def resultUnwrapPanic : String :=
  "called `Result::unwrap()` on an `Err` value"

/-- `result.unwrap()`, for a result whose error is given by its `Debug` text. -/
def unwrapResult {α : Type} : Except String α → Except Fault α
  | .ok a => .ok a
  | .error debug => .error (.panic (resultUnwrapPanic ++ ": " ++ debug))

def index {α : Type} (v : List α) (i : Nat) : Except Fault α :=
  match v.get? i with
  | some a => .ok a
  | none => .error (.panic ("index out of bounds: the len is " ++ toString v.length ++
      " but the index is " ++ toString i))

/-- `?` on an `anyhow::Result` inside code that may also panic. -/
def liftError {α : Type} : Except Error α → Except Fault α
  | .ok a => .ok a
  | .error e => .error (.error e)

/-- What `<str as Debug>::fmt` writes for one character. Quotes, backslashes and ASCII
control characters are escaped as Rust escapes them; other characters are written as they
are (Rust also escapes the unprintable non-ASCII ones, whose table is not modelled). -/
def debugEscape (c : Char) : List Char :=
  if c = '"' then ['\\', '"']
  else if c = '\\' then ['\\', '\\']
  else if c = '\n' then ['\\', 'n']
  else if c = '\r' then ['\\', 'r']
  else if c = '\t' then ['\\', 't']
  else if c = '\x00' then ['\\', '0']
  else if c.toNat < 0x20 ∨ c.toNat = 0x7F then
    ['\\', 'u', '\x7b'] ++ Nat.toDigits 16 c.toNat ++ ['\x7d']
  else [c]

/-- `format!("{s:?}")` for a string: the escaped text between double quotes. -/
def debugStr (s : String) : String :=
  ⟨'"' :: s.data.flatMap debugEscape ++ ['"']⟩

@[simp] theorem liftError_ok {α : Type} (a : α) : liftError (.ok a) = .ok a := rfl

@[simp] theorem liftError_error {α : Type} (e : Error) :
    liftError (.error e : Except Error α) = .error (.error e) := rfl

theorem liftError_ne_panic {α : Type} (r : Except Error α) (message : String) :
    liftError r ≠ .error (.panic message) := by
  cases r <;> simp [liftError]

theorem bind_eq_error {α β : Type} {x : Except Fault α} {f : α → Except Fault β} {e : Fault} :
    x >>= f = .error e ↔ x = .error e ∨ ∃ a, x = .ok a ∧ f a = .error e := by
  cases x <;> simp [bind, Except.bind]

theorem bind_eq_ok {ε α β : Type} {x : Except ε α} {f : α → Except ε β} {b : β} :
    x >>= f = .ok b ↔ ∃ a, x = .ok a ∧ f a = .ok b := by
  cases x <;> simp [bind, Except.bind]

/-- `?` on an `anyhow::Result` never panics: a panic comes from what follows it. -/
theorem liftError_bind_eq_panic {α β : Type} {r : Except Error α} {f : α → Except Fault β}
    {message : String} (h : liftError r >>= f = .error (.panic message)) :
    ∃ a, r = .ok a ∧ f a = .error (.panic message) := by
  cases r with
  | error _ => cases h
  | ok a => exact ⟨a, rfl, h⟩

theorem unwrapResult_eq_error {α : Type} {r : Except String α} {f : Fault}
    (h : unwrapResult r = .error f) :
    ∃ debug, r = .error debug ∧ f = .panic (resultUnwrapPanic ++ ": " ++ debug) := by
  cases r with
  | ok _ => cases h
  | error debug => exact ⟨debug, rfl, (Except.error.inj h).symm⟩

@[simp] theorem liftError_eq_error_iff {α : Type} (r : Except Error α) (e : Error) :
    liftError r = .error (.error e) ↔ r = .error e := by
  cases r <;> simp [liftError]

theorem liftError_eq_ok_iff {α : Type} (r : Except Error α) (a : α) :
    liftError r = .ok a ↔ r = .ok a := by
  cases r <;> simp [liftError]

/-! ### Errors that say what went wrong -/

/-- Every error of `r` has a message, which `main` prints. -/
def Loud {α : Type} (r : Except Error α) : Prop :=
  ∀ e, r = .error e → e.message ≠ ""

def LoudFault {α : Type} (r : Except Fault α) : Prop :=
  ∀ e, r = .error (.error e) → e.message ≠ ""

@[simp] theorem loud_ok {α : Type} (a : α) : Loud (.ok a : Except Error α) :=
  fun _ h => by cases h

@[simp] theorem loud_error {α : Type} (e : Error) :
    Loud (.error e : Except Error α) ↔ e.message ≠ "" :=
  ⟨fun h => h e rfl, fun h _ same => by cases same; exact h⟩

@[simp] theorem append_eq_empty_iff (s t : String) : s ++ t = "" ↔ s = "" ∧ t = "" := by
  constructor
  · intro empty
    have data := congrArg String.data empty
    simp only [String.data_append, List.append_eq_nil] at data
    exact ⟨String.ext data.1, String.ext data.2⟩
  · rintro ⟨rfl, rfl⟩
    rfl

@[simp] theorem Error.msg_message (text : String) : (Error.msg text).message = text := rfl

@[simp] theorem Error.context_message (e : Error) (text : String) :
    (e.context text).message = text := rfl

theorem Loud.bind {α β : Type} {x : Except Error α} {f : α → Except Error β} (first : Loud x)
    (rest : ∀ a, Loud (f a)) : Loud (x >>= f) := by
  intro e failed
  cases x with
  | error _ => exact first e (by simpa [Bind.bind, Except.bind] using failed)
  | ok a => exact rest a e failed

@[simp] theorem loudFault_ok {α : Type} (a : α) : LoudFault (.ok a : Except Fault α) :=
  fun _ h => by cases h

theorem loudFault_unwrap {α : Type} (o : Option α) : LoudFault (unwrap o) := by
  cases o <;> simp [unwrap, LoudFault]

theorem loudFault_index {α : Type} (v : List α) (i : Nat) : LoudFault (index v i) := by
  unfold index
  split <;> simp [LoudFault]

theorem Loud.mapError_context {α : Type} (r : Except Error α) {text : String}
    (nonempty : text ≠ "") : Loud (r.mapError (·.context text)) := by
  cases r <;> simp [Except.mapError, nonempty]

theorem Loud.liftError {α : Type} {r : Except Error α} (loud : Loud r) : LoudFault (liftError r) := by
  intro e h
  cases r with
  | ok _ => cases h
  | error e' => cases h; exact loud e rfl

theorem LoudFault.bind {α β : Type} {x : Except Fault α} {f : α → Except Fault β}
    (first : LoudFault x) (rest : ∀ a, LoudFault (f a)) : LoudFault (x >>= f) := by
  intro e failed
  rcases x with _ | a
  · exact first e (by simpa [Bind.bind, Except.bind] using failed)
  · exact rest a e failed

end TreeSitterCli.Rust.Anyhow
