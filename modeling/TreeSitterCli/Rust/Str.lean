import Mathlib.Data.Nat.Digits
import Mathlib.Data.List.Count
import Mathlib.Data.List.Basic

/-!
The pieces of Rust's `str` and `char` that `main.rs` calls, written over the characters of a
string. A Rust `&str` is a sequence of Unicode scalar values, which is exactly a Lean
`List Char`; each definition follows the standard library's own algorithm, so that the
corner cases (an empty string, a missing separator, a `+` sign) come out as in Rust.
-/

set_option autoImplicit false
set_option relaxedAutoImplicit false

namespace TreeSitterCli.Rust.Str

/-- `char::is_whitespace`: the Unicode `White_Space` property. -/
def isWhitespace (c : Char) : Bool :=
  let n := c.toNat
  n = 0x20 || (0x09 ≤ n && n ≤ 0x0D) || n = 0x85 || n = 0xA0 || n = 0x1680 ||
    (0x2000 ≤ n && n ≤ 0x200A) || n = 0x2028 || n = 0x2029 || n = 0x202F || n = 0x205F ||
    n = 0x3000

/-- `str::trim`: drop leading and trailing whitespace. -/
def trim (s : List Char) : List Char :=
  ((s.dropWhile isWhitespace).reverse.dropWhile isWhitespace).reverse

def startsWith (s : List Char) (c : Char) : Bool :=
  s.head? == some c

def trimStartMatches (s : List Char) (c : Char) : List Char :=
  s.dropWhile (· == c)

def trimMatches (s : List Char) (c : Char) : List Char :=
  ((s.dropWhile (· == c)).reverse.dropWhile (· == c)).reverse

/-- The line a `str::lines` iterator yields for a piece that ended at a newline: the piece
without its `\n` (already dropped by the caller) and without one `\r` before it. The piece is
held reversed, as `linesFrom` accumulates it. -/
def stripCarriageReturn : List Char → List Char
  | '\r' :: rev => rev.reverse
  | rev => rev.reverse

def linesFrom (rev : List Char) : List Char → List (List Char)
  | [] => if rev.isEmpty then [] else [rev.reverse]
  | c :: s => if c = '\n' then stripCarriageReturn rev :: linesFrom [] s
    else linesFrom (c :: rev) s

/-- `str::lines`. -/
def lines (s : List Char) : List (List Char) :=
  linesFrom [] s

def splitFrom (sep : Char) (rev : List Char) : List Char → List (List Char)
  | [] => [rev.reverse]
  | c :: s => if c = sep then rev.reverse :: splitFrom sep [] s
    else splitFrom sep (c :: rev) s

/-- `str::split(sep)` for a character separator: always at least one field. -/
def split (s : List Char) (sep : Char) : List (List Char) :=
  splitFrom sep [] s

def digitsValue (acc : Nat) : List Char → Option Nat
  | [] => some acc
  | c :: s => if '0' ≤ c ∧ c ≤ '9' then digitsValue (acc * 10 + (c.toNat - '0'.toNat)) s
    else none

/-- `str::parse` for an unsigned integer type of `bits` bits (`from_str_radix` with radix 10):
an optional `+`, then at least one ASCII digit, and a value that fits. -/
def parseUnsigned (bits : Nat) (s : List Char) : Option Nat :=
  let digits := match s with
    | '+' :: rest => rest
    | _ => s
  if digits.isEmpty then none
  else match digitsValue 0 digits with
    | some n => if n < Nat.pow 2 bits then some n else none
    | none => none

/-- `str::parse::<usize>().ok()` on the 64-bit targets the CLI is built for. -/
def parseUsize (s : List Char) : Option Nat :=
  parseUnsigned 64 s

/-- The kind of a `ParseIntError`, as `from_str_radix` reports it for an unsigned type. -/
inductive IntErrorKind
  | empty
  | invalidDigit
  | posOverflow
  deriving DecidableEq, Repr

/-- `<ParseIntError as Display>::fmt`. -/
def IntErrorKind.description : IntErrorKind → String
  | .empty => "cannot parse integer from empty string"
  | .invalidDigit => "invalid digit found in string"
  | .posOverflow => "number too large to fit in target type"

/-- `<ParseIntError as Debug>::fmt`. -/
def IntErrorKind.debug : IntErrorKind → String
  | .empty => "ParseIntError \x7b kind: Empty \x7d"
  | .invalidDigit => "ParseIntError \x7b kind: InvalidDigit \x7d"
  | .posOverflow => "ParseIntError \x7b kind: PosOverflow \x7d"

/-- The digit loop of `from_str_radix` with radix 10 for a type of `bits` bits, after the value
`acc` of the digits before: each character must be a digit, and each new value must fit (the
check on the product alone fails only when this one does). -/
def digitsChecked (bits acc : Nat) : List Char → Except IntErrorKind Nat
  | [] => .ok acc
  | c :: s =>
      if '0' ≤ c ∧ c ≤ '9' then
        if acc * 10 + (c.toNat - '0'.toNat) < Nat.pow 2 bits then
          digitsChecked bits (acc * 10 + (c.toNat - '0'.toNat)) s
        else .error .posOverflow
      else .error .invalidDigit

/-- `from_str_radix(src, 10)` for an unsigned type of `bits` bits, which `str::parse` calls: a
sign alone is an invalid digit, and a leading `+` is skipped. -/
def fromStrRadix (bits : Nat) : List Char → Except IntErrorKind Nat
  | [] => .error .empty
  | c :: rest =>
      if (c = '+' ∨ c = '-') ∧ rest = [] then .error .invalidDigit
      else digitsChecked bits 0 (if c = '+' then rest else c :: rest)

/-- `Path::join` on Unix: an absolute `path` replaces `base`; otherwise `path` is appended,
after a `/` unless `base` is empty or already ends with one. -/
def pathJoin (base path : String) : String :=
  if startsWith path.data '/' then path
  else if base.data.getLast?.all (· == '/') then base ++ path
  else base ++ "/" ++ path

/-! ### Integer parsing -/

private theorem le_of_digitsValue {acc n : Nat} {s : List Char} (h : digitsValue acc s = some n) :
    acc ≤ n := by
  induction s generalizing acc with
  | nil => simp only [digitsValue, Option.some.injEq] at h; omega
  | cons c s ih =>
      simp only [digitsValue] at h
      split_ifs at h
      have := ih h
      omega

private theorem digitsChecked_toOption (bits : Nat) (s : List Char) :
    ∀ acc < Nat.pow 2 bits, (digitsChecked bits acc s).toOption =
      (digitsValue acc s).bind fun n => if n < Nat.pow 2 bits then some n else none := by
  induction s with
  | nil => intro acc fits; simp only [digitsChecked, digitsValue, Option.some_bind, if_pos fits]; rfl
  | cons c s ih =>
      intro acc _
      simp only [digitsChecked, digitsValue]
      split_ifs with digit fits
      · exact ih _ fits
      · cases h : digitsValue (acc * 10 + (c.toNat - '0'.toNat)) s with
        | none => rfl
        | some n =>
            have : ¬n < Nat.pow 2 bits := by have := le_of_digitsValue h; omega
            simp only [Option.some_bind, if_neg this]; rfl
      · rfl

theorem fromStrRadix_toOption (bits : Nat) (s : List Char) :
    (fromStrRadix bits s).toOption = parseUnsigned bits s := by
  have fits : 0 < Nat.pow 2 bits := Nat.pos_pow_of_pos bits (by decide)
  cases s with
  | nil => rfl
  | cons c rest =>
      by_cases sign : (c = '+' ∨ c = '-') ∧ rest = []
      · obtain ⟨rfl | rfl, rfl⟩ := sign <;> rfl
      · rw [fromStrRadix, if_neg sign, digitsChecked_toOption bits _ 0 fits]
        by_cases plus : c = '+'
        · subst plus
          obtain ⟨d, ds, rfl⟩ := List.exists_cons_of_ne_nil fun empty => sign ⟨.inl rfl, empty⟩
          rw [if_pos rfl, parseUnsigned]
          cases digitsValue 0 (d :: ds) <;> rfl
        · rw [if_neg plus, parseUnsigned]
          split at *
          · exact absurd ‹(c :: rest).isEmpty = true› (by simp)
          · cases digitsValue 0 (c :: rest) <;> rfl
          · exact fun _ same => plus (List.cons.inj same).1

/-! ### Printed numbers -/

private theorem toDigitsCore_acc (fuel n : Nat) (ds : List Char) :
    Nat.toDigitsCore 10 fuel n ds = Nat.toDigitsCore 10 fuel n [] ++ ds := by
  induction fuel generalizing n ds with
  | zero => rfl
  | succ fuel ih =>
      simp only [Nat.toDigitsCore]
      split_ifs
      · rfl
      · rw [ih _ (_ :: ds), ih _ [_]]; simp

private theorem toDigitsCore_fuel {n fuel fuel' : Nat} (enough : n < fuel) (enough' : n < fuel')
    (ds : List Char) : Nat.toDigitsCore 10 fuel n ds = Nat.toDigitsCore 10 fuel' n ds := by
  induction fuel generalizing n fuel' ds with
  | zero => omega
  | succ fuel ih =>
      obtain ⟨fuel', rfl⟩ : ∃ f, fuel' = f + 1 := ⟨fuel' - 1, by omega⟩
      simp only [Nat.toDigitsCore]
      split_ifs
      · rfl
      · exact ih (by omega) (by omega) _

private theorem toDigits_snoc (n : Nat) :
    Nat.toDigits 10 n =
      (if n < 10 then [] else Nat.toDigits 10 (n / 10)) ++ [Nat.digitChar (n % 10)] := by
  rw [Nat.toDigits, Nat.toDigitsCore]
  split_ifs with last small small
  · rfl
  · omega
  · omega
  · rw [toDigitsCore_acc, @toDigitsCore_fuel (n / 10) n (n / 10 + 1) (by omega) (by omega)]; rfl

private theorem digitChar_digit : ∀ d < 10,
    '0' ≤ Nat.digitChar d ∧ Nat.digitChar d ≤ '9' ∧
      (Nat.digitChar d).toNat - '0'.toNat = d := by
  decide

theorem digit_of_mem_toString {n : Nat} {c : Char} (mem : c ∈ (toString n).data) :
    '0' ≤ c ∧ c ≤ '9' := by
  change c ∈ Nat.toDigits 10 n at mem
  induction n using Nat.strong_induction_on with
  | _ n ih =>
    rw [toDigits_snoc, List.mem_append, List.mem_singleton] at mem
    rcases mem with mem | rfl
    · split_ifs at mem with small
      · cases mem
      · exact ih (n / 10) (by omega) mem
    · obtain ⟨lo, hi, -⟩ := digitChar_digit (n % 10) (Nat.mod_lt n (by decide))
      exact ⟨lo, hi⟩

private theorem digitsChecked_append (bits acc : Nat) (s t : List Char) :
    digitsChecked bits acc (s ++ t) =
      digitsChecked bits acc s >>= fun v => digitsChecked bits v t := by
  induction s generalizing acc with
  | nil => rfl
  | cons c s ih =>
      simp only [List.cons_append, digitsChecked]
      split_ifs
      · exact ih _
      · rfl
      · rfl

private theorem digitsChecked_digit (bits acc d : Nat) (digit : d < 10) :
    digitsChecked bits acc [Nat.digitChar d] =
      if acc * 10 + d < 2 ^ bits then .ok (acc * 10 + d) else .error .posOverflow := by
  obtain ⟨lo, hi, value⟩ := digitChar_digit d digit
  simp only [digitsChecked, if_pos (And.intro lo hi), value, Nat.pow_eq]

private theorem digitsChecked_toDigits (bits n : Nat) :
    digitsChecked bits 0 (Nat.toDigits 10 n) =
      if n < 2 ^ bits then .ok n else .error .posOverflow := by
  induction n using Nat.strong_induction_on with
  | _ n ih =>
    rw [toDigits_snoc]
    by_cases small : n < 10
    · rw [if_pos small, List.nil_append, digitsChecked_digit _ _ _ (Nat.mod_lt n (by decide)),
        Nat.mod_eq_of_lt small]
      simp
    · rw [if_neg small, digitsChecked_append, ih (n / 10) (by omega)]
      by_cases fits : n / 10 < 2 ^ bits
      · rw [if_pos fits]
        exact (digitsChecked_digit _ _ _ (Nat.mod_lt n (by decide))).trans
          (by rw [Nat.div_add_mod'])
      · rw [if_neg fits, if_neg (by omega)]
        rfl

theorem fromStrRadix_toString (bits n : Nat) :
    fromStrRadix bits (toString n).data = if n < 2 ^ bits then .ok n else .error .posOverflow := by
  obtain ⟨c, rest, printed⟩ : ∃ c rest, (toString n).data = c :: rest := by
    change ∃ c rest, Nat.toDigits 10 n = c :: rest
    rw [toDigits_snoc]
    split_ifs
    · exact ⟨_, _, rfl⟩
    · exact List.exists_cons_of_ne_nil (by simp)
  obtain ⟨lo, hi⟩ := digit_of_mem_toString (printed ▸ List.mem_cons_self c rest)
  have unsigned : ¬c = '+' ∧ ¬c = '-' := by
    constructor <;> (rintro rfl; revert lo hi; decide)
  rw [← digitsChecked_toDigits, ← show (toString n).data = Nat.toDigits 10 n from rfl, printed,
    fromStrRadix, if_neg (by tauto), if_neg unsigned.1]

theorem parseUsize_toString (n : Nat) :
    parseUsize (toString n).data = if n < 2 ^ 64 then some n else none := by
  rw [parseUsize, ← fromStrRadix_toOption, fromStrRadix_toString]
  split_ifs <;> rfl

/-! ### Splitting -/

private theorem splitFrom_length (sep : Char) (rev s : List Char) :
    (splitFrom sep rev s).length = s.count sep + 1 := by
  induction s generalizing rev with
  | nil => simp [splitFrom]
  | cons c s ih =>
      simp only [splitFrom, List.count_cons, beq_iff_eq]
      split_ifs with h
      · simp [ih, h]
      · simp [ih, Ne.symm h]

theorem split_length (s : List Char) (sep : Char) :
    (split s sep).length = s.count sep + 1 :=
  splitFrom_length sep [] s

theorem one_lt_split_length_iff (s : List Char) (sep : Char) :
    1 < (split s sep).length ↔ sep ∈ s := by
  rw [split_length, ← List.count_pos_iff]
  omega

private theorem splitFrom_of_not_mem (sep : Char) (rev s : List Char) (absent : sep ∉ s) :
    splitFrom sep rev s = [rev.reverse ++ s] := by
  induction s generalizing rev with
  | nil => simp [splitFrom]
  | cons c s ih =>
      have other : c ≠ sep := fun h => absent (h ▸ List.mem_cons_self c s)
      rw [splitFrom, if_neg other, ih _ fun h => absent (List.mem_cons_of_mem c h)]
      simp

theorem split_of_not_mem {s : List Char} {sep : Char} (absent : sep ∉ s) : split s sep = [s] := by
  simpa using splitFrom_of_not_mem sep [] s absent

private theorem splitFrom_append_cons (sep : Char) (rev s t : List Char) (absent : sep ∉ s) :
    splitFrom sep rev (s ++ sep :: t) = (rev.reverse ++ s) :: splitFrom sep [] t := by
  induction s generalizing rev with
  | nil => simp [splitFrom]
  | cons c s ih =>
      have other : c ≠ sep := fun h => absent (h ▸ List.mem_cons_self c s)
      rw [List.cons_append, splitFrom, if_neg other, ih _ fun h => absent (List.mem_cons_of_mem c h)]
      simp

theorem split_append_cons {s t : List Char} {sep : Char} (absent : sep ∉ s) :
    split (s ++ sep :: t) sep = s :: split t sep := by
  simpa using splitFrom_append_cons sep [] s t absent

/-! ### Trimming -/

private theorem forall_dropWhile_iff (p : Char → Bool) (s : List Char) :
    (∀ c ∈ s.dropWhile p, p c) ↔ ∀ c ∈ s, p c := by
  induction s with
  | nil => simp
  | cons c s ih => cases h : p c <;> simp [List.dropWhile_cons, h, ih]

theorem trim_eq_nil_iff (s : List Char) : trim s = [] ↔ ∀ c ∈ s, isWhitespace c := by
  rw [trim, List.reverse_eq_nil_iff, List.dropWhile_eq_nil_iff]
  simpa using forall_dropWhile_iff isWhitespace s

private theorem dropWhile_of_head {p : Char → Bool} {s : List Char}
    (kept : ∀ c ∈ s.head?, p c = false) : s.dropWhile p = s := by
  cases s with
  | nil => rfl
  | cons c s => simp [List.dropWhile_cons, kept c rfl]

private theorem strip_of_ends {p : Char → Bool} {s : List Char}
    (first : ∀ c ∈ s.head?, p c = false) (last : ∀ c ∈ s.getLast?, p c = false) :
    ((s.dropWhile p).reverse.dropWhile p).reverse = s := by
  rw [dropWhile_of_head first, dropWhile_of_head (by rwa [List.head?_reverse]),
    List.reverse_reverse]

theorem trim_of_ends {s : List Char} (first : ∀ c ∈ s.head?, isWhitespace c = false)
    (last : ∀ c ∈ s.getLast?, isWhitespace c = false) : trim s = s :=
  strip_of_ends first last

theorem trimMatches_of_ends {s : List Char} {c : Char} (first : ∀ d ∈ s.head?, d ≠ c)
    (last : ∀ d ∈ s.getLast?, d ≠ c) : trimMatches s c = s :=
  strip_of_ends (by simpa using first) (by simpa using last)

theorem trimMatches_enclosed {s : List Char} {c : Char} (first : ∀ d ∈ s.head?, d ≠ c)
    (last : ∀ d ∈ s.getLast?, d ≠ c) : trimMatches (c :: s ++ [c]) c = s := by
  cases s with
  | nil => simp [trimMatches]
  | cons d s =>
      have inner : ((d :: s) ++ [c]).dropWhile (· == c) = d :: s ++ [c] :=
        dropWhile_of_head (by simpa using first)
      rw [trimMatches, List.cons_append, List.dropWhile_cons_of_pos (by simp), inner,
        List.reverse_append, List.reverse_singleton, List.singleton_append,
        List.dropWhile_cons_of_pos (by simp),
        dropWhile_of_head fun e mem => by simpa using last e (by rwa [List.head?_reverse] at mem),
        List.reverse_reverse]

private theorem getLast?_dropWhile_append {p : Char → Bool} (s : List Char) {c : Char}
    (kept : p c = false) : ((s ++ [c]).dropWhile p).getLast? = some c := by
  induction s with
  | nil => simp [List.dropWhile_cons, kept]
  | cons d s ih =>
      by_cases dropped : p d
      · rwa [List.cons_append, List.dropWhile_cons_of_pos dropped]
      · rw [List.cons_append, List.dropWhile_cons_of_neg dropped, ← List.cons_append,
          List.getLast?_append]
        simp

theorem trim_cons {c : Char} (s : List Char) (kept : isWhitespace c = false) :
    ∃ rest, trim (c :: s) = c :: rest := by
  rw [← List.head?_eq_some_iff, trim, List.dropWhile_cons_of_neg (by simp [kept]),
    List.head?_reverse, List.reverse_cons]
  exact getLast?_dropWhile_append _ kept

/-! ### Lines -/

private theorem linesFrom_eq_nil_iff (rev s : List Char) :
    linesFrom rev s = [] ↔ rev = [] ∧ s = [] := by
  induction s generalizing rev with
  | nil => simp [linesFrom]
  | cons c s ih =>
      simp only [linesFrom]
      split_ifs <;> simp [ih]

theorem lines_eq_nil_iff (s : List Char) : lines s = [] ↔ s = [] := by
  simp [lines, linesFrom_eq_nil_iff]

private theorem linesFrom_of_not_mem (rev s : List Char) (single : '\n' ∉ s) :
    linesFrom rev s = if rev = [] ∧ s = [] then [] else [rev.reverse ++ s] := by
  induction s generalizing rev with
  | nil => cases rev <;> simp [linesFrom]
  | cons c s ih =>
      have other : c ≠ '\n' := fun h => single (h ▸ List.mem_cons_self c s)
      rw [linesFrom, if_neg other, ih _ fun h => single (List.mem_cons_of_mem c h)]
      simp

private theorem linesFrom_newline (rev line rest : List Char) (single : '\n' ∉ line) :
    linesFrom rev (line ++ '\n' :: rest) =
      stripCarriageReturn (line.reverse ++ rev) :: linesFrom [] rest := by
  induction line generalizing rev with
  | nil => simp [linesFrom]
  | cons c line ih =>
      have other : c ≠ '\n' := fun h => single (h ▸ List.mem_cons_self c line)
      rw [List.cons_append, linesFrom, if_neg other, ih _ fun h => single (List.mem_cons_of_mem c h)]
      simp

private theorem stripCarriageReturn_reverse {line : List Char} (kept : line.getLast? ≠ some '\r') :
    stripCarriageReturn line.reverse = line := by
  unfold stripCarriageReturn
  split
  · rename_i rev named
    have last : line.getLast? = some '\r' := by rw [← List.head?_reverse, named]; rfl
    exact absurd last kept
  · simp

theorem lines_flatMap_newline (ls : List (List Char))
    (wellFormed : ∀ l ∈ ls, '\n' ∉ l ∧ l.getLast? ≠ some '\r') :
    lines (ls.flatMap (· ++ ['\n'])) = ls := by
  induction ls with
  | nil => rfl
  | cons l ls ih =>
      obtain ⟨single, kept⟩ := wellFormed l (List.mem_cons_self l ls)
      change linesFrom [] ((l ++ ['\n']) ++ ls.flatMap (· ++ ['\n'])) = _
      rw [List.append_assoc, List.singleton_append, linesFrom_newline _ _ _ single, List.append_nil,
        stripCarriageReturn_reverse kept]
      exact congrArg (l :: ·) (ih fun m mem => wellFormed m (List.mem_cons_of_mem l mem))

/-- Lines joined by `\n`, with no newline after the last: the inverse of `lines`. -/
def joinLines : List (List Char) → List Char
  | [] => []
  | [line] => line
  | line :: lines => line ++ '\n' :: joinLines lines

theorem lines_joinLines_eq (ls : List (List Char))
    (wellFormed : ∀ l ∈ ls, '\n' ∉ l ∧ l.getLast? ≠ some '\r') :
    lines (joinLines ls) = if ls.getLast? = some [] then ls.dropLast else ls := by
  induction ls with
  | nil => rfl
  | cons l ls ih =>
      obtain ⟨single, kept⟩ := wellFormed l (List.mem_cons_self l ls)
      cases ls with
      | nil =>
          by_cases empty : l = []
          · subst empty
            rfl
          · simp [joinLines, lines, linesFrom_of_not_mem _ _ single, empty]
      | cons l' ls =>
          change linesFrom [] (l ++ '\n' :: joinLines (l' :: ls)) = _
          rw [linesFrom_newline _ _ _ single, List.append_nil, stripCarriageReturn_reverse kept]
          change l :: lines (joinLines (l' :: ls)) = _
          rw [ih fun m mem => wellFormed m (List.mem_cons_of_mem l mem), List.getLast?_cons_cons,
            List.dropLast_cons₂]
          split_ifs <;> rfl

theorem lines_joinLines (ls : List (List Char))
    (wellFormed : ∀ l ∈ ls, '\n' ∉ l ∧ l.getLast? ≠ some '\r' ∧ l ≠ []) :
    lines (joinLines ls) = ls := by
  rw [lines_joinLines_eq ls fun l mem => ⟨(wellFormed l mem).1, (wellFormed l mem).2.1⟩,
    if_neg fun last => (wellFormed _ (List.mem_of_getLast?_eq_some last)).2.2 rfl]

end TreeSitterCli.Rust.Str
