import Mathlib.Algebra.Ring.Int.Defs
import Mathlib.Data.Nat.Digits.Defs

/-!
# Integers in text

`toString` renders an integer as `fmt`'s `%d` does: decimal digits without leading zeros, after a
minus sign when it is negative. `parseInt` is Go's `strconv.ParseInt(s, 0, 64)`: an optional sign, a
base taken from the text (`0x`, `0o`, `0b`, a leading `0`, or decimal), digits with `_` between them
where allowed, and a check of the range. It reads back every rendered 64-bit integer.
-/

namespace SandboxProvider.Lib

/-! ## Rendering -/

/-- The first digit of a positive number is not zero. -/
theorem head_toDigits_ne (n : Nat) (h : 0 < n) : (Nat.toDigits 10 n).head? ≠ some '0' := by
  induction n using Nat.strong_induction_on with
  | _ n ih =>
    by_cases hlt : n < 10
    · rw [Nat.toDigits_of_lt_base hlt]
      intro heq
      have hzero : n.digitChar = '0' := by simpa using heq
      have hcode := congrArg Char.toNat hzero
      rw [Nat.toNat_digitChar_of_lt_ten hlt] at hcode
      have hcode : 48 + n = 48 := hcode
      omega
    · have hle : 10 ≤ n := Nat.not_lt.mp hlt
      rw [Nat.toDigits_of_base_le (by decide) hle, List.head?_append]
      have hrest := ih (n / 10) (by omega) (by omega)
      cases hhead : (Nat.toDigits 10 (n / 10)).head? with
      | none => exact absurd (List.head?_eq_none_iff.mp hhead) Nat.toDigits_ne_nil
      | some c =>
        rw [hhead] at hrest
        exact hrest

theorem toList_toString_natCast (n : Nat) : (toString (n : Int)).toList = Nat.toDigits 10 n :=
  Nat.toList_repr

theorem toList_toString_negSucc (n : Nat) :
    (toString (Int.negSucc n)).toList = '-' :: Nat.toDigits 10 (n + 1) := by
  show ("-" ++ Nat.repr (n + 1)).toList = _
  rw [String.toList_append, Nat.toList_repr]
  rfl

/-! ## Parsing -/

/-- Why a number is refused. -/
inductive NumError
  | errSyntax | errRange
  deriving DecidableEq, Repr

/-- The value of a digit or letter. -/
def digitVal (c : Char) : Option Nat :=
  if '0' ≤ c ∧ c ≤ '9' then some (c.toNat - '0'.toNat)
  else if 'a' ≤ c.toLower ∧ c.toLower ≤ 'z' then some (c.toLower.toNat - 'a'.toNat + 10)
  else none

/-- The loop of `strconv.ParseUint` over the digits, for numbers up to `maxVal`. -/
def parseDigits (base maxVal : Nat) : Nat → List Char → Except NumError Nat
  | n, [] => .ok n
  | n, c :: rest =>
    if c = '_' then parseDigits base maxVal n rest
    else
      match digitVal c with
      | none => .error .errSyntax
      | some d =>
        if base ≤ d then .error .errSyntax
        else if maxVal < base * n + d then .error .errRange
        else parseDigits base maxVal (base * n + d) rest

/-- What `underscoreOK` remembers of the characters it has seen. -/
inductive Saw
  | start | digit | underscore | other
  deriving DecidableEq

/-- The loop of `underscoreOK`. -/
def underscoresOK (hex : Bool) : Saw → List Char → Bool
  | saw, [] => saw ≠ .underscore
  | saw, c :: rest =>
    if ('0' ≤ c ∧ c ≤ '9') ∨ (hex ∧ 'a' ≤ c.toLower ∧ c.toLower ≤ 'f') then
      underscoresOK hex .digit rest
    else if c = '_' then
      if saw ≠ .digit then false else underscoresOK hex .underscore rest
    else if saw = .underscore then false
    else underscoresOK hex .other rest

/-- Whether the underscores of a number only separate digits; a base prefix counts as a digit. -/
def underscoreOK : List Char → Bool
  | '0' :: c :: rest =>
    if c.toLower = 'b' ∨ c.toLower = 'o' ∨ c.toLower = 'x' then
      underscoresOK (c.toLower = 'x') .digit rest
    else underscoresOK false .start ('0' :: c :: rest)
  | s => underscoresOK false .start s

/-- The base of a number and its digits. -/
def splitBase : List Char → Nat × List Char
  | '0' :: c :: d :: rest =>
    if c.toLower = 'b' then (2, d :: rest)
    else if c.toLower = 'o' then (8, d :: rest)
    else if c.toLower = 'x' then (16, d :: rest)
    else (8, c :: d :: rest)
  | '0' :: rest => (8, rest)
  | s => (10, s)

/-- `strconv.ParseUint(s, 0, 64)`. -/
def parseUint (s : List Char) : Except NumError Nat :=
  if s = [] then .error .errSyntax
  else
    match parseDigits (splitBase s).1 (2 ^ 64 - 1) 0 (splitBase s).2 with
    | .error err => .error err
    | .ok n => if '_' ∈ (splitBase s).2 ∧ ¬ underscoreOK s then .error .errSyntax else .ok n

/-- The sign of a number and the rest. -/
def splitSign : List Char → Bool × List Char
  | '+' :: rest => (false, rest)
  | '-' :: rest => (true, rest)
  | s => (false, s)

/-- `strconv.ParseInt(s, 0, 64)`. -/
def parseInt (s : List Char) : Except NumError Int :=
  if s = [] then .error .errSyntax
  else
    match parseUint (splitSign s).2 with
    | .error err => .error err
    | .ok n =>
      if (splitSign s).1 then
        if 2 ^ 63 < n then .error .errRange else .ok (-n)
      else if 2 ^ 63 ≤ n then .error .errRange else .ok n

/-- `strconv.ParseInt(s, 10, 64)`. -/
def parseInt10 (s : List Char) : Except NumError Int :=
  if (splitSign s).2 = [] ∨ '_' ∈ (splitSign s).2 then .error .errSyntax
  else
    match parseDigits 10 (2 ^ 64 - 1) 0 (splitSign s).2 with
    | .error err => .error err
    | .ok n =>
      if (splitSign s).1 then
        if 2 ^ 63 < n then .error .errRange else .ok (-n)
      else if 2 ^ 63 ≤ n then .error .errRange else .ok n

/-! ## Reading back -/

theorem digitVal_of_isDigit {c : Char} (h : c.isDigit = true) :
    digitVal c = some (c.toNat - '0'.toNat) ∧ c.toNat - '0'.toNat < 10 ∧ c ≠ '_' := by
  have hrange : '0' ≤ c ∧ c ≤ '9' := by
    simpa [Char.isDigit, Char.le_def] using h
  have hle : c.toNat ≤ 57 := hrange.2
  have hge : 48 ≤ c.toNat := hrange.1
  refine ⟨if_pos hrange, ?_, ?_⟩
  · show c.toNat - 48 < 10
    omega
  · rintro rfl
    revert hle
    decide

theorem le_ofDigitChars (l : List Char) (n : Nat) : n ≤ Nat.ofDigitChars 10 l n := by
  induction l generalizing n with
  | nil => exact Nat.le_refl n
  | cons c rest ih =>
    have hnext := ih (10 * n + (c.toNat - '0'.toNat))
    have hstep : Nat.ofDigitChars 10 (c :: rest) n =
        Nat.ofDigitChars 10 rest (10 * n + (c.toNat - '0'.toNat)) := rfl
    rw [hstep]
    omega

/-- Digits are read one by one as long as the number stays in range. -/
theorem parseDigits_of_isDigit {maxVal : Nat} (l : List Char) (n : Nat)
    (hdigits : ∀ c ∈ l, c.isDigit = true) (hmax : Nat.ofDigitChars 10 l n ≤ maxVal) :
    parseDigits 10 maxVal n l = .ok (Nat.ofDigitChars 10 l n) := by
  induction l generalizing n with
  | nil => rfl
  | cons c rest ih =>
    obtain ⟨hval, hlt, hne⟩ := digitVal_of_isDigit (hdigits c List.mem_cons_self)
    have hstep : Nat.ofDigitChars 10 (c :: rest) n =
        Nat.ofDigitChars 10 rest (10 * n + (c.toNat - '0'.toNat)) := rfl
    have hle : 10 * n + (c.toNat - '0'.toNat) ≤ maxVal :=
      Nat.le_trans (le_ofDigitChars rest _) (hstep ▸ hmax)
    rw [hstep] at hmax ⊢
    rw [parseDigits, if_neg hne]
    simp only [hval]
    rw [if_neg (by omega), if_neg (by omega)]
    exact ih _ (fun c' hc' => hdigits c' (List.mem_cons_of_mem _ hc')) hmax

theorem ofDigitChars_natDigits (n : Nat) : Nat.ofDigitChars 10 (Nat.toDigits 10 n) 0 = n :=
  Nat.ofDigitChars_toDigits (by decide) (by decide)

theorem parseDigits_toDigits {maxVal n : Nat} (h : n ≤ maxVal) :
    parseDigits 10 maxVal 0 (Nat.toDigits 10 n) = .ok n := by
  have hdigits : ∀ c ∈ Nat.toDigits 10 n, c.isDigit = true := fun c hc =>
    Nat.isDigit_of_mem_toDigits (by decide) (by decide) hc
  have hvalue := ofDigitChars_natDigits n
  rw [parseDigits_of_isDigit _ 0 hdigits (by rw [hvalue]; exact h), hvalue]

/-- A number without a leading zero is decimal. -/
theorem splitBase_of_head {s : List Char} (h : s.head? ≠ some '0') : splitBase s = (10, s) := by
  unfold splitBase
  split
  · exact absurd rfl h
  · exact absurd rfl h
  · rfl

theorem parseUint_toDigits {n : Nat} (h : n < 2 ^ 64) : parseUint (Nat.toDigits 10 n) = .ok n := by
  by_cases hzero : n = 0
  · subst hzero
    decide
  · have hbase := splitBase_of_head (head_toDigits_ne n (Nat.pos_of_ne_zero hzero))
    have hplain : '_' ∉ Nat.toDigits 10 n := Nat.underscore_not_in_toDigits
    unfold parseUint
    rw [if_neg Nat.toDigits_ne_nil, hbase]
    simp only [parseDigits_toDigits (show n ≤ 2 ^ 64 - 1 by omega), hplain, false_and, if_false]

/-- A digit is not a sign. -/
theorem splitSign_toDigits (n : Nat) :
    splitSign (Nat.toDigits 10 n) = (false, Nat.toDigits 10 n) := by
  have hdigits : ∀ c ∈ Nat.toDigits 10 n, c.isDigit = true := fun c hc =>
    Nat.isDigit_of_mem_toDigits (by decide) (by decide) hc
  unfold splitSign
  split
  · rename_i rest heq
    have hplus := hdigits '+' (by rw [heq]; exact List.mem_cons_self)
    exact absurd hplus (by decide)
  · rename_i rest heq
    have hminus := hdigits '-' (by rw [heq]; exact List.mem_cons_self)
    exact absurd hminus (by decide)
  · rfl

/-- **Round trip**: every rendered 64-bit integer is read back. -/
theorem parseInt_toString {n : Int} (hlow : -2 ^ 63 ≤ n) (hhigh : n < 2 ^ 63) :
    parseInt (toString n).toList = .ok n := by
  cases n with
  | ofNat m =>
    have hm : m < 2 ^ 63 := Int.ofNat_lt.mp hhigh
    have htext : (toString (Int.ofNat m)).toList = Nat.toDigits 10 m := toList_toString_natCast m
    have huint := parseUint_toDigits (show m < 2 ^ 64 by omega)
    unfold parseInt
    rw [htext, if_neg Nat.toDigits_ne_nil, splitSign_toDigits]
    simp only [huint, Bool.false_eq_true, if_false]
    rw [if_neg (by omega)]
    rfl
  | negSucc m =>
    have hm : m + 1 ≤ 2 ^ 63 := by omega
    have huint := parseUint_toDigits (show m + 1 < 2 ^ 64 by omega)
    unfold parseInt
    rw [toList_toString_negSucc, if_neg (List.cons_ne_nil _ _), splitSign]
    simp only [huint, if_true]
    rw [if_neg (by omega)]
    rfl

theorem parseInt10_toString {n : Int} (hlow : -2 ^ 63 ≤ n) (hhigh : n < 2 ^ 63) :
    parseInt10 (toString n).toList = .ok n := by
  have hplain (m : Nat) : ¬ (Nat.toDigits 10 m = [] ∨ '_' ∈ Nat.toDigits 10 m) := by
    rw [not_or]
    exact ⟨Nat.toDigits_ne_nil, Nat.underscore_not_in_toDigits⟩
  cases n with
  | ofNat m =>
    have hm : m < 2 ^ 63 := Int.ofNat_lt.mp hhigh
    have htext : (toString (Int.ofNat m)).toList = Nat.toDigits 10 m := toList_toString_natCast m
    unfold parseInt10
    rw [htext, splitSign_toDigits, if_neg (hplain m)]
    simp only [parseDigits_toDigits (show m ≤ 2 ^ 64 - 1 by omega), Bool.false_eq_true, if_false]
    rw [if_neg (by omega)]
    rfl
  | negSucc m =>
    have hm : m + 1 ≤ 2 ^ 63 := by omega
    unfold parseInt10
    rw [toList_toString_negSucc, splitSign, if_neg (hplain (m + 1))]
    simp only [parseDigits_toDigits (show m + 1 ≤ 2 ^ 64 - 1 by omega), if_true]
    rw [if_neg (by omega)]
    rfl

end SandboxProvider.Lib
