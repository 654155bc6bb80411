import Mathlib.Data.List.TakeWhile
import Mathlib.Data.Nat.Prime.Basic
import SandboxProvider.Lib.Float64
import SandboxProvider.Lib.JsonText

/-!
# JSON numbers as floats

`literalValue` is the exact value of a literal as `strconv.ParseFloat` reads it. `exactLiteral` writes
every float and every integer in full, so that its value is read back.
-/

namespace SandboxProvider.Lib

/-! ## The value of a literal -/

/-- `readFloat` stops to count when the exponent has five digits. -/
def readExponent : Nat → List Char → Nat
  | e, [] => e
  | e, c :: rest => readExponent (if e < 10000 then 10 * e + (c.toNat - '0'.toNat) else e) rest

def isExponentMark (c : Char) : Bool := c = 'e' ∨ c = 'E'

def isPoint (c : Char) : Bool := c = '.'

def unsignedValue (literal : List Char) : ℚ :=
  let mantissa := literal.takeWhile (!isExponentMark ·)
  let exponent := splitSign ((literal.dropWhile (!isExponentMark ·)).drop 1)
  let whole := mantissa.takeWhile (!isPoint ·)
  let fraction := (mantissa.dropWhile (!isPoint ·)).drop 1
  let e : ℤ := readExponent 0 exponent.2
  Nat.ofDigitChars 10 (whole ++ fraction) 0 *
    10 ^ ((if exponent.1 then -e else e) - fraction.length)

def literalValue (literal : List Char) : ℚ :=
  if (splitSign literal).1 then -unsignedValue (splitSign literal).2
  else unsignedValue (splitSign literal).2

/-! ## Literals in full -/

/-- The value of an integer or of a fraction whose denominator is a power of two. -/
def exactLiteral (q : ℚ) : List Char :=
  let k := Nat.log 2 q.den
  if k = 0 then (toString q.num).toList
  else (toString (q.num * 5 ^ k)).toList ++ 'e' :: '-' :: Nat.toDigits 10 k

/-! ### What they mean -/

theorem readExponent_eq (digits : List Char) (e : Nat)
    (h : Nat.ofDigitChars 10 digits e < 100000) :
    readExponent e digits = Nat.ofDigitChars 10 digits e := by
  induction digits generalizing e with
  | nil => rfl
  | cons c rest ih =>
    have hstep : Nat.ofDigitChars 10 (c :: rest) e =
        Nat.ofDigitChars 10 rest (10 * e + (c.toNat - '0'.toNat)) := rfl
    rw [hstep] at h ⊢
    have hle := le_ofDigitChars rest (10 * e + (c.toNat - '0'.toNat))
    rw [readExponent, if_pos (by omega)]
    exact ih _ h

/-- A digit is not a mark. -/
theorem isExponentMark_of_isDigit {c : Char} (h : c.isDigit = true) : isExponentMark c = false := by
  simp only [isExponentMark, decide_eq_false_iff_not, not_or]
  constructor <;>
  · rintro rfl
    revert h
    decide

theorem isPoint_of_isDigit {c : Char} (h : c.isDigit = true) : isPoint c = false := by
  simp only [isPoint, decide_eq_false_iff_not]
  rintro rfl
  revert h
  decide

/-- Digits have no mark in them. -/
theorem toDigits_all_not {mark : Char → Bool} (h : ∀ {c : Char}, c.isDigit = true → mark c = false)
    (n : Nat) : ∀ c ∈ Nat.toDigits 10 n, (!mark c) = true := by
  intro c hc
  rw [h (isDigit_of_mem_toDigits hc)]
  rfl

theorem unsignedValue_toDigits (n : Nat) : unsignedValue (Nat.toDigits 10 n) = n := by
  have hmark := toDigits_all_not isExponentMark_of_isDigit n
  have hpoint := toDigits_all_not isPoint_of_isDigit n
  simp only [unsignedValue, List.takeWhile_eq_self_iff.mpr hmark, List.dropWhile_eq_nil_iff.mpr hmark,
    List.takeWhile_eq_self_iff.mpr hpoint, List.dropWhile_eq_nil_iff.mpr hpoint]
  simp [splitSign, readExponent]

theorem unsignedValue_exponent (n : Nat) {k : Nat} (hk : k < 100000) :
    unsignedValue (Nat.toDigits 10 n ++ 'e' :: '-' :: Nat.toDigits 10 k) = n / 10 ^ k := by
  have hmark := toDigits_all_not isExponentMark_of_isDigit n
  have hpoint := toDigits_all_not isPoint_of_isDigit n
  have hstop : (!isExponentMark 'e') = false := rfl
  have hexp : readExponent 0 (Nat.toDigits 10 k) = k := by
    rw [readExponent_eq _ 0 (by rwa [ofDigitChars_natDigits]), ofDigitChars_natDigits]
  simp only [unsignedValue, List.takeWhile_append_of_pos hmark, List.dropWhile_append_of_pos hmark,
    List.takeWhile_cons, List.dropWhile_cons, hstop, Bool.false_eq_true, if_false, List.append_nil,
    List.takeWhile_eq_self_iff.mpr hpoint, List.dropWhile_eq_nil_iff.mpr hpoint]
  simp [splitSign, hexp, div_eq_mul_inv]

theorem splitSign_toDigits_append (n : Nat) (rest : List Char) :
    splitSign (Nat.toDigits 10 n ++ rest) = (false, Nat.toDigits 10 n ++ rest) := by
  cases htext : Nat.toDigits 10 n with
  | nil => exact absurd htext Nat.toDigits_ne_nil
  | cons c digits =>
    have hc : c.isDigit = true := isDigit_of_mem_toDigits (htext ▸ List.mem_cons_self)
    have hminus : c ≠ '-' := by
      rintro rfl
      revert hc
      decide
    have hplus : c ≠ '+' := by
      rintro rfl
      revert hc
      decide
    simp [splitSign, hminus, hplus]

/-- The sign of an integer in front of what its digits mean. -/
theorem literalValue_toString (m : ℤ) {rest : List Char} {v : ℚ}
    (h : ∀ n : Nat, unsignedValue (Nat.toDigits 10 n ++ rest) = n * v) :
    literalValue ((toString m).toList ++ rest) = m * v := by
  cases m with
  | ofNat n =>
    have htext : (toString (Int.ofNat n)).toList = Nat.toDigits 10 n := toList_toString_natCast n
    rw [htext, literalValue, splitSign_toDigits_append]
    simp [h]
  | negSucc n =>
    rw [toList_toString_negSucc]
    simp [literalValue, splitSign, h]
    ring

/-! ### That they are numbers -/

/-- The scanner takes an exponent behind an integer. -/
theorem readNumber_exponent {state : NumberState} (hstate : state = .zero ∨ state = .int) (k : Nat) :
    readNumber state ('e' :: '-' :: Nat.toDigits 10 k) =
      some ('e' :: '-' :: Nat.toDigits 10 k, []) := by
  have hexp : readNumber .expSign (Nat.toDigits 10 k) = some (Nat.toDigits 10 k, []) := by
    have hdigits : ∀ c ∈ Nat.toDigits 10 k, c.isDigit = true := fun c hc =>
      isDigit_of_mem_toDigits hc
    cases htext : Nat.toDigits 10 k with
    | nil => exact absurd htext Nat.toDigits_ne_nil
    | cons c digits =>
      rw [htext] at hdigits
      have hnext {d : Char} (hd : d.isDigit = true) : NumberState.expInt.next d = some .expInt :=
        if_pos hd
      have hrest := next_digits hnext fun d hd => hdigits d (List.mem_cons_of_mem _ hd)
      have hread := readNumber_append_of_next hrest []
      rw [List.append_nil] at hread
      have hfirst : NumberState.expSign.next c = some .expInt := if_pos (hdigits c List.mem_cons_self)
      simp [readNumber, hfirst, hread, NumberState.isEnd]
  rcases hstate with rfl | rfl <;> simp [readNumber, NumberState.next, hexp]

theorem isNumber_exponent (m : ℤ) (k : Nat) :
    IsNumber ((toString m).toList ++ 'e' :: '-' :: Nat.toDigits 10 k) := by
  have hdigits (n : Nat) {state : NumberState} (hstate : state = .start ∨ state = .neg) :
      readNumber state (Nat.toDigits 10 n ++ 'e' :: '-' :: Nat.toDigits 10 k) =
        some (Nat.toDigits 10 n ++ 'e' :: '-' :: Nat.toDigits 10 k, []) := by
    obtain ⟨state', hnext, hend⟩ := next_toDigits n hstate
    rw [readNumber_append_of_next hnext, readNumber_exponent hend]
    rfl
  cases m with
  | ofNat n =>
    have htext : (toString (Int.ofNat n)).toList = Nat.toDigits 10 n := toList_toString_natCast n
    rw [htext]
    exact hdigits n (.inl rfl)
  | negSucc n =>
    have hread := hdigits (n + 1) (.inr rfl)
    rw [toList_toString_negSucc]
    simp [IsNumber, readNumber, NumberState.next, hread]

/-! ### The numbers of Go -/

/-- The value of a float64 or of an int64. -/
def IsGoNumber (q : ℚ) : Prop := Json.IsFloat64 q ∨ ∃ n : ℤ, |n| ≤ 2 ^ 63 ∧ q = n

theorem IsGoNumber.exists_float64 {q : ℚ} (h : IsGoNumber q) : ∃ r, float64 q = some r := by
  rcases h with h | ⟨n, hn, rfl⟩
  · exact ⟨q, float64_of_isFloat64 h⟩
  · refine Lib.exists_float64 ?_
    have hcast : |(n : ℚ)| ≤ 2 ^ (63 : ℤ) := by exact_mod_cast hn
    exact le_trans hcast (zpow_le_zpow_right₀ (by norm_num) (by norm_num))

/-- A float has a power of two as its denominator. -/
theorem IsGoNumber.den {q : ℚ} (h : IsGoNumber q) : ∃ k < 100000, q.den = 2 ^ k := by
  rcases h with ⟨m, e, -, hlow, -, rfl⟩ | ⟨n, -, rfl⟩
  · by_cases he : 0 ≤ e
    · obtain ⟨j, rfl⟩ := Int.eq_ofNat_of_zero_le he
      refine ⟨0, by decide, ?_⟩
      have hint : (m : ℚ) * 2 ^ (j : ℤ) = ((m * 2 ^ j : ℤ) : ℚ) := by
        rw [zpow_natCast]
        push_cast
        rfl
      rw [hint]
      exact Rat.den_intCast _
    · obtain ⟨j, hj⟩ := Int.eq_ofNat_of_zero_le (show 0 ≤ -e by omega)
      have hdiv : (m : ℚ) * 2 ^ e = m / ((2 ^ j : ℤ) : ℚ) := by
        rw [show e = -(j : ℤ) by omega, zpow_neg, zpow_natCast, div_eq_mul_inv]
        push_cast
        rfl
      have hdvd : ((m : ℚ) / ((2 ^ j : ℤ) : ℚ)).den ∣ 2 ^ j := by
        exact_mod_cast Rat.den_dvd m (2 ^ j)
      obtain ⟨k, hk, hden⟩ := (Nat.dvd_prime_pow Nat.prime_two).mp hdvd
      exact ⟨k, by omega, by rw [hdiv]; exact hden⟩
  · exact ⟨0, by decide, Rat.den_intCast n⟩

theorem isNumber_exactLiteral (q : ℚ) : IsNumber (exactLiteral q) := by
  unfold exactLiteral
  dsimp only
  split
  · exact isNumber_toString q.num
  · exact isNumber_exponent _ _

theorem IsGoNumber.literalValue_exactLiteral {q : ℚ} (h : IsGoNumber q) :
    literalValue (exactLiteral q) = q := by
  obtain ⟨k, hk, hden⟩ := h.den
  have hlog : Nat.log 2 q.den = k := by rw [hden]; exact Nat.log_pow (by decide) k
  unfold exactLiteral
  rw [hlog]
  dsimp only
  split
  · rename_i hzero
    rw [hzero, pow_zero] at hden
    have hdigits (n : Nat) : unsignedValue (Nat.toDigits 10 n ++ []) = n * 1 := by
      rw [List.append_nil, unsignedValue_toDigits, mul_one]
    have hvalue := literalValue_toString q.num hdigits
    rw [List.append_nil, mul_one] at hvalue
    rw [hvalue]
    exact Rat.coe_int_num_of_den_eq_one hden
  · have hdigits (n : Nat) :
        unsignedValue (Nat.toDigits 10 n ++ 'e' :: '-' :: Nat.toDigits 10 k) = n * (10 ^ k)⁻¹ := by
      rw [unsignedValue_exponent n hk, div_eq_mul_inv]
    rw [literalValue_toString _ hdigits]
    -- `10 ^ k` cancels against `5 ^ k`
    have hten : (10 : ℚ) ^ k = 5 ^ k * 2 ^ k := by
      rw [← mul_pow]
      norm_num
    calc ((q.num * 5 ^ k : ℤ) : ℚ) * (10 ^ k)⁻¹ = q.num / 2 ^ k := by
          rw [hten]
          push_cast
          field_simp
      _ = q.num / q.den := by rw [hden]; push_cast; rfl
      _ = q := Rat.num_div_den q

end SandboxProvider.Lib
