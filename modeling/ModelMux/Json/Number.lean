/-
The values of JSON number tokens.

`JSON.parse` reads a token as the IEEE double nearest to its exact decimal
value, with ties to even.  Finite values are rationals and a token may also
be read as an infinity.  Decimal integers below 2^53 are read back exactly.
-/

import ModelMux.Json.Canonical
import Mathlib.Data.Int.Log
import Mathlib.Data.Rat.Floor

namespace ModelMux

inductive JsNumber where
  | finite (value : ℚ)
  | infinite (negative : Bool)
  | notANumber
deriving DecidableEq

namespace JsNumber

def roundHalfEven (value : ℚ) : ℤ :=
  if value - ⌊value⌋ < 1 / 2 then ⌊value⌋
  else if 1 / 2 < value - ⌊value⌋ then ⌊value⌋ + 1
  else if ⌊value⌋ % 2 = 0 then ⌊value⌋
  else ⌊value⌋ + 1

/-- Exponent of the last place of the double nearest to a positive value. -/
def lastPlace (magnitude : ℚ) : ℤ := max (Int.log 2 magnitude - 52) (-1074)

def roundMagnitude (magnitude : ℚ) : ℚ :=
  roundHalfEven (magnitude / 2 ^ lastPlace magnitude) * 2 ^ lastPlace magnitude

def ofRational (value : ℚ) : JsNumber :=
  if value = 0 then .finite 0
  else if 2 ^ 1024 ≤ roundMagnitude |value| then .infinite (value < 0)
  else .finite (if value < 0 then -roundMagnitude |value| else roundMagnitude |value|)

def isFinite : JsNumber → Bool
  | .finite _ => true
  | .infinite _ => false
  | .notANumber => false

/-- `left < right`, false where one of them is not a number. -/
def lessThan : JsNumber → JsNumber → Bool
  | .finite left, .finite right => left < right
  | .finite _, .infinite negative => !negative
  | .infinite negative, .finite _ => negative
  | .infinite left, .infinite right => left && !right
  | .notANumber, _ => false
  | _, .notANumber => false

def atMost (left right : JsNumber) : Bool :=
  left.lessThan right || (left = right && left ≠ .notANumber)

def isInteger : JsNumber → Bool
  | .finite value => value.den = 1
  | .infinite _ => false
  | .notANumber => false

def isSafeInteger : JsNumber → Bool
  | .finite value => value.den = 1 && |value.num| ≤ 9007199254740991
  | .infinite _ => false
  | .notANumber => false

theorem roundHalfEven_intCast (value : ℤ) : roundHalfEven (value : ℚ) = value := by
  unfold roundHalfEven
  rw [Int.floor_intCast]
  norm_num

theorem roundMagnitude_natCast {value : ℕ} (small : value < 2 ^ 53) :
    roundMagnitude (value : ℚ) = value := by
  have place : lastPlace (value : ℚ) ≤ 0 := by
    unfold lastPlace
    rw [Int.log_natCast]
    have bound : Nat.log 2 value ≤ 52 := by
      by_contra large
      have big : 2 ^ 53 ≤ value := by
        have positive : value ≠ 0 := by
          intro zero
          simp [zero] at large
        exact (Nat.pow_le_pow_right (by norm_num) (by omega)).trans
          (Nat.pow_log_le_self 2 positive)
      omega
    omega
  obtain ⟨shift, shiftEq⟩ := Int.exists_eq_neg_ofNat place
  unfold roundMagnitude
  rw [shiftEq, zpow_neg, zpow_natCast, div_inv_eq_mul]
  have scaled : (value : ℚ) * 2 ^ shift = ((value * 2 ^ shift : ℤ) : ℚ) := by push_cast; rfl
  rw [scaled, roundHalfEven_intCast]
  push_cast
  have nonzero : (2 : ℚ) ^ shift ≠ 0 := by positivity
  rw [mul_assoc, mul_inv_cancel₀ nonzero, mul_one]

theorem ofRational_natCast {value : ℕ} (small : value < 2 ^ 53) :
    ofRational (value : ℚ) = .finite value := by
  unfold ofRational
  by_cases zero : (value : ℚ) = 0
  · rw [if_pos zero, zero]
  · have rounded : roundMagnitude |(value : ℚ)| = value := by
      rw [Nat.abs_cast, roundMagnitude_natCast small]
    have bounded : (value : ℚ) < 2 ^ 1024 := by
      have cast : (value : ℚ) < 2 ^ 53 := by exact_mod_cast small
      exact cast.trans (pow_lt_pow_right₀ (by norm_num) (by norm_num))
    have nonnegative : ¬(value : ℚ) < 0 := not_lt.mpr (Nat.cast_nonneg value)
    rw [if_neg zero, rounded, if_neg (not_le.mpr bounded), if_neg nonnegative]

end JsNumber

namespace Json

/-! ### Reading a token -/

structure Reading where
  phase : NumberPhase
  negative : Bool
  mantissa : Nat
  scale : Nat
  exponentNegative : Bool
  exponent : Nat

namespace Reading

def start : Reading := ⟨.start, false, 0, 0, false, 0⟩

def push (reading : Reading) (unit : CodeUnit) : Reading :=
  match reading.phase.next unit with
  | none => reading
  | some .sign => { reading with phase := .sign, negative := true }
  | some .fraction =>
      { reading with
        phase := .fraction
        mantissa := 10 * reading.mantissa + unit.digitValue
        scale := reading.scale + 1 }
  | some .exponentSign =>
      { reading with phase := .exponentSign, exponentNegative := unit = 0x2D }
  | some .exponent =>
      { reading with phase := .exponent, exponent := 10 * reading.exponent + unit.digitValue }
  | some .zero =>
      { reading with phase := .zero, mantissa := 10 * reading.mantissa + unit.digitValue }
  | some .integer =>
      { reading with phase := .integer, mantissa := 10 * reading.mantissa + unit.digitValue }
  | some phase => { reading with phase := phase }

def value (reading : Reading) : ℚ :=
  (if reading.negative then -1 else 1) * reading.mantissa *
    10 ^ ((if reading.exponentNegative then -(reading.exponent : ℤ) else reading.exponent) -
      reading.scale)

end Reading

def NumberToken.value (token : NumberToken) : JsNumber :=
  .ofRational (token.text.foldl Reading.push Reading.start).value

/-! ### Decimal integers -/

def decimalUnits (value : Nat) : JsString :=
  if value < 10 then [CodeUnit.ofDigit value]
  else decimalUnits (value / 10) ++ [CodeUnit.ofDigit (value % 10)]

theorem ofDigit_ne_zero {digit : Nat} (positive : 0 < digit) (small : digit < 10) :
    CodeUnit.ofDigit digit ≠ 0x30 := by
  have all : ∀ candidate : Fin 10, 0 < candidate.val →
      CodeUnit.ofDigit candidate.val ≠ 0x30 := by decide
  exact all ⟨digit, small⟩ positive

theorem numberPhase_append (phase : NumberPhase) (left right : JsString) :
    numberPhase phase (left ++ right) =
      (numberPhase phase left).bind (fun middle => numberPhase middle right) := by
  induction left generalizing phase with
  | nil => rfl
  | cons unit rest ih =>
      rw [List.cons_append, numberPhase, numberPhase]
      cases phase.next unit with
      | none => rfl
      | some following => exact ih following

theorem numberPhase_decimalUnits {phase : NumberPhase} {value : Nat} (positive : 0 < value)
    (begins : phase = .start ∨ phase = .sign) :
    numberPhase phase (decimalUnits value) = some .integer := by
  induction value using decimalUnits.induct with
  | case1 value small =>
      rw [decimalUnits, if_pos small]
      rcases begins with rfl | rfl <;>
        simp [numberPhase, NumberPhase.next, CodeUnit.isDigit_ofDigit small,
          ofDigit_ne_zero positive small]
  | case2 value large ih =>
      rw [decimalUnits, if_neg large, numberPhase_append, ih (by omega)]
      have digit : value % 10 < 10 := Nat.mod_lt _ (by norm_num)
      simp [numberPhase, NumberPhase.next, CodeUnit.isDigit_ofDigit digit]

theorem isNumber_decimalUnits (value : Nat) : isNumber (decimalUnits value) = true := by
  by_cases zero : value = 0
  · subst zero
    rw [decimalUnits]
    decide
  · rw [isNumber, numberPhase_decimalUnits (by omega) (Or.inl rfl)]
    rfl

theorem isNumber_negative (value : Nat) :
    isNumber (0x2D :: decimalUnits (value + 1)) = true := by
  have signed : numberPhase .start (0x2D :: decimalUnits (value + 1)) =
      numberPhase .sign (decimalUnits (value + 1)) := rfl
  rw [isNumber, signed, numberPhase_decimalUnits (by omega) (Or.inr rfl)]
  rfl

def integerToken : ℤ → NumberToken
  | .ofNat value => ⟨decimalUnits value, isNumber_decimalUnits value⟩
  | .negSucc value => ⟨0x2D :: decimalUnits (value + 1), isNumber_negative value⟩

theorem foldl_push_decimalUnits {value : Nat} (positive : 0 < value) :
    (decimalUnits value).foldl Reading.push Reading.start =
      ⟨.integer, false, value, 0, false, 0⟩ := by
  induction value using decimalUnits.induct with
  | case1 value small =>
      rw [decimalUnits, if_pos small]
      simp [Reading.push, Reading.start, NumberPhase.next, CodeUnit.isDigit_ofDigit small,
        ofDigit_ne_zero positive small, CodeUnit.digitValue_ofDigit small]
  | case2 value large ih =>
      have digit : value % 10 < 10 := Nat.mod_lt _ (by norm_num)
      rw [decimalUnits, if_neg large, List.foldl_append, ih (by omega)]
      simp only [List.foldl_cons, List.foldl_nil, Reading.push, NumberPhase.next,
        CodeUnit.isDigit_ofDigit digit, CodeUnit.digitValue_ofDigit digit, if_true]
      congr 1
      omega

theorem integerToken_value {value : ℤ} (positive : 0 < value) (small : value < 2 ^ 53) :
    (integerToken value).value = .finite value := by
  obtain ⟨magnitude, rfl⟩ := Int.eq_ofNat_of_zero_le positive.le
  have read : (integerToken magnitude).value =
      .ofRational ((decimalUnits magnitude).foldl Reading.push Reading.start).value := rfl
  rw [read, foldl_push_decimalUnits (by omega)]
  have exact : (⟨.integer, false, magnitude, 0, false, 0⟩ : Reading).value = (magnitude : ℚ) := by
    simp [Reading.value]
  rw [exact, JsNumber.ofRational_natCast (by omega)]
  simp

theorem isSafeInteger_intCast {value : ℤ} (positive : 0 < value) (small : value < 2 ^ 53) :
    (JsNumber.finite (value : ℚ)).isSafeInteger = true := by
  have magnitude : |value| = value := abs_of_pos positive
  simp only [JsNumber.isSafeInteger, Rat.den_intCast, Rat.num_intCast, magnitude, decide_true,
    Bool.true_and, decide_eq_true_eq]
  omega

end Json

end ModelMux
