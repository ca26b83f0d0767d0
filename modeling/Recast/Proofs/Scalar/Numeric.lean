import Recast.Proofs.Number.Comparing
import Recast.Proofs.Number.Estimate
import Recast.Proofs.Scalar.Stability
set_option autoImplicit false

namespace Recast

namespace Value

def IsNumeric : Value → Prop
  | .int _ | .float _ | .bigInt _ | .decimal _ => True
  | _ => False

def number? : Value → Option ℚ
  | .int n => some n.toInt
  | .float x => x.value?
  | .bigInt n => some n
  | .decimal d => some d.value
  | _ => none

def IsDecimal (value : Value) : Prop := ∃ d, value = .decimal d

theorem numeric_of_number {value : Value} {q : ℚ} (given : value.number? = some q) : value.IsNumeric := by
  cases value with
  | int n | float x | bigInt n | decimal d => trivial
  | _ => cases given

end Value

theorem Binary.is_zero_iff {format : Format} (x : Binary format) : x.isZero = true ↔ x.value? = some 0 := by
  cases x with
  | nan | infinite => exact iff_of_false Bool.false_ne_true (Option.some_ne_none 0).symm
  | finite negative significand exponent canonical =>
    have unit : (2 : ℚ) ^ exponent ≠ 0 := by positivity
    cases significand with
    | zero =>
      refine iff_of_true rfl (congrArg some ?_)
      rw [Nat.cast_zero, zero_mul, onSide, neg_zero, ite_self]
    | succ m =>
      refine iff_of_false Bool.false_ne_true fun zero => ?_
      have magnitude := abs_on_side negative (((m + 1 : Nat) : ℚ) * 2 ^ exponent)
      rw [Option.some.inj zero, abs_zero, eq_comm, abs_eq_zero, mul_eq_zero, or_iff_left unit] at magnitude
      exact absurd (Nat.cast_eq_zero.mp magnitude) m.succ_ne_zero

theorem word_zero_iff (n : Int64) : (n.toInt : ℚ) = 0 ↔ n = 0 := by
  rw [Int.cast_eq_zero, ← Int64.toInt_zero, Int64.toInt_inj]

namespace Scalar

variable (config : Config) (target : Descriptor)

theorem read_boolean_number {value : Value} (numeric : value.IsNumeric) (exact : ¬ value.IsDecimal) :
    Scalar.bool.read config value = .ok (.bool (decide (value.number? ≠ some 0))) := by
  cases value with
  | int n =>
    have same : (n != 0) = decide (some (n.toInt : ℚ) ≠ some 0) := by
      rw [Bool.eq_iff_iff, bne_iff_ne, decide_eq_true_iff, Ne, Ne, Option.some_inj, word_zero_iff]
    exact congrArg (fun b => Except.ok (Value.bool b)) same
  | float x =>
    have same : (!x.isZero) = decide (x.value? ≠ some 0) := by
      rw [Bool.eq_iff_iff, Bool.not_eq_true', ← Bool.not_eq_true, x.is_zero_iff, decide_eq_true_iff]
    exact congrArg (fun b => Except.ok (Value.bool b)) same
  | bigInt n =>
    have same : (n != 0) = decide (some (n : ℚ) ≠ some 0) := by
      rw [Bool.eq_iff_iff, bne_iff_ne, decide_eq_true_iff, Ne, Ne, Option.some_inj, Int.cast_eq_zero]
    exact congrArg (fun b => Except.ok (Value.bool b)) same
  | decimal d => exact absurd ⟨d, rfl⟩ exact
  | _ => exact numeric.elim

theorem truth_of_number :
    (∀ value : Value, value.IsNumeric → ¬ value.IsDecimal → ∃ b,
      Scalar.bool.convert config target value = .ok (.bool b) ∧ (b = true ↔ value.number? ≠ some 0)) ∧
    (∀ (value other : Value) (q : ℚ), value.number? = some q → other.number? = some q →
      ¬ value.IsDecimal → ¬ other.IsDecimal →
        Scalar.bool.convert config target value = Scalar.bool.convert config target other) ∧
    (∀ d, Scalar.bool.convert config target (.decimal d) = .error (.reject target (.decimal d) .notBoolean)) := by
  refine ⟨fun value numeric exact => ?_, fun value other q first second exact exactOther => ?_, fun d => rfl⟩
  · exact ⟨_, convert_ok_iff.mpr (read_boolean_number config numeric exact), decide_eq_true_iff⟩
  · have left := read_boolean_number config (Value.numeric_of_number first) exact
    have right := read_boolean_number config (Value.numeric_of_number second) exactOther
    rw [first] at left
    rw [second] at right
    rw [convert_ok_iff.mpr left, convert_ok_iff.mpr right]

theorem negative_zero_is_false :
    let truth := Scalar.bool.convert Config.default Scalar.bool.descriptor
    truth (.float (Binary.zero true)) = truth (.bigInt 0) ∧
      (∃ b, truth (.bigInt 0) = .ok (.bool b) ∧ (b = true ↔ Value.number? (.bigInt 0) ≠ some 0)) ∧
      ∃ b, truth (.float .nan) = .ok (.bool b) ∧ (b = true ↔ Value.number? (.float .nan) ≠ some 0) := by
  intro truth
  obtain ⟨each, alike, -⟩ := truth_of_number Config.default Scalar.bool.descriptor
  have zero : Value.number? (.float (Binary.zero true)) = some 0 := Binary.zero_value true
  have exact {value : Value} (other : ∀ d, value ≠ .decimal d) : ¬ value.IsDecimal := not_exists.mpr other
  exact ⟨alike _ _ 0 zero (congrArg some Int.cast_zero) (exact nofun) (exact nofun),
    each _ trivial (exact nofun), each _ trivial (exact nofun)⟩

theorem decimal_five_refused :
    Value.number? (.decimal ⟨5, 0⟩) = some 5 ∧
      Scalar.bool.convert Config.default Scalar.bool.descriptor (.int 5) = .ok (.bool true) ∧
      Scalar.bool.convert Config.default Scalar.bool.descriptor (.decimal ⟨5, 0⟩) =
        .error (.reject Scalar.bool.descriptor (.decimal ⟨5, 0⟩) .notBoolean) := by
  refine ⟨congrArg some ?_, rfl, rfl⟩
  rw [Decimal.value, neg_zero, zpow_zero, mul_one]
  rfl

section

variable {config target} {x : Double}

theorem truncate_none_iff : x.truncate? = none ↔ x.isFinite = false := by
  cases x with
  | nan | infinite => exact iff_of_true rfl rfl
  | finite negative significand exponent canonical => exact iff_of_false nofun nofun

theorem big_integer_of_float : Scalar.bigInteger.convert config target (.float x) =
    match x.truncate? with
    | some n => .ok (.bigInt n)
    | none => .error (.reject target (.float x) .notNumber) := by
  have given : Value.isBlank (.float x) = false := rfl
  simp only [convert, read, toBigInteger, given, Bool.false_eq_true, if_false, Binary.truncate_trunc]
  cases x with
  | nan | infinite => rfl
  | finite negative significand exponent canonical => rfl

theorem word_of_float : (Scalar.int .bits64).convert config target (.float x) =
    match x.truncate?.bind Numeral.toWord? with
    | some n => .ok (.int n)
    | none => .error (.reject target (.float x) .notInteger) := by
  have given : Value.isBlank (.float x) = false := rfl
  have fits (n : Int64) : inWidth .bits64 n = .ok (.int n) := in_width_within (word_in_range n)
  simp only [convert, read, toInteger, given, Bool.false_eq_true, if_false, word, Literal.float_word_eq]
  cases x.truncate?.bind Numeral.toWord? with
  | none => rfl
  | some n => simp only [fits]

theorem big_integer_of_float_iff {n : Int} :
    Scalar.bigInteger.convert config target (.float x) = .ok (.bigInt n) ↔ x.truncate? = some n := by
  rw [big_integer_of_float]
  cases x.truncate? with
  | none => exact iff_of_false nofun nofun
  | some m => rw [Except.ok.injEq, Value.bigInt.injEq, Option.some_inj]

theorem big_integer_refused_iff :
    Scalar.bigInteger.convert config target (.float x) = .error (.reject target (.float x) .notNumber) ↔
      x.isFinite = false := by
  rw [big_integer_of_float, ← truncate_none_iff]
  cases x.truncate? with
  | none => exact iff_of_true rfl rfl
  | some n => exact iff_of_false nofun nofun

theorem word_of_float_iff {out : Value} : (Scalar.int .bits64).convert config target (.float x) = .ok out ↔
    ∃ n, x.truncate? = some n ∧ (-2 ^ 63 ≤ n ∧ n < 2 ^ 63) ∧ out = .int (Int64.ofInt n) := by
  rw [word_of_float]
  cases x.truncate? with
  | none => exact iff_of_false nofun nofun
  | some n =>
    rw [Option.bind_some]
    by_cases within : -2 ^ 63 ≤ n ∧ n < 2 ^ 63
    · rw [to_word_some within.1 within.2]
      constructor
      · rintro ⟨⟩
        exact ⟨n, rfl, within, rfl⟩
      · rintro ⟨_, ⟨⟩, -, rfl⟩
        rfl
    · rw [to_word_none (n := n) (by omega)]
      refine iff_of_false nofun ?_
      rintro ⟨_, ⟨⟩, inside, -⟩
      exact within inside

theorem word_refused_iff :
    (Scalar.int .bits64).convert config target (.float x) = .error (.reject target (.float x) .notInteger) ↔
      ∀ out, (Scalar.int .bits64).convert config target (.float x) ≠ .ok out := by
  rw [word_of_float]
  cases x.truncate?.bind Numeral.toWord? with
  | none => exact iff_of_true rfl nofun
  | some n => exact iff_of_false nofun fun never => never _ rfl

end

theorem float_cut_alike (x : Double) :
    (∀ out, Scalar.bigInteger.convert config target (.float x) = .ok out ↔
      ∃ q, x.value? = some q ∧ out = .bigInt (towardZero q)) ∧
    (∀ out, (Scalar.int .bits64).convert config target (.float x) = .ok out ↔
      ∃ n : Int, Scalar.bigInteger.convert config target (.float x) = .ok (.bigInt n) ∧
        (-2 ^ 63 ≤ n ∧ n < 2 ^ 63) ∧ out = .int (Int64.ofInt n)) ∧
    (Scalar.bigInteger.convert config target (.float x) = .error (.reject target (.float x) .notNumber) ↔
      x.isFinite = false) ∧
    ((Scalar.int .bits64).convert config target (.float x) = .error (.reject target (.float x) .notInteger) ↔
      ¬ ∃ n : Int, Scalar.bigInteger.convert config target (.float x) = .ok (.bigInt n) ∧ -2 ^ 63 ≤ n ∧ n < 2 ^ 63) := by
  simp only [big_integer_of_float_iff]
  refine ⟨fun out => ?_, fun out => word_of_float_iff, big_integer_refused_iff, ?_⟩
  · rw [big_integer_of_float, Binary.truncate_eq]
    cases x.value? with
    | none => exact iff_of_false nofun nofun
    | some q =>
      constructor
      · rintro ⟨⟩
        exact ⟨q, rfl, rfl⟩
      · rintro ⟨_, ⟨⟩, rfl⟩
        rfl
  · rw [word_refused_iff]
    constructor
    · rintro refused ⟨n, cut, within⟩
      exact refused _ (word_of_float_iff.mpr ⟨n, cut, within, rfl⟩)
    · intro never out accepted
      obtain ⟨n, cut, within, -⟩ := word_of_float_iff.mp accepted
      exact never ⟨n, cut, within⟩

end Scalar

end Recast
