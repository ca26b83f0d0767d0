import Recast.Proofs.Number.SingleLimit
import Recast.Proofs.Scalar.Narrowing
import Recast.Proofs.Scalar.Solid
import Recast.Proofs.Scalar.Stability
set_option autoImplicit false

/-!
Finite numbers as floats of the narrower format. What is beyond its range is refused, but the range is tested after the
number has become a double, and infinities pass the test. So a number beyond the doubles is infinite in either format,
and so is a decimal, however small, with too many places behind the point.
-/

namespace Recast.Scalar

open Binary

-- What denotes a finite number: integers and truth values, decimals whose bits a word counts, finite floats, and text
-- that is a number as it is written, once padding and grouping are removed.
inductive Amount (config : Config) : Value → ℚ → Prop where
  | exact {value : Value} {q : ℚ} (denotes : Denotes value q)
      (counted : ∀ d, value = .decimal d → bitLength d.mantissa.natAbs < 2 ^ 64) : Amount config value q
  | float {x : Double} {q : ℚ} (given : x.value? = some q) : Amount config (.float x) q
  | text {text : String} (literal : Writing) (written : Literal.ungrouped (config.prepare text) = literal.chars) :
      Amount config (.str text) literal.value

def slack : Value → ℚ
  | .decimal d => if d.scale = 0 then 0 else 1 / 2 ^ 40
  | _ => 0

def IsFine (value : Value) : Prop := ∃ d, value = .decimal d ∧ d.IsFine

structure Lands (value : Value) (q : ℚ) (x : Double) : Prop where
  shows : ¬ IsFine value → Shows (slack value) q x
  lost : IsFine value → |q| < 1 ∧ x = .infinite (decide (q < 0))

variable {config : Config} {target : Descriptor} {value : Value} {q : ℚ} {x : Double}

theorem lands_nearest (nearest : IsNearest q x) (once : slack value = 0) (coarse : ¬ IsFine value) : Lands value q x :=
  ⟨fun _ => by rw [once]; exact nearest.shows, fun fine => absurd fine coarse⟩

theorem lands_decimal {d : Decimal} (counted : bitLength d.mantissa.natAbs < 2 ^ 64) :
    Lands (.decimal d) d.value d.toBinary := by
  refine ⟨fun coarse => ?_, fun fine => ?_⟩
  · have near : ¬ d.IsFine := fun fine => coarse ⟨d, rfl, fine⟩
    rw [slack]
    by_cases whole : d.scale = 0
    · rw [if_pos whole]
      exact (Decimal.to_binary_nearest (.inr whole)).shows
    · rw [if_neg whole]
      exact (Decimal.to_binary_close counted near).shows
  · obtain ⟨_, ⟨⟩, fine⟩ := fine
    exact ⟨Decimal.fine_below_one fine, Decimal.to_binary_of_fine fine⟩

theorem literal_not_blank {text : String} (literal : Writing)
    (written : Literal.ungrouped (config.prepare text) = literal.chars) : Text.isBlank text = false := by
  obtain ⟨c, rest, first, -⟩ := literal.unsigned_head
  have inside : c ∈ literal.chars := by
    rw [Writing.chars, first]
    exact List.mem_append_right _ List.mem_cons_self
  have solid := literal.unspaced c inside
  rw [← written] at inside
  exact (Text.is_blank_false_iff text).mpr ⟨c, config.mem_prepare (List.mem_of_mem_filter inside), solid⟩

theorem double_of_amount (amount : Amount config value q) :
    value.isBlank = false ∧ ∃ x, double config value = .ok (some x) ∧ Lands value q x := by
  cases amount with
  | exact denotes counted =>
    refine ⟨denotes.not_blank, ?_⟩
    cases denotes with
    | int n => exact ⟨_, rfl, lands_nearest (of_int_is_nearest _) rfl nofun⟩
    | bool b =>
      rw [word_of_bool_value]
      exact ⟨_, rfl, lands_nearest (of_int_is_nearest _) rfl nofun⟩
    | bigInt n => exact ⟨_, rfl, lands_nearest (of_int_is_nearest n) rfl nofun⟩
    | decimal d low high => exact ⟨_, rfl, lands_decimal (counted d rfl)⟩
  | float given => exact ⟨rfl, _, rfl, lands_nearest (nearest_of_value given) rfl nofun⟩
  | text literal written =>
    obtain ⟨x, read, nearest⟩ : ∃ x : Double, _ := literal.float_nearest
    rw [← written] at read
    exact ⟨literal_not_blank literal written, x, congrArg Except.ok read, lands_nearest nearest rfl nofun⟩

theorem in_format_beyond {v : ℚ} (given : x.value? = some v) (beyond : Format.singleTop < |v|) :
    inFormat .single x = .error .beyondSingle := by
  rw [inFormat, if_pos ((exceeds_single_iff given).mpr beyond)]

theorem in_format_within {v : ℚ} (given : x.value? = some v) (within : |v| ≤ Format.singleTop) :
    ∃ y : Double, inFormat .single x = .ok (.float y) ∧ y.isFinite = true := by
  rw [inFormat, if_neg (mt (exceeds_single_iff given).mp within.not_gt)]
  exact ⟨_, rfl, to_single_finite given within⟩

-- Of the three that a double can be, only infinities pass the test without being tested.
theorem in_format_of_shows {part : ℚ} (shows : Shows part q x) :
    (|q| < Format.double.overflow * (1 - part) →
      (∃ y : Double, inFormat .single x = .ok (.float y) ∧ y.isFinite = true) ∨
        inFormat .single x = .error .beyondSingle) ∧
    (|q| ≤ Format.singleLimit * (1 - part) →
      ∃ y : Double, inFormat .single x = .ok (.float y) ∧ y.isFinite = true) ∧
    (Format.singleLimit * (1 + part) < |q| →
      inFormat .single x = .error .beyondSingle ∨
        Format.double.overflow * (1 - part) ≤ |q| ∧
          inFormat .single x = .ok (.float (.infinite (decide (q < 0))))) ∧
    (Format.double.overflow * (1 + part) ≤ |q| →
      inFormat .single x = .ok (.float (.infinite (decide (q < 0))))) := by
  have passed (none : x.value? = none) : inFormat .single x = .ok (.float (.infinite (decide (q < 0)))) := by
    rw [shows.side none]
    rfl
  refine ⟨fun below => ?_, fun near => ?_, fun far => ?_, fun beyond => passed (shows.infinite beyond)⟩
  · obtain ⟨v, given⟩ := shows.finite below
    rcases le_or_gt |v| Format.singleTop with within | beyond
    · exact .inl (in_format_within given within)
    · exact .inr (in_format_beyond given beyond)
  · obtain ⟨v, given, within⟩ := shows.within near
    exact in_format_within given within
  · cases given : x.value? with
    | none =>
      refine .inr ⟨not_lt.mp fun below => ?_, passed given⟩
      obtain ⟨v, other⟩ := shows.finite below
      rw [given] at other
      cases other
    | some v => exact .inl (in_format_beyond given (shows.beyond far v given))

theorem single_of_amount (amount : Amount config value q) : ∃ x : Double, Lands value q x ∧
    (Scalar.float .single).read config value = inFormat .single x := by
  obtain ⟨visible, x, read, lands⟩ := double_of_amount amount
  refine ⟨x, lands, ?_⟩
  rw [Scalar.read, toFloat, visible, if_neg Bool.false_ne_true, read]

theorem single_range (amount : Amount config value q) :
    let outcome := (Scalar.float .single).convert config target value
    (¬ IsFine value →
      (|q| < Format.double.overflow * (1 - slack value) →
        (∃ x : Double, outcome = .ok (.float x) ∧ x.isFinite = true) ∨
          outcome = .error (.reject target value .beyondSingle)) ∧
      (|q| ≤ Format.singleLimit * (1 - slack value) →
        ∃ x : Double, outcome = .ok (.float x) ∧ x.isFinite = true) ∧
      (Format.singleLimit * (1 + slack value) < |q| →
        outcome = .error (.reject target value .beyondSingle) ∨
          Format.double.overflow * (1 - slack value) ≤ |q| ∧
            outcome = .ok (.float (.infinite (decide (q < 0))))) ∧
      (Format.double.overflow * (1 + slack value) ≤ |q| →
        outcome = .ok (.float (.infinite (decide (q < 0)))))) ∧
    (IsFine value → |q| < 1 ∧ outcome = .ok (.float (.infinite (decide (q < 0))))) := by
  intro outcome
  obtain ⟨x, lands, read⟩ := single_of_amount amount
  have refused : outcome = .error (.reject target value .beyondSingle) ↔ inFormat .single x = .error .beyondSingle := by
    rw [← read]
    exact convert_reject_iff
  have given (out : Value) : outcome = .ok out ↔ inFormat .single x = .ok out := by
    rw [← read]
    exact convert_ok_iff
  simp only [given, refused]
  refine ⟨fun coarse => in_format_of_shows (lands.shows coarse), fun fine => ?_⟩
  obtain ⟨small, lost⟩ := lands.lost fine
  rw [lost]
  exact ⟨small, rfl⟩

theorem amount_of_power {text : String} (sign : Sign) {digits : List Char} {n : Nat}
    (run : ∀ c ∈ digits, c.isDigit = true) (nonempty : digits ≠ []) (power : Numeral.value digits = n)
    (written : Literal.ungrouped (config.prepare text) = sign.chars ++ '1' :: 'e' :: digits) :
    Amount config (.str text) (onSide sign.isMinus (10 ^ n)) := by
  let literal : Writing :=
    ⟨sign, ['1'], none, some ⟨'e', .bare, digits, rfl, run, nonempty⟩, List.all_eq_true.mp rfl, List.cons_ne_nil _ _⟩
  have place : literal.power - literal.places = n := (sub_zero _).trans (congrArg Nat.cast power)
  have one : Numeral.value literal.digits = 1 := show Numeral.value ['1'] = 1 by decide
  have value : literal.value = onSide sign.isMinus (10 ^ n) := by
    rw [Writing.value, place, one, Nat.cast_one, one_mul, zpow_natCast]
  rw [← value]
  exact .text literal written

theorem duodecillions_refused :
    let outcome := (Scalar.float .single).convert Config.default (Scalar.float .single).descriptor
    (Amount Config.default (.str "-1e39") (-10 ^ 39) ∧
      outcome (.str "-1e39") = .error (.reject (Scalar.float .single).descriptor (.str "-1e39") .beyondSingle)) ∧
    IsFine (.decimal ⟨-1, 3000000000⟩) ∧ |Decimal.value ⟨-1, 3000000000⟩| < 1 ∧
      outcome (.decimal ⟨-1, 3000000000⟩) = .ok (.float (.infinite true)) := by
  intro outcome
  have text : Amount Config.default (.str "-1e39") (-10 ^ 39) := by
    have digits : ∀ c ∈ ['3', '9'], c.isDigit = true := List.all_eq_true.mp rfl
    exact amount_of_power .minus digits (List.cons_ne_nil _ _) (by decide) (by decide)
  have fine : IsFine (.decimal ⟨-1, 3000000000⟩) := ⟨_, rfl, by decide, by decide⟩
  have decimal : Amount Config.default (.decimal ⟨-1, 3000000000⟩) (Decimal.value ⟨-1, 3000000000⟩) := by
    refine .exact (.decimal _ (by decide) (by decide)) fun d same => ?_
    cases same
    decide
  have negative : Decimal.value ⟨-1, 3000000000⟩ < 0 :=
    mul_neg_of_neg_of_pos (Int.cast_lt_zero.mpr (by decide)) (zpow_pos (by norm_num) _)
  have size : |(-10 ^ 39 : ℚ)| = 10 ^ 39 := by rw [abs_neg, abs_of_pos (by positivity)]
  have coarse : ¬ IsFine (.str "-1e39") := by
    rintro ⟨d, same, -⟩
    cases same
  have once : slack (.str "-1e39") = 0 := rfl
  have great := overflow_great
  have beyond : Format.singleLimit < 10 ^ 39 := by
    rw [Format.singleLimit, Format.singleTop]
    norm_num
  obtain ⟨-, -, far, -⟩ := (single_range text).1 coarse
  obtain ⟨small, lost⟩ := (single_range decimal).2 fine
  rw [size, once, sub_zero, add_zero, mul_one, mul_one] at far
  rw [decide_eq_true negative] at lost
  exact ⟨⟨text, (far beyond).resolve_right fun both => by linarith [both.1]⟩, fine, small, lost⟩

theorem great_power_infinite :
    Amount Config.default (.str "1e400") (10 ^ 400) ∧
      (Scalar.float .single).convert Config.default (Scalar.float .single).descriptor (.str "1e400") =
        .ok (.float (.infinite false)) := by
  have digits : ∀ c ∈ ['4', '0', '0'], c.isDigit = true := List.all_eq_true.mp rfl
  exact ⟨amount_of_power .bare digits (List.cons_ne_nil _ _) (by decide) (by decide), rfl⟩

end Recast.Scalar
