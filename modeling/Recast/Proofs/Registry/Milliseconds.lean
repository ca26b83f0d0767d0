import Recast.Proofs.Registry.ThroughText
import Recast.Proofs.Time.Iso
set_option autoImplicit false

namespace Recast

namespace Duration

theorem milliseconds_floor (d : Duration) : (d.milliseconds : Int) = ⌊(d.nanoseconds : ℚ) / 10 ^ 6⌋ := by
  have quotient : ⌊(d.nanoseconds : ℚ) / (10 ^ 6 : Nat)⌋ = (d.nanoseconds / 10 ^ 6 : Nat) :=
    Rat.floor_natCast_div_natCast d.nanoseconds (10 ^ 6)
  rw [milliseconds, ← quotient, Nat.cast_pow, Nat.cast_ofNat]

theorem milliseconds_of_milliseconds (n : Nat) : (ofMilliseconds n).milliseconds = n :=
  Nat.mul_div_cancel n (by decide)

theorem read_iso_number (n : Int) : readIso? (Numeral.text n) = none := by
  by_contra read
  obtain ⟨d, read⟩ := Option.ne_none_iff_exists'.mp read
  obtain ⟨mark, date, begins, rest⟩ := read_iso_some read
  have present : mark ∈ Numeral.toChars n := by
    rw [← Numeral.text_to_list]
    rcases rest with ⟨same, -⟩ | ⟨_, _, -, -, same, -⟩ <;> simp [same]
  rcases begins with rfl | rfl <;> exact Numeral.not_mem_to_chars n rfl (by decide) present

end Duration

namespace DateTime

variable {n : Int}

theorem milliseconds_of_milliseconds {t : DateTime} (given : ofMilliseconds? n = some t) : t.milliseconds = n := by
  simp only [ofMilliseconds?, Option.ite_none_right_eq_some, Option.some.injEq] at given
  obtain ⟨-, rfl⟩ := given
  simp only [milliseconds, Nat.mul_div_cancel _ (show 0 < 10 ^ 6 by decide)]
  omega

theorem of_milliseconds_iff : (∃ t, ofMilliseconds? n = some t) ↔
    Calendar.leastDay * 86400000 ≤ n ∧ n < (Calendar.greatestDay + 1) * 86400000 := by
  simp only [ofMilliseconds?, Option.ite_none_right_eq_some, Option.some.injEq, exists_and_left, exists_eq',
    and_true]
  omega

end DateTime

namespace Scalar

variable {config : Config} {value out : Value}

section

variable (written : value.isBlank = false) {n : Int} (whole : word config value = .ok (Numeral.toWord? n))

include written whole

theorem read_whole_ok_iff : (Scalar.int .bits64).read config value = .ok out ↔
    ∃ word : Int64, out = .int word ∧ word.toInt = n := by
  simp only [← to_word_iff, read, toInteger, written, whole, Bool.false_eq_true, if_false]
  cases Numeral.toWord? n with
  | none => simp
  | some word => simp [in_width_within (word_in_range word), @eq_comm Value out]

theorem read_whole_error_iff : (∃ reason, (Scalar.int .bits64).read config value = .error reason) ↔
    n < -2 ^ 63 ∨ 2 ^ 63 ≤ n := by
  rw [← to_word_none_iff]
  simp only [read, toInteger, written, whole, Bool.false_eq_true, if_false]
  cases Numeral.toWord? n with
  | none => simp
  | some word => simp [in_width_within (word_in_range word)]

end

theorem millisecond_text {n : Int} (nonneg : 0 ≤ n) (fits : n < 2 ^ 63) :
    millisecondText? (Numeral.text n) = some (Duration.ofMilliseconds n.toNat) := by
  rw [millisecondText?, Numeral.read_own_text le_rfl nonneg (by omega)]

theorem read_duration_number (n : Int64) : Scalar.duration.read config (.int n) =
    if 0 ≤ n.toInt then .ok (.duration (Duration.ofMilliseconds n.toInt.toNat)) else .error .notDuration := by
  simp only [read, toDuration, Value.isBlank, Bool.false_eq_true, if_false]
  split <;> rfl

theorem read_duration_digits {n : Int} (nonneg : 0 ≤ n) (fits : n < 2 ^ 63) :
    Scalar.duration.read config (.str (Numeral.text n)) = .ok (.duration (Duration.ofMilliseconds n.toNat)) := by
  have written : Value.isBlank (.str (Numeral.text n)) = false := Numeral.text_not_blank n
  simp [read, toDuration, written, config.prepare_solid (Numeral.text_solid n), Duration.read_iso_number,
    millisecond_text nonneg fits, found]

theorem read_instant_ok_iff (n : Int64) : Scalar.dateTime.read config (.int n) = .ok out ↔
    ∃ t, DateTime.ofMilliseconds? n.toInt = some t ∧ out = .dateTime t := by
  simp only [read, toDateTime, Value.isBlank, Bool.false_eq_true, if_false]
  cases DateTime.ofMilliseconds? n.toInt with
  | none => simp [found]
  | some t => simp [found, @eq_comm Value out]

theorem word_of_instant {t : DateTime} {n : Int64} (given : DateTime.ofMilliseconds? n.toInt = some t) :
    (Scalar.int .bits64).read config (.dateTime t) = .ok (.int n) :=
  (read_whole_ok_iff rfl rfl).mpr ⟨n, rfl, (DateTime.milliseconds_of_milliseconds given).symm⟩

theorem word_of_span_iff {d : Duration} : (Scalar.int .bits64).read config (.duration d) = .ok out ↔
    ∃ n : Int64, out = .int n ∧ n.toInt = ⌊(d.nanoseconds : ℚ) / 10 ^ 6⌋ := by
  rw [read_whole_ok_iff rfl rfl, Duration.milliseconds_floor]

theorem span_refused_iff {d : Duration} : (∃ reason, (Scalar.int .bits64).read config (.duration d) = .error reason) ↔
    2 ^ 63 ≤ ⌊(d.nanoseconds : ℚ) / 10 ^ 6⌋ := by
  rw [read_whole_error_iff rfl rfl, ← Duration.milliseconds_floor]
  omega

theorem word_of_milliseconds {n : Int64} (nonneg : 0 ≤ n.toInt) :
    (Scalar.int .bits64).read config (.duration (Duration.ofMilliseconds n.toInt.toNat)) = .ok (.int n) := by
  refine (read_whole_ok_iff rfl rfl).mpr ⟨n, rfl, ?_⟩
  rw [Duration.milliseconds_of_milliseconds, Int.toNat_of_nonneg nonneg]

end Scalar

namespace Registry

theorem milliseconds_return {registry : Registry} (plain : registry.customs = []) :
    (∀ n : Int64,
      ((∃ out, registry.convert Scalar.duration.descriptor (.int n) = .ok out) ↔ 0 ≤ n.toInt) ∧
      (0 ≤ n.toInt →
        registry.convert Scalar.duration.descriptor (.int n) =
          registry.convert Scalar.duration.descriptor (.str (toString n.toInt)) ∧
        registry.ThereAndBack (Scalar.int .bits64).descriptor (.int n) Scalar.duration.descriptor
          (.duration ⟨n.toInt.toNat * 10 ^ 6⟩))) ∧
    (∀ n : Int64,
      ((∃ out, registry.convert Scalar.dateTime.descriptor (.int n) = .ok out) ↔
        Calendar.leastDay * 86400000 ≤ n.toInt ∧ n.toInt < (Calendar.greatestDay + 1) * 86400000) ∧
      ∀ out, registry.convert Scalar.dateTime.descriptor (.int n) = .ok out →
        ∃ t, out = .dateTime t ∧ registry.convert (Scalar.int .bits64).descriptor (.dateTime t) = .ok (.int n)) ∧
    ∀ d : Duration,
      (∀ out, registry.convert (Scalar.int .bits64).descriptor (.duration d) = .ok out ↔
        ∃ n : Int64, out = .int n ∧ n.toInt = ⌊(d.nanoseconds : ℚ) / 10 ^ 6⌋) ∧
      ((∃ failed, registry.convert (Scalar.int .bits64).descriptor (.duration d) = .error failed) ↔
        2 ^ 63 ≤ ⌊(d.nanoseconds : ℚ) / 10 ^ 6⌋) := by
  simp only [convert_plain_ok_iff plain, convert_plain_refused_iff plain, ThereAndBack, ← Numeral.text_eq]
  refine ⟨fun n => ⟨?_, fun nonneg => ?_⟩, fun n => ⟨?_, fun out given => ?_⟩, fun d => ⟨fun out => ?_, ?_⟩⟩
  · by_cases nonneg : 0 ≤ n.toInt <;> simp [Scalar.read_duration_number, nonneg]
  · have span : Scalar.duration.read registry.config (.int n) =
        .ok (.duration (Duration.ofMilliseconds n.toInt.toNat)) := by
      rw [Scalar.read_duration_number, if_pos nonneg]
    have digits : Scalar.duration.read registry.config (.str (Numeral.text n.toInt)) =
        .ok (.duration (Duration.ofMilliseconds n.toInt.toNat)) := Scalar.read_duration_digits nonneg n.toInt_lt
    exact ⟨(convert_read plain span).trans (convert_read plain digits).symm, span, Scalar.word_of_milliseconds nonneg⟩
  · rw [← DateTime.of_milliseconds_iff]
    simp only [Scalar.read_instant_ok_iff]
    rw [exists_comm]
    simp
  · obtain ⟨t, found, rfl⟩ := (Scalar.read_instant_ok_iff n).mp given
    exact ⟨t, rfl, Scalar.word_of_instant found⟩
  · exact Scalar.word_of_span_iff
  · exact Scalar.span_refused_iff

theorem last_millisecond_before_epoch :
    let registry := Registry.new ⟨.customFirst, false, ',', false⟩
    registry.customs = [] ∧
      registry.convert (.concrete "DateTime") (.int (-1)) = .ok (.dateTime ⟨-1, 86399, 999000000, 0⟩) ∧
      registry.convert (.concrete "i64") (.dateTime ⟨-1, 86399, 999000000, 0⟩) = .ok (.int (-1)) ∧
      (∀ out, registry.convert (.concrete "Duration") (.int (-1)) ≠ .ok out) ∧
      registry.convert (.concrete "Duration") (.int 90500) = registry.convert (.concrete "Duration") (.str "90500") ∧
      registry.convert (.concrete "i64") (.duration ⟨2999999⟩) = .ok (.int 2) ∧
      ∃ failed, registry.convert (.concrete "i64") (.duration ⟨2 ^ 63 * 10 ^ 6⟩) = .error failed := by
  intro registry
  have plain : registry.customs = [] := rfl
  have eve : registry.convert Scalar.dateTime.descriptor (.int (-1)) = .ok (.dateTime ⟨-1, 86399, 999000000, 0⟩) :=
    convert_read plain ((Scalar.read_instant_ok_iff (-1)).mpr ⟨_, by decide, rfl⟩)
  obtain ⟨spans, instants, words⟩ := milliseconds_return plain
  obtain ⟨t, same, back⟩ := (instants (-1)).2 _ eve
  cases same
  refine ⟨plain, eve, back, ?_, ?_, ?_, ?_⟩
  · intro out given
    exact absurd ((spans (-1)).1.mp ⟨out, given⟩) (by decide)
  · exact ((spans 90500).2 (by decide)).1
  · exact ((words ⟨2999999⟩).1 _).mpr ⟨2, rfl, by rw [← Duration.milliseconds_floor]; rfl⟩
  · exact (words ⟨2 ^ 63 * 10 ^ 6⟩).2.mpr (by rw [← Duration.milliseconds_floor]; decide)

end Registry

end Recast
