import Recast.Proofs.Number.Arithmetic
import Recast.Proofs.Time.Iso
set_option autoImplicit false

/-!
What the components of a span of time add up to. Whole numbers are added exactly below `2 ^ 53` seconds. The total
alone is tested for its sign, so that a negative component passes where the others make up for it, and only there.
-/

namespace Recast

theorem Writing.nearest_is_nearest {format : Format} (writing : Writing) :
    Binary.IsNearest writing.value (writing.nearest : Binary format) :=
  Binary.nearest_decimal_is_nearest ..

theorem Writing.plain_value {writing : Writing} (plain : writing.IsPlain) : writing.value = writing.integer := by
  rw [value_eq, integer, power, places, plain.1, plain.2]
  simp

namespace Duration

def weight (terms : List (Writing × Nat)) : Int := (terms.map fun term => term.1.integer * (term.2 : Int)).sum

def size (terms : List (Writing × Nat)) : Nat := (terms.map fun term => term.1.integer.natAbs * term.2).sum

theorem weight_cons (number : Writing) (unit : Nat) (terms : List (Writing × Nat)) :
    weight ((number, unit) :: terms) = number.integer * unit + weight terms := List.sum_cons

theorem size_cons (number : Writing) (unit : Nat) (terms : List (Writing × Nat)) :
    size ((number, unit) :: terms) = number.integer.natAbs * unit + size terms := List.sum_cons

theorem units_bounded (part : Part) {letter : Char} {seconds : Nat} (known : part.seconds? letter = some seconds) :
    1 ≤ seconds ∧ seconds < 2 ^ 53 := by
  obtain ⟨before, after, same, -⟩ := List.lookup_eq_some_iff.mp known
  have listed : (letter.toUpper, seconds) ∈ part.units := same ▸ List.mem_append_right _ List.mem_cons_self
  have each : ∀ entry ∈ part.units, 1 ≤ entry.2 ∧ entry.2 < 2 ^ 53 := by
    cases part <;> decide
  exact each _ listed

theorem weighed_mem {part : Part} {list : List Component} {term : Writing × Nat}
    (present : term ∈ part.weighed list) :
    (∃ component ∈ list, component.number = term.1) ∧ 1 ≤ term.2 ∧ term.2 < 2 ^ 53 := by
  obtain ⟨component, inside, given⟩ := List.mem_filterMap.mp present
  obtain ⟨seconds, unit, rfl⟩ := Option.map_eq_some_iff.mp given
  exact ⟨⟨component, inside, rfl⟩, units_bounded part unit⟩

theorem mem_weighed {part : Part} {list : List Component}
    (known : ∀ component ∈ list, (part.seconds? component.letter).isSome = true) {component : Component}
    (present : component ∈ list) : ∃ term ∈ part.weighed list, term.1 = component.number := by
  obtain ⟨seconds, unit⟩ := Option.isSome_iff_exists.mp (known component present)
  exact ⟨(component.number, seconds), List.mem_filterMap.mpr ⟨component, present, by rw [unit]; rfl⟩, rfl⟩

theorem weight_le_size (terms : List (Writing × Nat)) : weight terms ≤ size terms := by
  induction terms with
  | nil => exact le_rfl
  | cons term others ih =>
    obtain ⟨number, unit⟩ := term
    have first : number.integer * unit ≤ number.integer.natAbs * (unit : Int) :=
      Int.mul_le_mul_of_nonneg_right Int.le_natAbs (Int.natCast_nonneg unit)
    rw [weight_cons, size_cons]
    push_cast at ih first ⊢
    omega

theorem integer_exact {x : Double} {n : Int} (nearest : Binary.IsNearest (n : ℚ) x) (short : n.natAbs < 2 ^ 53) :
    x.value? = some (n : ℚ) := by
  obtain ⟨y, number⟩ : ∃ y : Double, _ := Binary.integer_is_number short
  exact nearest.exact number

theorem term_exact {number : Writing} {unit : Nat} (plain : number.IsPlain) (positive : 1 ≤ unit)
    (few : unit < 2 ^ 53) (short : number.integer.natAbs * unit < 2 ^ 53) :
    (number.nearest.mul (Binary.ofInt unit) : Double).value? = some ((number.integer * unit : Int) : ℚ) := by
  have small : number.integer.natAbs < 2 ^ 53 := (Nat.le_mul_of_pos_right _ positive).trans_lt short
  have nearest : Binary.IsNearest (number.integer : ℚ) (number.nearest : Double) :=
    Writing.plain_value plain ▸ number.nearest_is_nearest
  have first := integer_exact nearest small
  have second : (Binary.ofInt unit : Double).value? = some ((unit : Int) : ℚ) :=
    integer_exact (Binary.of_int_is_nearest _) (by rwa [Int.natAbs_natCast])
  have product := Binary.mul_is_nearest first second
  rw [← Int.cast_mul] at product
  exact integer_exact product (by rwa [Int.natAbs_mul, Int.natAbs_natCast])

-- Every sum on the way is an integer of 53 bits.
theorem accumulate_exact {terms : List (Writing × Nat)} (plain : ∀ term ∈ terms, term.1.IsPlain)
    (units : ∀ term ∈ terms, 1 ≤ term.2 ∧ term.2 < 2 ^ 53) {sum : Double} {n : Int}
    (given : sum.value? = some (n : ℚ)) (short : n.natAbs + size terms < 2 ^ 53) :
    (accumulate sum terms).value? = some ((n + weight terms : Int) : ℚ) := by
  induction terms generalizing sum n with
  | nil => rwa [weight, List.map_nil, List.sum_nil, Int.add_zero]
  | cons term others ih =>
    obtain ⟨number, unit⟩ := term
    obtain ⟨firstPlain, plain⟩ := List.forall_mem_cons.mp plain
    obtain ⟨⟨positive, few⟩, units⟩ := List.forall_mem_cons.mp units
    rw [size_cons] at short
    have apart : (n + number.integer * unit).natAbs ≤ n.natAbs + number.integer.natAbs * unit := by
      refine (Int.natAbs_add_le _ _).trans ?_
      rw [Int.natAbs_mul, Int.natAbs_natCast]
    have first : (number.nearest.mul (Binary.ofInt unit) : Double).value? = _ :=
      term_exact firstPlain positive few (by omega)
    have next := Binary.add_is_nearest given first
    rw [← Int.cast_add] at next
    rw [weight_cons, ← Int.add_assoc]
    exact ih plain units (integer_exact next (by omega)) (by omega)

theorem whole_nanoseconds {significand m : Nat} {exponent : Int} (value : (significand : ℚ) * 2 ^ exponent = m) :
    roundHalfEven (significand * 2 ^ exponent.toNat * 10 ^ 9) (2 ^ (-exponent).toNat) = m * 10 ^ 9 := by
  have whole : m * 2 ^ (-exponent).toNat = significand * 2 ^ exponent.toNat := (scaled_eq_iff ..).mpr value.symm
  rw [← whole, Nat.mul_right_comm]
  exact round_half_even_exact _ (Nat.two_pow_pos _)

theorem of_seconds_whole {x : Double} {n : Int} (given : x.value? = some (n : ℚ)) (short : n < 2 ^ 53) :
    ofSeconds? x = if n < 0 then none else some (ofParts n.toNat 0) := by
  cases x with
  | nan | infinite => cases given
  | finite negative significand exponent canonical =>
    have value : onSide negative ((significand : ℚ) * 2 ^ exponent) = n := Option.some.inj given
    rw [ofSeconds?]
    by_cases zero : significand = 0
    · have none : (n : ℚ) = 0 := by
        rw [← value, zero, Nat.cast_zero, zero_mul, onSide, neg_zero, ite_self]
      obtain rfl : n = 0 := by exact_mod_cast none
      rw [if_pos zero]
      rfl
    · have positive : (0 : ℚ) < significand * 2 ^ exponent := by
        have := Nat.cast_pos (α := ℚ) |>.mpr (Nat.pos_of_ne_zero zero)
        positivity
      rw [if_neg zero]
      cases negative with
      | true =>
        rw [onSide, if_pos rfl] at value
        have below : (n : ℚ) < 0 := by linarith
        rw [if_pos rfl, if_pos (Int.cast_lt_zero.mp below)]
      | false =>
        rw [onSide, if_neg Bool.false_ne_true] at value
        rw [value] at positive
        obtain ⟨m, rfl⟩ := Int.eq_ofNat_of_zero_le (Int.cast_pos.mp positive).le
        have few : m < 2 ^ 64 := by omega
        have fits : ¬ 2 ^ 64 * 10 ^ 9 ≤ m * 10 ^ 9 := Nat.not_le.mpr (Nat.mul_lt_mul_of_pos_right few (by decide))
        rw [if_neg (Int.natCast_nonneg m).not_gt, ofParts, Int.toNat_natCast, Nat.add_zero,
          if_neg Bool.false_ne_true, whole_nanoseconds (value.trans (Int.cast_natCast m))]
        exact if_neg fits

theorem of_seconds_below_zero {x : Double} {b : ℚ} (low : x.IsAtMost b) (below : b < 0) : ofSeconds? x = none := by
  cases x with
  | nan | infinite => rfl
  | finite negative significand exponent canonical =>
    have value : onSide negative ((significand : ℚ) * 2 ^ exponent) < 0 := lt_of_le_of_lt low below
    have nonneg : (0 : ℚ) ≤ significand * 2 ^ exponent := by positivity
    cases negative with
    | false => exact absurd nonneg (not_le.mpr value)
    | true =>
      have nonzero : significand ≠ 0 := by
        rintro rfl
        simp [onSide] at value
      rw [ofSeconds?, if_neg nonzero, if_pos rfl]

section

variable {number : Writing} {unit : Nat} {z : Double} {b : ℚ}

theorem term_at_most (low : (number.nearest : Double).IsAtMost b) (given : z.value? = some b) (nonpos : b ≤ 0)
    (positive : 1 ≤ unit) (few : unit < 2 ^ 53) :
    (number.nearest.mul (Binary.ofInt unit) : Double).IsAtMost b := by
  have second : (Binary.ofInt unit : Double).value? = some ((unit : Int) : ℚ) :=
    integer_exact (Binary.of_int_is_nearest _) (by rwa [Int.natAbs_natCast])
  exact low.mul given nonpos second (by exact_mod_cast positive)

theorem accumulate_at_most {terms : List (Writing × Nat)} (nonpos : ∀ term ∈ terms, term.1.value ≤ 0)
    (units : ∀ term ∈ terms, 1 ≤ term.2 ∧ term.2 < 2 ^ 53) {sum : Double} (low : sum.IsAtMost b)
    (given : z.value? = some b) : (accumulate sum terms).IsAtMost b := by
  induction terms generalizing sum with
  | nil => exact low
  | cons term others ih =>
    obtain ⟨first, nonpos⟩ := List.forall_mem_cons.mp nonpos
    obtain ⟨⟨positive, few⟩, units⟩ := List.forall_mem_cons.mp units
    have number : (term.1.nearest : Double).IsAtMost 0 :=
      term.1.nearest_is_nearest.is_at_most (Binary.zero_value false) first
    have next := term_at_most number (Binary.zero_value false) le_rfl positive few
    exact ih nonpos units (low.add next given (add_zero b).le)

end

-- A number that is not rounded to zero brings the sum below it, and no other brings it up again.
theorem accumulate_below_zero {terms : List (Writing × Nat)} (nonpos : ∀ term ∈ terms, term.1.value ≤ 0)
    (units : ∀ term ∈ terms, 1 ≤ term.2 ∧ term.2 < 2 ^ 53)
    (clear : ∃ term ∈ terms, term.1.value < -2 ^ (-1075 : Int)) :
    ofSeconds? (accumulate (Binary.zero false) terms) = none := by
  obtain ⟨term, present, clear⟩ := clear
  obtain ⟨before, after, rfl⟩ := List.append_of_mem present
  obtain ⟨earlier, later⟩ := List.forall_mem_append.mp nonpos
  obtain ⟨-, later⟩ := List.forall_mem_cons.mp later
  obtain ⟨unitsEarlier, unitsLater⟩ := List.forall_mem_append.mp units
  obtain ⟨⟨positive, few⟩, unitsLater⟩ := List.forall_mem_cons.mp unitsLater
  obtain ⟨z, b, given, below, low⟩ :=
    Binary.IsNearest.is_below_zero (term.1.nearest_is_nearest : Binary.IsNearest _ (_ : Double)) clear
  have start : (accumulate (Binary.zero false) before).IsAtMost 0 :=
    accumulate_at_most earlier unitsEarlier (.of_value (Binary.zero_value false) le_rfl) (Binary.zero_value false)
  have next := start.add (term_at_most low given below.le positive few) given (zero_add b).le
  refine of_seconds_below_zero ?_ below
  rw [accumulate, List.foldl_append, List.foldl_cons]
  exact accumulate_at_most later unitsLater next given

namespace Span

def seconds (span : Span) : Int := weight span.terms

theorem terms_bounded (span : Span) {term : Writing × Nat} (present : term ∈ span.terms) :
    (∃ component ∈ span.components, component.number = term.1) ∧ 1 ≤ term.2 ∧ term.2 < 2 ^ 53 := by
  rcases List.mem_append.mp present with dated | timed
  · obtain ⟨⟨component, inside, same⟩, bounds⟩ := weighed_mem dated
    exact ⟨⟨component, List.mem_append_left _ inside, same⟩, bounds⟩
  · obtain ⟨⟨component, inside, same⟩, bounds⟩ := weighed_mem timed
    exact ⟨⟨component, List.mem_append_right _ inside, same⟩, bounds⟩

theorem component_weighed (span : Span) {component : Component} (present : component ∈ span.components) :
    ∃ term ∈ span.terms, term.1 = component.number := by
  rcases List.mem_append.mp present with dated | timed
  · obtain ⟨term, weighed, same⟩ := mem_weighed span.dated dated
    exact ⟨term, List.mem_append_left _ weighed, same⟩
  · obtain ⟨term, weighed, same⟩ := mem_weighed span.timed timed
    exact ⟨term, List.mem_append_right _ weighed, same⟩

theorem read_whole (span : Span) (plain : ∀ component ∈ span.components, component.number.IsPlain)
    (short : size span.terms < 2 ^ 53) :
    readIso? span.text = if span.seconds < 0 then none else some (ofParts span.seconds.toNat 0) := by
  have plainTerms : ∀ term ∈ span.terms, term.1.IsPlain := by
    intro term present
    obtain ⟨⟨component, inside, same⟩, -⟩ := span.terms_bounded present
    exact same ▸ plain component inside
  have start : (Binary.zero false : Double).value? = some ((0 : Int) : ℚ) := by
    rw [Int.cast_zero]
    exact Binary.zero_value false
  have total := accumulate_exact plainTerms (fun term present => (span.terms_bounded present).2) start
    (by rwa [Int.natAbs_zero, Nat.zero_add])
  rw [Int.zero_add] at total
  rw [read_text]
  exact of_seconds_whole total ((weight_le_size _).trans_lt (by exact_mod_cast short))

theorem read_below_zero (span : Span) (nonpos : ∀ component ∈ span.components, component.number.value ≤ 0)
    (clear : ∃ component ∈ span.components, component.number.value < -2 ^ (-1075 : Int)) :
    readIso? span.text = none := by
  obtain ⟨component, present, clear⟩ := clear
  obtain ⟨term, weighed, same⟩ := span.component_weighed present
  rw [read_text]
  refine accumulate_below_zero ?_ (fun term present => (span.terms_bounded present).2)
    ⟨term, weighed, same ▸ clear⟩
  intro term present
  obtain ⟨⟨component, inside, same⟩, -⟩ := span.terms_bounded present
  exact same ▸ nonpos component inside

end Span

theorem total_alone_tested (text : String) (d : Duration) :
    (readIso? text = some d ↔ ∃ span : Span, span.text = text ∧ ofSeconds? span.sum = some d) ∧
      ∀ span : Span, span.text = text →
        (readIso? text = some d → ∀ component ∈ span.components, component.number.value < 0 →
          -2 ^ (-1075 : Int) ≤ component.number.value ∨ ∃ other ∈ span.components, 0 < other.number.value) ∧
        ((∀ component ∈ span.components, component.number.IsPlain) → size span.terms < 2 ^ 53 →
          (readIso? text = some d ↔ 0 ≤ span.seconds ∧ d = ofParts span.seconds.toNat 0)) := by
  refine ⟨⟨fun read => ?_, ?_⟩, ?_⟩
  · obtain ⟨span, rfl⟩ := span_of_read read
    exact ⟨span, rfl, span.read_text ▸ read⟩
  · rintro ⟨span, rfl, read⟩
    exact span.read_text.trans read
  · rintro span rfl
    constructor
    · intro read component present negative
      by_contra neither
      push Not at neither
      rw [span.read_below_zero neither.2 ⟨component, present, neither.1⟩] at read
      cases read
    · intro plain short
      rw [span.read_whole plain short]
      split
      · next below => exact iff_of_false nofun fun both => absurd both.1 below.not_ge
      · next above => simp [not_lt.mp above, eq_comm]

def minute : Component := ⟨⟨.bare, ['1'], none, none, List.all_eq_true.mp rfl, by decide⟩, 'M', rfl, rfl⟩

def halfLess : Component := ⟨⟨.minus, ['3', '0'], none, none, List.all_eq_true.mp rfl, by decide⟩, 'S', rfl, rfl⟩

def minuteLessHalf : Span where
  mark := 'P'
  date := []
  timeMark := 'T'
  time := [minute, halfLess]
  begins := .inl rfl
  divides := .inl rfl
  dated := by decide
  timed := by decide
  nonempty := .inr (List.cons_ne_nil _ _)

theorem half_less_negative : halfLess.number.value < 0 := by
  rw [Writing.plain_value ⟨rfl, rfl⟩]
  exact Int.cast_lt_zero.mpr (by decide)

theorem minute_makes_up :
    readIso? "PT1M-30S" = some (ofParts 30 0) ∧ 0 ≤ minuteLessHalf.seconds ∧
      (-2 ^ (-1075 : Int) ≤ halfLess.number.value ∨
        ∃ other ∈ minuteLessHalf.components, 0 < other.number.value) := by
  have spelled : minuteLessHalf.text = "PT1M-30S" := by decide +kernel
  have read : readIso? "PT1M-30S" = some (ofParts 30 0) := by decide +kernel
  have plain : ∀ component ∈ minuteLessHalf.components, component.number.IsPlain :=
    List.forall_mem_cons.mpr ⟨⟨rfl, rfl⟩, List.forall_mem_singleton.mpr ⟨rfl, rfl⟩⟩
  have present : halfLess ∈ minuteLessHalf.components := List.mem_cons_of_mem _ List.mem_cons_self
  obtain ⟨-, parts⟩ := total_alone_tested "PT1M-30S" (ofParts 30 0)
  obtain ⟨beside, whole⟩ := parts minuteLessHalf spelled
  exact ⟨read, ((whole plain (by decide)).mp read).1, beside read halfLess present half_less_negative⟩

theorem negative_seconds_accepted :
    minuteLessHalf.text = "PT1M-30S" ∧
      ¬ ∀ (span : Span) (d : Duration), readIso? span.text = some d →
        ∀ component ∈ span.components, 0 ≤ component.number.value := by
  refine ⟨by decide +kernel, fun every => ?_⟩
  have read : readIso? minuteLessHalf.text = some (ofParts 30 0) := by decide +kernel
  have present : halfLess ∈ minuteLessHalf.components := List.mem_cons_of_mem _ List.mem_cons_self
  exact (every minuteLessHalf _ read halfLess present).not_gt half_less_negative

end Duration

end Recast
