import Recast.Number.Literal
import Recast.Proofs.Number.Nearest
import Recast.Proofs.Text.Pieces
set_option autoImplicit false

namespace Recast

inductive Sign where
  | bare
  | plus
  | minus

namespace Sign

def chars : Sign → List Char
  | .bare => []
  | .plus => ['+']
  | .minus => ['-']

def isMinus : Sign → Bool
  | .minus => true
  | _ => false

def apply (sign : Sign) (n : Nat) : Int := if sign.isMinus then -(n : Int) else n

end Sign

structure Exponent where
  mark : Char
  sign : Sign
  digits : List Char
  isMark : Decimal.isExponentMark mark = true
  areDigits : ∀ c ∈ digits, c.isDigit = true
  nonempty : digits ≠ []

namespace Exponent

def chars (exponent : Exponent) : List Char := exponent.mark :: (exponent.sign.chars ++ exponent.digits)

def power (exponent : Exponent) : Int := exponent.sign.apply (Numeral.value exponent.digits)

end Exponent

-- The digits behind the point are missing together with the point.
structure Writing where
  sign : Sign
  whole : List Char
  fraction : Option (List Char)
  exponent : Option Exponent
  areDigits : ∀ c ∈ whole ++ fraction.getD [], c.isDigit = true
  nonempty : whole ++ fraction.getD [] ≠ []

namespace Writing

def digits (writing : Writing) : List Char := writing.whole ++ writing.fraction.getD []

def places (writing : Writing) : Nat := (writing.fraction.getD []).length

def power (writing : Writing) : Int := (writing.exponent.map Exponent.power).getD 0

def pointed : Option (List Char) → List Char
  | none => []
  | some digits => '.' :: digits

def marked : Option Exponent → List Char
  | none => []
  | some exponent => exponent.chars

def unsigned (writing : Writing) : List Char :=
  writing.whole ++ (pointed writing.fraction ++ marked writing.exponent)

def chars (writing : Writing) : List Char := writing.sign.chars ++ writing.unsigned

def value (writing : Writing) : ℚ :=
  onSide writing.sign.isMinus (Numeral.value writing.digits * 10 ^ (writing.power - writing.places))

def IsPlain (writing : Writing) : Prop := writing.fraction = none ∧ writing.exponent = none

end Writing

theorem ne_of_is_digit {c other : Char} (digit : c.isDigit = true) (none : other.isDigit = false) : c ≠ other := by
  rintro rfl
  rw [none] at digit
  cases digit

theorem to_lower_digit {c : Char} (digit : c.isDigit = true) : c.toLower = c := by
  have high : c.val ≤ '9'.val := by
    unfold Char.isDigit at digit
    exact of_decide_eq_true (Bool.and_eq_true_iff.mp digit).2
  refine dif_neg ?_
  rintro ⟨upper, -⟩
  exact absurd (UInt32.le_trans upper high) (by decide)

theorem Sign.mem_chars {sign : Sign} {c : Char} (present : c ∈ sign.chars) : c = '-' ∨ c = '+' := by
  cases sign with
  | bare => cases present
  | plus => exact .inr (List.mem_singleton.mp present)
  | minus => exact .inl (List.mem_singleton.mp present)

theorem Sign.chars_length (sign : Sign) : sign.chars.length ≤ 1 := by
  cases sign <;> decide

theorem is_exponent_mark_iff (c : Char) : Decimal.isExponentMark c = true ↔ c = 'e' ∨ c = 'E' := by
  simp [Decimal.isExponentMark]

namespace Text

variable {α : Type} {test : α → Bool}

theorem cut_at_none {items : List α} (absent : ∀ item ∈ items, test item = false) : cutAt test items = none := by
  induction items with
  | nil => rfl
  | cons item rest ih =>
    have other : ¬ test item = true := by
      rw [absent item List.mem_cons_self]
      exact Bool.false_ne_true
    rw [cutAt, if_neg other, ih fun later present => absent later (List.mem_cons_of_mem item present)]
    rfl

theorem cut_at_append {before : List α} {item : α} (absent : ∀ other ∈ before, test other = false)
    (passes : test item = true) (after : List α) : cutAt test (before ++ item :: after) = some (before, after) := by
  induction before with
  | nil => rw [List.nil_append, cutAt, if_pos passes]
  | cons first rest ih =>
    have other : ¬ test first = true := by
      rw [absent first List.mem_cons_self]
      exact Bool.false_ne_true
    rw [List.cons_append, cutAt, if_neg other,
      ih fun later present => absent later (List.mem_cons_of_mem first present)]
    rfl

theorem cut_at_some {items before after : List α} (cut : cutAt test items = some (before, after)) :
    ∃ item, items = before ++ item :: after ∧ test item = true := by
  induction items generalizing before with
  | nil => cases cut
  | cons first rest ih =>
    rw [cutAt] at cut
    split at cut
    · next passes =>
      cases cut
      exact ⟨first, rfl, passes⟩
    · obtain ⟨⟨taken, left⟩, later, same⟩ := Option.map_eq_some_iff.mp cut
      cases same
      obtain ⟨item, split, passes⟩ := ih later
      exact ⟨item, by rw [split]; rfl, passes⟩

end Text

namespace Numeral

theorem natural_digits {digits : List Char} (run : ∀ c ∈ digits, c.isDigit = true) (nonempty : digits ≠ []) :
    natural? digits = some (value digits) := by
  rw [natural?, if_pos ⟨nonempty, List.all_eq_true.mpr run⟩]

theorem natural_none {c : Char} {chars : List Char} (present : c ∈ chars) (other : c.isDigit = false) :
    natural? chars = none := by
  rw [natural?, if_neg]
  rintro ⟨-, run⟩
  rw [List.all_eq_true.mp run c present] at other
  cases other

theorem integer_unsigned {c : Char} {rest : List Char} (noMinus : c ≠ '-') (noPlus : c ≠ '+') :
    integer? (c :: rest) = (natural? (c :: rest)).map Int.ofNat := by
  unfold integer?
  split
  · next same => exact absurd (List.cons.inj same).1 noMinus
  · next same => exact absurd (List.cons.inj same).1 noPlus
  · rfl

theorem integer_signed (sign : Sign) {digits : List Char} (run : ∀ c ∈ digits, c.isDigit = true)
    (nonempty : digits ≠ []) : integer? (sign.chars ++ digits) = some (sign.apply (value digits)) := by
  cases sign with
  | bare =>
    obtain ⟨c, rest, rfl⟩ := List.exists_cons_of_ne_nil nonempty
    have digit := run c List.mem_cons_self
    rw [Sign.chars, List.nil_append, integer_unsigned (ne_of_is_digit digit rfl) (ne_of_is_digit digit rfl),
      natural_digits run nonempty]
    rfl
  | plus =>
    change (natural? digits).map Int.ofNat = _
    rw [natural_digits run nonempty]
    rfl
  | minus =>
    change (natural? digits).map (fun n => -(n : Int)) = _
    rw [natural_digits run nonempty]
    rfl

theorem natural_some {chars : List Char} {n : Nat} (read : natural? chars = some n) :
    (∀ c ∈ chars, c.isDigit = true) ∧ chars ≠ [] := by
  unfold natural? at read
  split at read
  · next written => exact ⟨List.all_eq_true.mp written.2, written.1⟩
  · cases read

theorem integer_some {chars : List Char} {n : Int} (read : integer? chars = some n) :
    ∃ sign digits, chars = Sign.chars sign ++ digits ∧ (∀ c ∈ digits, c.isDigit = true) ∧ digits ≠ [] := by
  unfold integer? at read
  split at read
  · next digits =>
    cases written : natural? digits with
    | none =>
      rw [written] at read
      cases read
    | some m => exact ⟨.minus, digits, rfl, natural_some written⟩
  · next digits =>
    obtain ⟨m, written, -⟩ := Option.map_eq_some_iff.mp read
    exact ⟨.plus, digits, rfl, natural_some written⟩
  · obtain ⟨m, written, -⟩ := Option.map_eq_some_iff.mp read
    exact ⟨.bare, chars, rfl, natural_some written⟩

end Numeral

namespace Writing

variable (writing : Writing)

theorem value_eq : writing.value =
    writing.sign.apply (Numeral.value writing.digits) * 10 ^ (writing.power - writing.places) := by
  unfold value Sign.apply onSide
  cases writing.sign.isMinus with
  | false => simp
  | true => simp

theorem whole_digits : ∀ c ∈ writing.whole, c.isDigit = true :=
  fun c present => writing.areDigits c (List.mem_append_left _ present)

theorem fraction_digits : ∀ c ∈ writing.fraction.getD [], c.isDigit = true :=
  fun c present => writing.areDigits c (List.mem_append_right _ present)

theorem unsigned_head : ∃ c rest, writing.unsigned = c :: rest ∧ (c ≠ '-' ∧ c ≠ '+') ∧
    c.toLower ≠ 'n' ∧ c.toLower ≠ 'i' := by
  have run := writing.whole_digits
  unfold unsigned
  cases whole : writing.whole with
  | cons c others =>
    rw [whole] at run
    have digit := run c List.mem_cons_self
    refine ⟨c, _, rfl, ⟨ne_of_is_digit digit rfl, ne_of_is_digit digit rfl⟩, ?_⟩
    rw [to_lower_digit digit]
    exact ⟨ne_of_is_digit digit rfl, ne_of_is_digit digit rfl⟩
  | nil =>
    cases fraction : writing.fraction with
    | some digits => exact ⟨'.', _, rfl, by decide, by decide⟩
    | none => exact absurd (by rw [whole, fraction]; rfl) writing.nonempty

def base : List Char := writing.sign.chars ++ (writing.whole ++ pointed writing.fraction)

theorem chars_split : writing.chars = writing.base ++ marked writing.exponent := by
  simp only [chars, unsigned, base, List.append_assoc]

theorem mem_base {c : Char} (present : c ∈ writing.base) : c.isDigit = true ∨ c = '.' ∨ c = '-' ∨ c = '+' := by
  rcases List.mem_append.mp present with sign | rest
  · exact .inr (.inr (Sign.mem_chars sign))
  · rcases List.mem_append.mp rest with whole | point
    · exact .inl (writing.whole_digits c whole)
    · have run := writing.fraction_digits
      cases fraction : writing.fraction with
      | none =>
        rw [fraction] at point
        cases point
      | some digits =>
        rw [fraction] at point run
        exact (List.mem_cons.mp point).symm.imp (run c) .inl

theorem mem_marked {c : Char} (present : c ∈ marked writing.exponent) :
    c.isDigit = true ∨ (c = '-' ∨ c = '+') ∨ c = 'e' ∨ c = 'E' := by
  cases exponent : writing.exponent with
  | none =>
    rw [exponent] at present
    cases present
  | some written =>
    rw [exponent] at present
    rcases List.mem_cons.mp present with rfl | later
    · exact .inr (.inr ((is_exponent_mark_iff _).mp written.isMark))
    · rcases List.mem_append.mp later with sign | digit
      · exact .inr (.inl (Sign.mem_chars sign))
      · exact .inl (written.areDigits c digit)

theorem mem_chars {c : Char} (present : c ∈ writing.chars) :
    c.isDigit = true ∨ c = '.' ∨ (c = '-' ∨ c = '+') ∨ c = 'e' ∨ c = 'E' := by
  rw [chars_split] at present
  rcases List.mem_append.mp present with before | mark
  · exact (writing.mem_base before).imp_right (Or.imp_right .inl)
  · exact (writing.mem_marked mark).imp_right .inr

theorem float_exponent_marked : Literal.floatExponent? (marked writing.exponent) = some writing.power := by
  unfold power
  cases writing.exponent with
  | none => rfl
  | some exponent =>
    rw [marked, Exponent.chars, Literal.floatExponent?, if_pos exponent.isMark,
      Numeral.integer_signed exponent.sign exponent.areDigits exponent.nonempty]
    rfl

theorem marked_stops : ∀ c ∈ (marked writing.exponent).head?, c.isDigit = false ∧ c ≠ '.' := by
  intro c first
  cases exponent : writing.exponent with
  | none =>
    rw [exponent] at first
    cases first
  | some written =>
    rw [exponent] at first
    obtain rfl : written.mark = c := Option.some.inj first
    rcases (is_exponent_mark_iff _).mp written.isMark with mark | mark <;> rw [mark] <;> decide

theorem behind_point_eq : Literal.behindPoint (pointed writing.fraction ++ marked writing.exponent) =
    (writing.fraction.getD [], marked writing.exponent) := by
  have stop := writing.marked_stops
  have run := writing.fraction_digits
  cases fraction : writing.fraction with
  | none =>
    change Literal.behindPoint (marked writing.exponent) = _
    unfold Literal.behindPoint
    split
    · next same => exact absurd rfl (stop '.' (by rw [same]; rfl)).2
    · rfl
  | some digits =>
    rw [fraction] at run
    obtain ⟨taken, dropped⟩ := Text.run_cut run fun c first => (stop c first).1
    exact Prod.ext taken dropped

theorem float_digits_unsigned {format : Format} (negative : Bool) :
    (Literal.floatDigits? negative writing.unsigned : Option (Binary format)) =
      some (.nearestDecimal negative (Numeral.value writing.digits) (writing.power - writing.places)) := by
  have stop : ∀ c ∈ (pointed writing.fraction ++ marked writing.exponent).head?, c.isDigit = false := by
    intro c first
    cases fraction : writing.fraction with
    | none =>
      rw [fraction] at first
      exact (writing.marked_stops c first).1
    | some digits =>
      rw [fraction] at first
      obtain rfl : '.' = c := Option.some.inj first
      rfl
  obtain ⟨taken, dropped⟩ := Text.run_cut writing.whole_digits stop
  have written : ¬ (writing.whole = [] ∧ writing.fraction.getD [] = []) := by
    rintro ⟨noWhole, noFraction⟩
    exact writing.nonempty (by rw [noWhole, noFraction]; rfl)
  simp only [unsigned, Literal.floatDigits?, taken, dropped, writing.behind_point_eq, writing.float_exponent_marked,
    if_neg written]
  rfl

end Writing

namespace Literal

theorem signed_of_head {c : Char} {rest : List Char} (noMinus : c ≠ '-') (noPlus : c ≠ '+') :
    signed (c :: rest) = (false, c :: rest) := by
  unfold signed
  split
  · next same => exact absurd (List.cons.inj same).1 noMinus
  · next same => exact absurd (List.cons.inj same).1 noPlus
  · rfl

theorem float_of_head {format : Format} {chars rest : List Char} {negative : Bool} {c : Char}
    (split : signed chars = (negative, c :: rest)) (noWord : c.toLower ≠ 'n' ∧ c.toLower ≠ 'i') :
    (float? chars : Option (Binary format)) = floatDigits? negative (c :: rest) := by
  have noNan : (c :: rest).map Char.toLower ≠ ['n', 'a', 'n'] := fun same => noWord.1 (List.cons.inj same).1
  have noInfinity : ¬ ((c :: rest).map Char.toLower = ['i', 'n', 'f'] ∨
      (c :: rest).map Char.toLower = ['i', 'n', 'f', 'i', 'n', 'i', 't', 'y']) := by
    rintro (same | same) <;> exact noWord.2 (List.cons.inj same).1
  simp only [float?, split, if_neg noNan, if_neg noInfinity]

theorem hex_digits_none {chars : List Char} (noSmall : 'x' ∉ chars) (noCapital : 'X' ∉ chars) :
    hexDigits? chars = none := by
  unfold hexDigits?
  split
  · exact absurd (by simp) noSmall
  · exact absurd (by simp) noCapital
  · rfl

end Literal

namespace Writing

variable (writing : Writing)

theorem signed_chars : Literal.signed writing.chars = (writing.sign.isMinus, writing.unsigned) := by
  unfold chars
  cases writing.sign with
  | bare =>
    obtain ⟨c, rest, same, noSign, -⟩ := writing.unsigned_head
    rw [same]
    exact Literal.signed_of_head noSign.1 noSign.2
  | plus | minus => rfl

theorem float_chars {format : Format} : (Literal.float? writing.chars : Option (Binary format)) =
    some (.nearestDecimal writing.sign.isMinus (Numeral.value writing.digits) (writing.power - writing.places)) := by
  rw [← writing.float_digits_unsigned]
  have split := writing.signed_chars
  obtain ⟨c, rest, same, -, noWord⟩ := writing.unsigned_head
  rw [same] at split ⊢
  exact Literal.float_of_head split noWord

theorem float_nearest {format : Format} :
    ∃ x : Binary format, Literal.float? writing.chars = some x ∧ Binary.IsNearest writing.value x :=
  ⟨_, writing.float_chars, Binary.nearest_decimal_is_nearest ..⟩

theorem hex_digits_unsigned : Literal.hexDigits? writing.unsigned = none := by
  have absent {c : Char} (other : ¬ (c.isDigit = true ∨ c = '.' ∨ (c = '-' ∨ c = '+') ∨ c = 'e' ∨ c = 'E')) :
      c ∉ writing.unsigned := fun present => other (writing.mem_chars (List.mem_append_right _ present))
  exact Literal.hex_digits_none (absent (by decide)) (absent (by decide))

theorem integer_plain (plain : writing.IsPlain) :
    Numeral.integer? writing.chars = some (writing.sign.apply (Numeral.value writing.digits)) := by
  have run := writing.areDigits
  have nonempty := writing.nonempty
  unfold chars unsigned digits
  rw [plain.1] at run nonempty ⊢
  rw [plain.2]
  simp only [pointed, marked, Option.getD_none, List.append_nil] at run nonempty ⊢
  exact Numeral.integer_signed writing.sign run nonempty

theorem integer_not_plain (marks : ¬ writing.IsPlain) : Numeral.integer? writing.chars = none := by
  have other : ∃ c ∈ writing.unsigned, c.isDigit = false := by
    unfold unsigned
    cases fraction : writing.fraction with
    | some digits => exact ⟨'.', by simp [pointed], rfl⟩
    | none =>
      cases exponent : writing.exponent with
      | none => exact absurd ⟨fraction, exponent⟩ marks
      | some written =>
        refine ⟨written.mark, by simp [pointed, marked, Exponent.chars], ?_⟩
        rcases (is_exponent_mark_iff _).mp written.isMark with mark | mark <;> rw [mark] <;> decide
  obtain ⟨c, present, other⟩ := other
  have unread := Numeral.natural_none present other
  unfold chars
  cases writing.sign with
  | bare =>
    obtain ⟨first, rest, same, noSign, -⟩ := writing.unsigned_head
    rw [same] at unread ⊢
    rw [Sign.chars, List.nil_append, Numeral.integer_unsigned noSign.1 noSign.2, unread]
    rfl
  | plus =>
    change (Numeral.natural? writing.unsigned).map Int.ofNat = none
    rw [unread]
    rfl
  | minus =>
    change (Numeral.natural? writing.unsigned).map (fun n => -(n : Int)) = none
    rw [unread]
    rfl

theorem cut_exponent : Decimal.cutExponent writing.chars =
    (writing.base, writing.exponent.map fun exponent => exponent.sign.chars ++ exponent.digits) := by
  have unmarked : ∀ c ∈ writing.base, Decimal.isExponentMark c = false := by
    intro c present
    rw [← Bool.not_eq_true, is_exponent_mark_iff]
    rintro (rfl | rfl)
    · exact absurd (writing.mem_base present) (by decide)
    · exact absurd (writing.mem_base present) (by decide)
  rw [chars_split, Decimal.cutExponent]
  cases writing.exponent with
  | none => rw [marked, List.append_nil, Text.cut_at_none unmarked, Option.map_none]
  | some exponent => rw [marked, Exponent.chars, Text.cut_at_append unmarked exponent.isMark, Option.map_some]

theorem cut_point : Decimal.cutPoint writing.base = (writing.sign.chars ++ writing.digits, writing.places) := by
  have unpointed : ∀ c ∈ writing.sign.chars ++ writing.whole, decide (c = '.') = false := by
    intro c present
    rw [decide_eq_false_iff_not]
    rintro rfl
    rcases List.mem_append.mp present with sign | whole
    · exact absurd (Sign.mem_chars sign) (by decide)
    · exact absurd (writing.whole_digits _ whole) (by decide)
  unfold base digits places Decimal.cutPoint
  rw [← List.append_assoc, ← List.append_assoc]
  cases writing.fraction with
  | none =>
    rw [pointed, List.append_nil, Text.cut_at_none unpointed, Option.getD_none, List.append_nil]
    rfl
  | some digits =>
    rw [pointed, Text.cut_at_append unpointed (decide_eq_true rfl), Option.getD_some]

theorem exponent_read :
    Decimal.exponent? (writing.exponent.map fun exponent => exponent.sign.chars ++ exponent.digits) =
      if -2 ^ 127 ≤ writing.power ∧ writing.power < 2 ^ 127 then some writing.power else none := by
  unfold power
  cases writing.exponent with
  | none => rfl
  | some exponent =>
    rw [Option.map_some, Decimal.exponent?,
      Numeral.integer_signed exponent.sign exponent.areDigits exponent.nonempty, Option.filter_some]
    simp only [Bool.and_eq_true, decide_eq_true_eq]
    rfl

theorem digits_read : Numeral.integer? (writing.sign.chars ++ writing.digits) =
    some (writing.sign.apply (Numeral.value writing.digits)) :=
  Numeral.integer_signed writing.sign writing.areDigits writing.nonempty

theorem decimal_chars : Decimal.read? writing.chars =
    if (-2 ^ 127 ≤ writing.power ∧ writing.power < 2 ^ 127) ∧
        (-2 ^ 63 ≤ writing.places - writing.power ∧ writing.places - writing.power < 2 ^ 63) then
      some ⟨writing.sign.apply (Numeral.value writing.digits), writing.places - writing.power⟩
    else none := by
  simp only [Decimal.read?, writing.cut_exponent, writing.exponent_read, writing.cut_point, writing.digits_read]
  by_cases inRange : -2 ^ 127 ≤ writing.power ∧ writing.power < 2 ^ 127
  · simp only [if_pos inRange, and_iff_right inRange]
    rfl
  · rw [if_neg inRange, if_neg fun both => inRange both.1]
    rfl

end Writing

theorem cut_exponent_some {chars base : List Char} {mark : Option (List Char)} {n : Int}
    (cut : Decimal.cutExponent chars = (base, mark)) (read : Decimal.exponent? mark = some n) :
    ∃ exponent, chars = base ++ Writing.marked exponent := by
  unfold Decimal.cutExponent at cut
  split at cut
  · cases cut
    exact ⟨none, (List.append_nil _).symm⟩
  · next found =>
    cases cut
    obtain ⟨c, split, isMark⟩ := Text.cut_at_some found
    obtain ⟨power, -⟩ := Option.filter_eq_some_iff.mp read
    obtain ⟨sign, digits, rfl, run, nonempty⟩ := Numeral.integer_some power
    exact ⟨some ⟨c, sign, digits, isMark, run, nonempty⟩, split⟩

theorem cut_point_some {base digits : List Char} {places : Nat} (cut : Decimal.cutPoint base = (digits, places)) :
    base = digits ∨ ∃ whole fraction, base = whole ++ '.' :: fraction ∧ digits = whole ++ fraction := by
  unfold Decimal.cutPoint at cut
  split at cut
  · cases cut
    exact .inl rfl
  · next found =>
    cases cut
    obtain ⟨c, split, point⟩ := Text.cut_at_some found
    obtain rfl : c = '.' := of_decide_eq_true point
    exact .inr ⟨_, _, split, rfl⟩

theorem decimal_steps {chars : List Char} {d : Decimal} (read : Decimal.read? chars = some d) :
    ∃ base mark exponent digits places, Decimal.cutExponent chars = (base, mark) ∧
      Decimal.exponent? mark = some exponent ∧ Decimal.cutPoint base = (digits, places) ∧
      Numeral.integer? digits = some d.mantissa ∧ d.scale = places - exponent ∧
      -2 ^ 63 ≤ d.scale ∧ d.scale < 2 ^ 63 := by
  unfold Decimal.read? at read
  cases exponentCut : Decimal.cutExponent chars with
  | mk base mark =>
    rw [exponentCut] at read
    obtain ⟨exponent, power, read⟩ := Option.bind_eq_some_iff.mp read
    cases pointCut : Decimal.cutPoint base with
    | mk digits places =>
      rw [pointCut] at read
      obtain ⟨mantissa, number, read⟩ := Option.bind_eq_some_iff.mp read
      split at read
      · next within =>
        cases read
        exact ⟨base, mark, exponent, digits, places, rfl, power, pointCut, number, rfl, within⟩
      · cases read

theorem decimal_some {chars : List Char} {d : Decimal} (read : Decimal.read? chars = some d) :
    (∃ writing : Writing, chars = writing.chars) ∨ ∃ c rest, (c = '-' ∨ c = '+') ∧ chars = '.' :: c :: rest := by
  obtain ⟨base, mark, n, digits, places, exponentCut, power, pointCut, mantissa, -⟩ := decimal_steps read
  obtain ⟨exponent, rfl⟩ := cut_exponent_some exponentCut power
  obtain ⟨sign, run, rfl, areDigits, nonempty⟩ := Numeral.integer_some mantissa
  rcases cut_point_some pointCut with rfl | ⟨whole, fraction, rfl, split⟩
  · refine .inl ⟨⟨sign, run, none, exponent, by simpa using areDigits, by simpa using nonempty⟩, ?_⟩
    simp [Writing.chars, Writing.unsigned, Writing.pointed]
  · rcases List.append_eq_append_iff.mp split with ⟨digits, rfl, rfl⟩ | ⟨behind, signed, rfl⟩
    · refine .inl ⟨⟨sign, digits, some fraction, exponent, areDigits, nonempty⟩, ?_⟩
      simp [Writing.chars, Writing.unsigned, Writing.pointed]
    · cases behind with
      | nil =>
        rw [List.append_nil] at signed
        refine .inl ⟨⟨sign, [], some run, exponent, areDigits, nonempty⟩, ?_⟩
        simp [Writing.chars, Writing.unsigned, Writing.pointed, signed]
      | cons c rest =>
        have isSign : c ∈ sign.chars := signed ▸ List.mem_append_right whole List.mem_cons_self
        obtain rfl : whole = [] := by
          have single := sign.chars_length
          rw [signed, List.length_append, List.length_cons] at single
          exact List.length_eq_zero_iff.mp (by omega)
        exact .inr ⟨c, _, Sign.mem_chars isSign, rfl⟩

end Recast
