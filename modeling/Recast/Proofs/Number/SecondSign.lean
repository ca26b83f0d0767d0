import Recast.Proofs.Number.BigIntegerText
set_option autoImplicit false

/-!
Two signs in front of a number. Words and floats are not read then, and behind a minus nothing is. A plus is removed
for decimals and integers of any size, and their readers take the sign that follows for the sign of the number.
-/

namespace Recast

namespace Writing

def InRange (writing : Writing) : Prop :=
  (-2 ^ 127 ≤ writing.power ∧ writing.power < 2 ^ 127) ∧
    -2 ^ 63 ≤ writing.places - writing.power ∧ writing.places - writing.power < 2 ^ 63

instance (writing : Writing) : Decidable writing.InRange := inferInstanceAs (Decidable (_ ∧ _))

def integer (writing : Writing) : Int := writing.sign.apply (Numeral.value writing.digits)

def decimal (writing : Writing) : Decimal := ⟨writing.integer, writing.places - writing.power⟩

end Writing

theorem integer_some_iff {chars : List Char} {n : Int} : Numeral.integer? chars = some n ↔
    ∃ literal : Writing, chars = literal.chars ∧ literal.IsPlain ∧ n = literal.integer := by
  constructor
  · intro read
    obtain ⟨sign, digits, rfl, run, nonempty⟩ := Numeral.integer_some read
    obtain ⟨literal, same, plain, -⟩ := Writing.exists_plain sign run nonempty
    rw [← same, literal.integer_plain plain] at read
    exact ⟨literal, same.symm, plain, (Option.some.inj read).symm⟩
  · rintro ⟨literal, rfl, plain, rfl⟩
    exact literal.integer_plain plain

theorem decimal_some_iff {c : Char} {rest : List Char} {d : Decimal} (noPoint : c ≠ '.') :
    Decimal.read? (c :: rest) = some d ↔
      ∃ literal : Writing, c :: rest = literal.chars ∧ literal.InRange ∧ d = literal.decimal := by
  constructor
  · intro read
    rcases decimal_some read with ⟨literal, same⟩ | ⟨sign, others, -, same⟩
    · rw [same, literal.decimal_chars] at read
      split at read
      · next inRange => exact ⟨literal, same, inRange, (Option.some.inj read).symm⟩
      · cases read
    · exact absurd (List.cons.inj same).1 noPoint
  · rintro ⟨literal, same, inRange, rfl⟩
    rw [same, literal.decimal_chars]
    exact if_pos inRange

section

variable {text : String} {first second : Char} {rest : List Char}

theorem signed_of_sign (one : first = '-' ∨ first = '+') (chars : List Char) :
    ∃ negative, Literal.signed (first :: chars) = (negative, chars) := by
  rcases one with rfl | rfl <;> exact ⟨_, rfl⟩

theorem Misplaced.integer_none {chars : List Char} (misplaced : Misplaced chars) (one : first = '-' ∨ first = '+') :
    Numeral.integer? (first :: chars) = none := by
  rcases one with rfl | rfl <;> rw [Numeral.integer?, misplaced.natural_none] <;> rfl

theorem second_sign_behind_plus (written : Literal.ungrouped text = first :: second :: rest)
    (one : first = '-' ∨ first = '+') (two : second = '-' ∨ second = '+') :
    Literal.integer? text = none ∧ Literal.grouplessFloat? text = none ∧
    (first = '-' → Literal.bigInteger? text = none ∧ Literal.decimal? text = none) ∧
    (first = '+' →
      (∀ n, Literal.bigInteger? text = some n ↔
        ∃ literal : Writing, second :: rest = literal.chars ∧ literal.IsPlain ∧ n = literal.integer) ∧
      (∀ d, Literal.decimal? text = some d ↔
        ∃ literal : Writing, second :: rest = literal.chars ∧ literal.InRange ∧ d = literal.decimal)) := by
  have misplaced : Misplaced (second :: rest) := ⟨second, rest, two, .inl rfl⟩
  obtain ⟨negative, split⟩ := signed_of_sign one (second :: rest)
  have unread : Numeral.integer? (Literal.ungrouped text) = none := by
    rw [written]
    exact misplaced.integer_none one
  have noWord : Literal.integer? text = none :=
    misplaced.integer_text_none (by rw [written]; exact split) unread
  have noDecimal : Decimal.read? (Literal.ungrouped text) = none := by
    rw [written]
    exact misplaced.decimal_none one
  -- The third reader of integers has the first plus before it again.
  have big : Literal.bigInteger? text = Numeral.integer? (Literal.withoutPlus (Literal.ungrouped text)) := by
    simp only [Literal.bigInteger?, noWord, noDecimal, Option.bind_none]
    cases Numeral.integer? (Literal.withoutPlus (Literal.ungrouped text)) <;> rfl
  refine ⟨noWord, ?_, ?_, ?_⟩
  · rw [Literal.grouplessFloat?, written]
    exact misplaced.float_none split
  · rintro rfl
    have same : Literal.withoutPlus (Literal.ungrouped text) = Literal.ungrouped text := by
      rw [written]
      rfl
    rw [big, Literal.decimal?, same]
    exact ⟨unread, noDecimal⟩
  · rintro rfl
    have removed : Literal.withoutPlus (Literal.ungrouped text) = second :: rest := by
      rw [written]
      rfl
    rw [big, Literal.decimal?, removed]
    exact ⟨fun n => integer_some_iff, fun d => decimal_some_iff (by rcases two with rfl | rfl <;> decide)⟩

end

def minusFifteen : Writing := ⟨.minus, ['1', '5'], none, none, List.all_eq_true.mp rfl, by decide⟩

theorem plus_minus_fifteen_read :
    Literal.integer? "+-1_5" = none ∧ Literal.grouplessFloat? "+-1_5" = none ∧
      Literal.bigInteger? "+-1_5" = some (-15) ∧ Literal.decimal? "+-1_5" = some ⟨-15, 0⟩ ∧
      Literal.bigInteger? "-+1_5" = none ∧ Literal.decimal? "-+1_5" = none := by
  have behind : Literal.ungrouped "+-1_5" = '+' :: '-' :: ['1', '5'] := by decide
  have before : Literal.ungrouped "-+1_5" = '-' :: '+' :: ['1', '5'] := by decide
  obtain ⟨noWord, noFloat, -, read⟩ := second_sign_behind_plus behind (.inr rfl) (.inl rfl)
  refine ⟨noWord, noFloat, ((read rfl).1 _).mpr ?_, ((read rfl).2 _).mpr ?_, ?_⟩
  · exact ⟨minusFifteen, by decide, ⟨rfl, rfl⟩, by decide⟩
  · exact ⟨minusFifteen, by decide, by decide, by decide⟩
  · exact (second_sign_behind_plus before (.inl rfl) (.inr rfl)).2.2.1 rfl

theorem plus_minus_five_accepted :
    Literal.ungrouped "+-5" = ['+', '-', '5'] ∧ Literal.bigInteger? "+-5" = some (-5) ∧
      Literal.decimal? "+-5" = some ⟨-5, 0⟩ := by decide

end Recast
