import Recast.Proofs.Number.HexText
import Recast.Proofs.Number.OwnText
import Recast.Proofs.Time.Iso
import Recast.Scalar
set_option autoImplicit false

namespace Recast

theorem letter_not_blank {c : Char} (letter : c.isAlpha = true) : Text.isBlankChar c = false := by
  have bounds := is_alpha_iff.mp letter
  simp [Text.isBlankChar, Text.inRanges, Text.blankRanges]
  omega

theorem lower_not_blank {c : Char} (solid : Text.isBlankChar c.toLower = false) : Text.isBlankChar c = false := by
  by_cases upper : c.val ≥ 'A'.val ∧ c.val ≤ 'Z'.val
  · exact letter_not_blank (is_alpha_iff.mpr (.inl upper))
  · have same : c.toLower = c := dif_neg upper
    rwa [same] at solid

def Unspaced (chars : List Char) : Prop := ∀ c ∈ chars, Text.isBlankChar c = false

namespace Unspaced

theorem append {first second : List Char} (before : Unspaced first) (after : Unspaced second) :
    Unspaced (first ++ second) :=
  List.forall_mem_append.mpr ⟨before, after⟩

theorem cons {c : Char} {rest : List Char} (solid : Text.isBlankChar c = false) (after : Unspaced rest) :
    Unspaced (c :: rest) :=
  List.forall_mem_cons.mpr ⟨solid, after⟩

theorem of_digits {digits : List Char} (run : ∀ c ∈ digits, c.isDigit = true) : Unspaced digits :=
  fun c present => digit_not_blank (run c present)

end Unspaced

theorem Sign.unspaced (sign : Sign) : Unspaced sign.chars := by
  intro c present
  rcases Sign.mem_chars present with rfl | rfl <;> rfl

theorem Exponent.unspaced (exponent : Exponent) : Unspaced exponent.chars :=
  .cons (letter_not_blank exponent.mark_is_alpha) (exponent.sign.unspaced.append (.of_digits exponent.areDigits))

theorem Writing.unspaced (writing : Writing) : Unspaced writing.chars := by
  intro c present
  rcases writing.mem_chars present with digit | rfl | (rfl | rfl) | rfl | rfl
  · exact digit_not_blank digit
  · rfl
  · rfl
  · rfl
  · rfl
  · rfl

namespace Numeral

theorem integer_unspaced {chars : List Char} {n : Int} (read : integer? chars = some n) : Unspaced chars := by
  obtain ⟨sign, digits, rfl, run, -⟩ := integer_some read
  exact sign.unspaced.append (.of_digits run)

theorem read_digits_ok {low high n m : Int} {negative : Bool} {chars : List Char}
    (read : readDigits low high negative n chars = .ok m) : ∀ c ∈ chars, c.isDigit = true := by
  induction chars generalizing n with
  | nil => nofun
  | cons c rest ih =>
    rw [readDigits] at read
    generalize (if negative then 10 * n - digitValue c else 10 * n + digitValue c) = next at read
    simp only at read
    split at read
    · cases read
    · next digit =>
      split at read
      · cases read
      · split at read
        · cases read
        · exact List.forall_mem_cons.mpr ⟨by simpa using digit, ih read⟩

theorem read_unspaced {low high n : Int} {chars : List Char} (read : Numeral.read low high chars = .ok n) :
    Unspaced chars := by
  unfold Numeral.read at read
  split at read
  · cases read
  · cases read
  · cases read
  · exact .cons rfl (.of_digits (read_digits_ok read))
  · split at read
    · exact .cons rfl (.of_digits (read_digits_ok read))
    · cases read
  · exact .of_digits (read_digits_ok read)

end Numeral

theorem Decimal.read_unspaced {chars : List Char} {d : Decimal} (read : Decimal.read? chars = some d) :
    Unspaced chars := by
  obtain ⟨base, mark, n, digits, places, exponentCut, power, pointCut, mantissa, -⟩ := decimal_steps read
  obtain ⟨exponent, rfl⟩ := cut_exponent_some exponentCut power
  have run := Numeral.integer_unspaced mantissa
  have before : Unspaced base := by
    rcases cut_point_some pointCut with rfl | ⟨whole, fraction, rfl, rfl⟩
    · exact run
    · obtain ⟨early, late⟩ := List.forall_mem_append.mp run
      exact .append early (.cons rfl late)
  cases exponent with
  | none => exact before.append nofun
  | some exponent => exact before.append exponent.unspaced

namespace Literal

theorem float_unspaced {format : Format} {chars : List Char} {x : Binary format} (read : float? chars = some x) :
    Unspaced chars := by
  rcases float_some read with ⟨literal, rfl⟩ | ⟨sign, word, rfl, -, letters⟩
  · exact literal.unspaced
  · exact sign.unspaced.append fun c present => letter_not_blank (letters c present)

theorem alphabet_unspaced : Unspaced hexAlphabet := List.all_iff_forall_prop.mp rfl

theorem hex_word_unspaced {digits : List Char} {n : Nat} (read : hexWord? digits = some n) : Unspaced digits := by
  rw [hex_word_eq] at read
  split at read
  · next run =>
    intro c present
    have digit : c.toLower ∈ hexAlphabet := of_decide_eq_true (List.all_eq_true.mp run.1.2 c present)
    exact lower_not_blank (alphabet_unspaced _ digit)
  · cases read

variable {text : String}

theorem solid_of_ungrouped (unspaced : Unspaced (ungrouped text)) : Text.IsSolid text := by
  intro c present
  by_cases grouping : isGrouping c = true
  · have mark : c = '_' ∨ c = ',' := by simpa [isGrouping] using grouping
    rcases mark with rfl | rfl <;> rfl
  · exact unspaced c (List.mem_filter.mpr ⟨present, by simpa using grouping⟩)

theorem without_plus_unspaced {chars : List Char} (unspaced : Unspaced (withoutPlus chars)) : Unspaced chars := by
  rcases without_plus_cases chars with plus | ⟨same, -⟩
  · rw [plus]
    exact .cons rfl unspaced
  · rwa [same] at unspaced

theorem hex_digits_some {chars digits : List Char} (cut : hexDigits? chars = some digits) :
    ∃ x, (x = 'x' ∨ x = 'X') ∧ chars = '0' :: x :: digits := by
  unfold hexDigits? at cut
  split at cut
  · cases cut
    exact ⟨'x', .inl rfl, rfl⟩
  · cases cut
    exact ⟨'X', .inr rfl, rfl⟩
  · cases cut

theorem integer_solid {n : Int64} (read : integer? text = some n) : Text.IsSolid text := by
  apply solid_of_ungrouped
  obtain ⟨sign, split, -⟩ := signed_split (ungrouped text)
  simp only [integer?] at read
  split at read
  · next digits hex =>
    obtain ⟨m, word, -⟩ := Option.bind_eq_some_iff.mp read
    obtain ⟨x, mark, marked⟩ := hex_digits_some hex
    rw [split, marked]
    have letter : Text.isBlankChar x = false := by
      rcases mark with rfl | rfl <;> rfl
    exact sign.unspaced.append (.cons rfl (.cons letter (hex_word_unspaced word)))
  · split at read
    · next n found =>
      obtain ⟨m, number, -⟩ := Option.bind_eq_some_iff.mp found
      exact Numeral.integer_unspaced number
    · obtain ⟨x, number, -⟩ := Option.bind_eq_some_iff.mp read
      exact float_unspaced number

theorem float_solid {x : Double} (read : grouplessFloat? text = some x) : Text.IsSolid text :=
  solid_of_ungrouped (float_unspaced read)

theorem decimal_solid {d : Decimal} (read : decimal? text = some d) : Text.IsSolid text :=
  solid_of_ungrouped (without_plus_unspaced (Decimal.read_unspaced read))

theorem big_integer_solid {n : Int} (read : bigInteger? text = some n) : Text.IsSolid text := by
  simp only [bigInteger?] at read
  split at read
  · next m number => exact solid_of_ungrouped (without_plus_unspaced (Numeral.integer_unspaced number))
  · split at read
    · next m word => exact integer_solid word
    · obtain ⟨d, number, -⟩ := Option.bind_eq_some_iff.mp read
      exact solid_of_ungrouped (Decimal.read_unspaced number)

theorem boolean_solid {b : Bool} (read : boolean? text = some b) : Text.IsSolid text := by
  have truths : ∀ word ∈ ["true", "yes", "y", "t", "on", "1"], Text.IsSolid word := by decide
  have others : ∀ word ∈ ["false", "no", "n", "f", "off", "0"], Text.IsSolid word := by decide
  have lower : Text.IsSolid (String.ofList (text.toList.map Char.toLower)) := by
    simp only [boolean?] at read
    split at read
    · next present => exact truths _ present
    · split at read
      · next present => exact others _ present
      · cases read
  intro c present
  refine lower_not_blank (lower c.toLower ?_)
  rw [String.toList_ofList]
  exact List.mem_map_of_mem present

end Literal

namespace Duration

theorem rendered_unspaced (components : List Component) : Unspaced (rendered components) := by
  intro c present
  obtain ⟨component, -, within⟩ := List.mem_flatMap.mp present
  exact component.number.unspaced.append (.cons (letter_not_blank component.isLetter) (List.forall_mem_nil _)) c within

theorem Span.text_solid (span : Span) : Text.IsSolid span.text := by
  have mark : Text.isBlankChar span.mark = false := by
    rcases span.begins with same | same <;> rw [same] <;> rfl
  have timeMark : Text.isBlankChar span.timeMark = false := by
    rcases span.divides with same | same <;> rw [same] <;> rfl
  have time : Unspaced (behind span.timeMark span.time) := by
    unfold behind
    split
    · exact nofun
    · exact .cons timeMark (rendered_unspaced _)
  unfold Text.IsSolid
  rw [text, written, String.toList_ofList]
  exact Unspaced.cons mark ((rendered_unspaced span.date).append time)

theorem read_iso_solid {text : String} {d : Duration} (read : readIso? text = some d) : Text.IsSolid text := by
  obtain ⟨span, rfl⟩ := span_of_read read
  exact span.text_solid

end Duration

namespace Scalar

theorem millisecond_text_solid {text : String} {d : Duration} (read : millisecondText? text = some d) :
    Text.IsSolid text := by
  unfold millisecondText? at read
  split at read
  · next number => exact Numeral.read_unspaced number
  · cases read

def IsLiteral : Scalar → Prop
  | .bool | .int _ | .float _ | .bigInteger | .decimal | .duration => True
  | .char | .string | .path | .url | .dateTime => False

theorem found_some {α : Type} {make : α → Value} {missing : Reason} {read : Option α} {out : Value}
    (answer : found make missing read = .ok out) : ∃ x, read = some x := by
  cases read with
  | none => cases answer
  | some x => exact ⟨x, rfl⟩

theorem read_literal_solid {scalar : Scalar} (literal : scalar.IsLiteral) {config : Config} {text : String}
    (visible : Text.isBlank text = false) {out : Value} (answer : scalar.read config (.str text) = .ok out) :
    Text.IsSolid (config.prepare text) := by
  have notBlank : ¬ Value.isBlank (.str text) = true := Bool.eq_false_iff.mp visible
  cases scalar with
  | bool =>
    rw [read, toBoolean, if_neg notBlank] at answer
    obtain ⟨b, found⟩ := found_some answer
    exact Literal.boolean_solid found
  | int width =>
    rw [read, toInteger, if_neg notBlank] at answer
    cases found : Literal.integer? (config.prepare text) with
    | none => simp [word, found] at answer
    | some n => exact Literal.integer_solid found
  | float format =>
    rw [read, toFloat, if_neg notBlank] at answer
    cases found : Literal.grouplessFloat? (config.prepare text) with
    | none => simp [double, found] at answer
    | some x => exact Literal.float_solid found
  | bigInteger =>
    rw [read, toBigInteger, if_neg notBlank] at answer
    obtain ⟨n, found⟩ := found_some answer
    exact Literal.big_integer_solid found
  | decimal =>
    rw [read, toDecimal, if_neg notBlank] at answer
    obtain ⟨d, found⟩ := found_some answer
    exact Literal.decimal_solid found
  | duration =>
    rw [read, toDuration, if_neg notBlank] at answer
    obtain ⟨d, found⟩ := found_some answer
    rcases (Option.orElse_eq_some _ _ d).mp found with iso | ⟨-, milliseconds⟩
    · exact Duration.read_iso_solid iso
    · exact millisecond_text_solid milliseconds
  | char | string | path | url | dateTime => exact literal.elim

end Scalar

end Recast
