import Recast.Proofs.Number.OwnText
import Recast.Proofs.Registry.Modes
import Recast.Proofs.Registry.Soundness
import Recast.Proofs.Text.Padding
set_option autoImplicit false

/-!
Texts of white space alone. Every scalar that is read from text takes one for nothing, so that the default stands in for
it; only characters and documents do not, which read white space as they read any other text.
-/

namespace Recast

namespace Json

-- The white space of documents is skipped. The first character of another kind begins no value.
theorem read_value_blank {chars : List Char} (blank : ∀ c ∈ chars, Text.isBlankChar c = true) (fuel depth : Nat) :
    ∃ left, readValue (fuel + 1) depth chars =
      .error ⟨if chars.all isSpace then .endInValue else .value, left⟩ := by
  rw [readValue]
  cases rest : skipSpace chars with
  | nil =>
    have skipped : chars.all isSpace = true := List.all_eq_true.mpr (List.dropWhile_eq_nil_iff.mp rest)
    rw [if_pos skipped]
    exact ⟨_, rfl⟩
  | cons c others =>
    have kept : ¬ chars.all isSpace = true := by
      intro skipped
      rw [skipSpace, List.dropWhile_eq_nil_iff.mpr (List.all_eq_true.mp skipped)] at rest
      cases rest
    have present : c ∈ skipSpace chars := by
      rw [rest]
      exact List.mem_cons_self
    have white : Text.isBlankChar c = true := blank c ((List.dropWhile_sublist _).mem present)
    have other {d : Char} {tail : List Char} (visible : Text.isBlankChar d = false) : c :: others ≠ d :: tail := by
      rintro ⟨⟩
      exact Bool.false_ne_true (visible.symm.trans white)
    have noDigit : c.isDigit = false := by
      rw [← Bool.not_eq_true]
      exact fun digit => Bool.false_ne_true ((digit_not_blank digit).symm.trans white)
    rw [if_neg kept]
    split
    · next same => cases same
    · next same => exact absurd same (other rfl)
    · next same => exact absurd same (other rfl)
    · next same => exact absurd same (other rfl)
    · next same => exact absurd same (other rfl)
    · next same => exact absurd same (other rfl)
    · next same => exact absurd same (other rfl)
    · next same => exact absurd same (other rfl)
    · next same =>
      cases same
      rw [noDigit, if_neg Bool.false_ne_true]
      exact ⟨_, rfl⟩

theorem read_blank {text : String} (blank : Text.isBlank text = true) :
    ∃ fault, read text = .error fault ∧
      fault.cause = if text.toList.all isSpace then .endInValue else .value := by
  obtain ⟨left, stopped⟩ :=
    read_value_blank ((Text.is_blank_true_iff text).mp blank) (2 * text.toList.length + 1) depthLimit
  refine ⟨locate text.toList ⟨if text.toList.all isSpace then .endInValue else .value, left⟩, ?_, rfl⟩
  rw [read, readDocument, stopped]
  rfl

end Json

namespace Scalar

variable {config : Config} {text : String}

theorem read_blank {scalar : Scalar} (noChar : scalar ≠ .char) (noString : scalar ≠ .string)
    (blank : Text.isBlank text = true) : scalar.read config (.str text) = .ok .null := by
  have nothing : Value.isBlank (.str text) = true := blank
  cases scalar with
  | char => exact absurd rfl noChar
  | string => exact absurd rfl noString
  | bool => rw [read, toBoolean, if_pos nothing]
  | int width => rw [read, toInteger, if_pos nothing]
  | float format => rw [read, toFloat, if_pos nothing]
  | bigInteger => rw [read, toBigInteger, if_pos nothing]
  | decimal => rw [read, toDecimal, if_pos nothing]
  | path => rw [read, toPath, if_pos nothing]
  | duration => rw [read, toDuration, if_pos nothing]
  | url => rw [read, toUrl, if_pos nothing]
  | dateTime => rw [read, toDateTime, if_pos nothing]

theorem trim_blank (blank : Text.isBlank text = true) : Text.trim text = "" := by
  have nothing : Text.trimStart text.toList = [] :=
    List.dropWhile_eq_nil_iff.mpr ((Text.is_blank_true_iff text).mp blank)
  rw [Text.trim, nothing]
  rfl

theorem read_character_blank (blank : Text.isBlank text = true) :
    Scalar.char.read config (.str text) =
      match text.toList with
      | [] => .ok .null
      | [c] => .ok (.char c)
      | _ => .error .notCharacter := by
  have trimmed : singleChar? (Text.trim text) = none := by
    rw [trim_blank blank]
    rfl
  have empty : text = "" ↔ text.toList = [] := String.toList_eq_nil_iff.symm
  rw [read, toCharacter, trimmed, singleChar?]
  simp only [empty]
  cases text.toList with
  | nil => rfl
  | cons c others =>
    cases others with
    | nil => rfl
    | cons d rest => rfl

end Scalar

namespace Registry

section

variable {α : Type} [Typed α] {registry : Registry} {value : Value}

theorem convert_or_null (given : registry.convert (Typed.descriptor α) value = .ok .null) (default : α) :
    registry.convertOr value default = .ok default := by
  rw [convert_or_eq, (produce_none_iff registry value).mpr (.inr given)]
  rfl

theorem convert_or_taken (present : value.isNull = false) {out : Value} {x : α}
    (given : registry.convert (Typed.descriptor α) value = .ok out) (taken : take α value out = .ok (some x))
    (default : α) : registry.convertOr value default = .ok x := by
  rw [convert_or_eq, produce_present registry value present, given, Except.bind, taken]
  rfl

theorem convert_or_failed (present : value.isNull = false) {error : Error}
    (failed : registry.convert (Typed.descriptor α) value = .error error) (default : α) :
    registry.convertOr value default = .error error := by
  rw [convert_or_eq, produce_present registry value present, failed]
  rfl

end

theorem blank_text_converted {registry : Registry} (plain : registry.customs = []) {text : String}
    (blank : Text.isBlank text = true) :
    (∀ scalar : Scalar, scalar ≠ .char → scalar ≠ .string →
      registry.convert scalar.descriptor (.str text) = .ok .null ∧
      ∀ default : scalar.Carrier, registry.convertOr (.str text) default = .ok default) ∧
    (registry.convert Scalar.char.descriptor (.str text) =
        match text.toList with
        | [] => .ok .null
        | [c] => .ok (.char c)
        | _ => .error (.reject Scalar.char.descriptor (.str text) .notCharacter)) ∧
    (∀ default : Char, registry.convertOr (.str text) default =
        match text.toList with
        | [] => .ok default
        | [c] => .ok c
        | _ => .error (.reject Scalar.char.descriptor (.str text) .notCharacter)) ∧
    ∃ fault : Json.Fault, fault.cause = (if text.toList.all Json.isSpace then .endInValue else .value) ∧
      registry.convert Value.jsonDescriptor (.str text) =
        .error (.ofFault Value.jsonDescriptor (.str text) (.json fault)) ∧
      ∀ default : Json, registry.convertOr (.str text) default =
        .error (.ofFault Value.jsonDescriptor (.str text) (.json fault)) := by
  have single : registry.convert Scalar.char.descriptor (.str text) =
      match text.toList with
      | [] => .ok .null
      | [c] => .ok (.char c)
      | _ => .error (.reject Scalar.char.descriptor (.str text) .notCharacter) := by
    rw [convert_plain_scalar plain, Scalar.convert, Scalar.read_character_blank blank]
    cases text.toList with
    | nil => rfl
    | cons c others => cases others <;> rfl
  refine ⟨fun scalar noChar noString => ?_, single, fun default => ?_, ?_⟩
  · have nothing : registry.convert scalar.descriptor (.str text) = .ok .null := by
      rw [convert_plain_scalar plain, Scalar.convert_ok_iff]
      exact Scalar.read_blank noChar noString blank
    rw [← scalar.carrier_descriptor] at nothing
    exact ⟨by rwa [← scalar.carrier_descriptor], convert_or_null nothing⟩
  · cases chars : text.toList with
    | nil =>
      rw [chars] at single
      exact convert_or_null (α := Char) single default
    | cons c others =>
      rw [chars] at single
      cases others with
      | nil => exact convert_or_taken (α := Char) rfl single rfl default
      | cons d rest => exact convert_or_failed (α := Char) rfl single default
  · obtain ⟨fault, unread, cause⟩ := Json.read_blank blank
    have failed : registry.convert Value.jsonDescriptor (.str text) =
        .error (.ofFault Value.jsonDescriptor (.str text) (.json fault)) := by
      rw [convert_json (resolve_builtin (custom_none plain _) builtin_json), Value.document, unread]
    exact ⟨fault, cause, failed, convert_or_failed (α := Json) rfl failed⟩

theorem ideographic_space_is_nothing :
    let registry := Registry.new ⟨.defaultFirst, false, ';', false⟩
    registry.convert (.concrete "Duration") (.str "\u3000\n") = .ok .null ∧
      registry.convertOr (.str "\u3000\n") (5 : Int64) = .ok 5 ∧
      registry.convert (.concrete "char") (.str "\u3000\n") =
        .error (.reject Scalar.char.descriptor (.str "\u3000\n") .notCharacter) := by
  intro registry
  have plain : registry.customs = [] := rfl
  have blank : Text.isBlank "\u3000\n" = true := by decide
  obtain ⟨nothing, single, -, -⟩ := blank_text_converted plain blank
  exact ⟨(nothing .duration nofun nofun).1, (nothing (.int .bits64) nofun nofun).2 (5 : Int64), single⟩

theorem two_spaces_refused :
    let registry := Registry.new .default
    registry.customs = [] ∧ Text.isBlank "  " = true ∧ 2 ≤ "  ".toList.length ∧
      registry.convert (.concrete "char") (.str "  ") =
        .error (.reject Scalar.char.descriptor (.str "  ") .notCharacter) ∧
      registry.convertOr (.str "  ") 'x' = .error (.reject Scalar.char.descriptor (.str "  ") .notCharacter) ∧
      registry.convert (.concrete "Json") (.str "  ") =
        .error (.ofFault Value.jsonDescriptor (.str "  ") (.json ⟨.endInValue, 1, 2⟩)) :=
  ⟨rfl, by decide, by decide, rfl, rfl, rfl⟩

end Registry

end Recast
