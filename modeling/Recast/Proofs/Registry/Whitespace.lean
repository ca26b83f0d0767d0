import Recast.Proofs.Registry.Soundness
import Recast.Proofs.Scalar.Solid
import Recast.Proofs.Text.Padding
set_option autoImplicit false

namespace Recast

namespace Scalar

theorem read_prepared {scalar : Scalar} (noChar : scalar ≠ .char) (noString : scalar ≠ .string) {config : Config}
    {text other : String} (blank : Text.isBlank text = Text.isBlank other)
    (prepared : config.prepare text = config.prepare other) :
    scalar.read config (.str text) = scalar.read config (.str other) := by
  have same : Value.isBlank (.str text) = Value.isBlank (.str other) := blank
  cases scalar with
  | char => exact absurd rfl noChar
  | string => exact absurd rfl noString
  | bool => simp only [read, toBoolean, same, prepared]
  | int width => simp only [read, toInteger, word, same, prepared]
  | float format => simp only [read, toFloat, double, same, prepared]
  | bigInteger => simp only [read, toBigInteger, same, prepared]
  | decimal => simp only [read, toDecimal, same, prepared]
  | path => simp only [read, toPath, same, prepared]
  | duration => simp only [read, toDuration, same, prepared]
  | url => simp only [read, toUrl, same, prepared]
  | dateTime => simp only [read, toDateTime, same, prepared]

theorem read_literal_spaced {scalar : Scalar} (literal : scalar.IsLiteral) {config : Config}
    (untrimmed : config.trimStrings = false) {text : String} (visible : Text.isBlank text = false)
    (spaced : ¬ Text.IsSolid text) : ∃ reason, scalar.read config (.str text) = .error reason := by
  cases answer : scalar.read config (.str text) with
  | error reason => exact ⟨reason, rfl⟩
  | ok out =>
    have solid := read_literal_solid literal visible answer
    rw [Config.prepare, untrimmed, if_neg Bool.false_ne_true] at solid
    exact absurd solid spaced

theorem single_char_iff {text : String} {c : Char} : singleChar? text = some c ↔ text.toList = [c] := by
  unfold singleChar?
  split
  · next first same => simp [same]
  · next other => exact iff_of_false nofun (other c)

theorem single_char_none {text : String} (visible : Text.isBlank text = false) (spaced : ¬ Text.IsSolid text) :
    singleChar? text = none := by
  rw [Option.eq_none_iff_forall_ne_some]
  intro c single
  have alone := single_char_iff.mp single
  have solid : Text.isBlankChar c = false := by simpa [Text.isBlank, alone] using visible
  exact spaced (by simpa [Text.IsSolid, alone] using solid)

theorem read_character_spaced {text : String} (visible : Text.isBlank text = false) (spaced : ¬ Text.IsSolid text)
    {config : Config} {out : Value} :
    Scalar.char.read config (.str text) = .ok out ↔ ∃ c, (Text.trim text).toList = [c] ∧ out = .char c := by
  have nonempty : text ≠ "" := by
    rintro rfl
    cases visible
  have only : Scalar.char.read config (.str text) = found Value.char .notCharacter (singleChar? (Text.trim text)) := by
    rw [read, toCharacter, if_neg nonempty, single_char_none visible spaced]
    rfl
  rw [only]
  constructor
  · intro answer
    obtain ⟨c, single⟩ := found_some answer
    rw [single] at answer
    exact ⟨c, single_char_iff.mp single, (Except.ok.inj answer).symm⟩
  · rintro ⟨c, alone, rfl⟩
    rw [single_char_iff.mpr alone]
    rfl

end Scalar

theorem items_of_padded {config : Config} (trims : config.trimStrings = true)
    (solid : Text.isBlankChar config.arraySeparator = false) {texts padded : List String}
    (apart : ∀ text ∈ texts, config.arraySeparator ∉ text.toList) (each : List.Forall₂ Text.Padded texts padded) :
    itemsOf config (.str (Text.join config.arraySeparator padded)) =
      itemsOf config (.str (Text.join config.arraySeparator texts)) := by
  have prepare : (fun piece => Value.str (config.prepare piece)) = Value.str ∘ Text.trim := by
    funext piece
    rw [Config.prepare, if_pos trims, Function.comp_apply]
  rw [itemsOf, itemsOf, splitText, splitText, Text.join_is_blank_eq each, prepare, ← List.map_map, ← List.map_map,
    Text.split_join_padded each solid apart]

namespace Registry

theorem untrimmed_white_space {registry : Registry} (plain : registry.customs = [])
    (untrimmed : registry.config.trimStrings = false) {text : String} (visible : Text.isBlank text = false)
    {c : Char} (present : c ∈ text.toList) (white : Text.isBlankChar c = true) :
    (∀ scalar : Scalar, scalar.IsLiteral →
      ∃ reason, registry.convert scalar.descriptor (.str text) =
        .error (.reject scalar.descriptor (.str text) reason)) ∧
    ∀ out, registry.convert Scalar.char.descriptor (.str text) = .ok out ↔
      ∃ c, (Text.trim text).toList = [c] ∧ out = .char c := by
  have spaced : ¬ Text.IsSolid text := fun solid => Bool.false_ne_true ((solid c present).symm.trans white)
  constructor
  · intro scalar literal
    obtain ⟨reason, refused⟩ := Scalar.read_literal_spaced literal untrimmed visible spaced
    rw [convert_plain_scalar plain]
    exact ⟨reason, Scalar.convert_error_iff.mpr ⟨reason, refused, rfl⟩⟩
  · intro out
    rw [convert_plain_scalar plain, Scalar.convert_ok_iff]
    exact Scalar.read_character_spaced visible spaced

theorem truth_letter_behind_space :
    let registry := Registry.new ⟨.customFirst, false, ',', false⟩
    (∃ reason, registry.convert (.concrete "bool") (.str "\u2003t") =
        .error (.reject (.concrete "bool") (.str "\u2003t") reason)) ∧
      registry.convert (.concrete "char") (.str "\u2003t") = .ok (.char 't') := by
  intro registry
  have plain : registry.customs = [] := rfl
  have visible : Text.isBlank "\u2003t" = false := by decide
  have white : Text.isBlankChar '\u2003' = true := by decide
  obtain ⟨literals, single⟩ := untrimmed_white_space plain rfl visible (by decide) white
  exact ⟨literals .bool trivial, (single (.char 't')).mpr ⟨'t', by decide, rfl⟩⟩

theorem spaced_character_accepted :
    let registry := Registry.new ⟨.customFirst, false, ',', false⟩
    registry.customs = [] ∧ registry.config.trimStrings = false ∧ Text.isBlank " a" = false ∧
      registry.convert (.concrete "char") (.str " a") = .ok (.char 'a') :=
  ⟨rfl, rfl, by decide, rfl⟩

theorem padding_ignored {registry : Registry} (plain : registry.customs = [])
    (trims : registry.config.trimStrings = true) (scalar : Scalar) :
    (scalar ≠ .char → scalar ≠ .string → ∀ text padded : String, Text.Padded text padded →
      (∀ out, registry.convert scalar.descriptor (.str padded) = .ok out ↔
        registry.convert scalar.descriptor (.str text) = .ok out) ∧
      ∀ reason, registry.convert scalar.descriptor (.str padded) =
          .error (.reject scalar.descriptor (.str padded) reason) ↔
        registry.convert scalar.descriptor (.str text) = .error (.reject scalar.descriptor (.str text) reason)) ∧
    (Text.isBlankChar registry.config.arraySeparator = false → ∀ texts padded : List String,
      (∀ text ∈ texts, registry.config.arraySeparator ∉ text.toList) → List.Forall₂ Text.Padded texts padded →
        registry.convert (.arrayOf scalar.descriptor)
            (.str ((String.singleton registry.config.arraySeparator).intercalate padded)) =
          registry.convert (.arrayOf scalar.descriptor)
            (.str ((String.singleton registry.config.arraySeparator).intercalate texts))) := by
  constructor
  · intro noChar noString text padded around
    have prepared : registry.config.prepare padded = registry.config.prepare text := by
      rw [Config.prepare, Config.prepare, if_pos trims, if_pos trims, around.trim_eq]
    have same := Scalar.read_prepared noChar noString around.is_blank_eq prepared
    rw [convert_plain_scalar plain, convert_plain_scalar plain, Scalar.convert, Scalar.convert, same]
    cases scalar.read registry.config (.str text) with
    | ok given => simp
    | error given => simp [Error.reject]
  · intro solid texts padded apart each
    rw [← Text.join_eq, ← Text.join_eq, convert_plain_array plain, convert_plain_array plain,
      items_of_padded trims solid apart each]
    rfl

theorem spaced_truths_converted :
    let registry := Registry.new ⟨.customFirst, true, ';', false⟩
    registry.convert (.concrete "bool") (.str "\u3000yes\n") = .ok (.bool true) ∧
      registry.convert (.arrayOf (.concrete "bool")) (.str " off ;yes") =
        registry.convert (.arrayOf (.concrete "bool")) (.str "off;yes") := by
  intro registry
  have plain : registry.customs = [] := rfl
  have around : Text.Padded "yes" "\u3000yes\n" := ⟨"\u3000", "\n", by decide, by decide, by decide⟩
  have first : Text.Padded "off" " off " := ⟨" ", " ", by decide, by decide, by decide⟩
  have second : Text.Padded "yes" "yes" := ⟨"", "", by decide, by decide, by decide⟩
  have word : registry.convert Scalar.bool.descriptor (.str "yes") = .ok (.bool true) := by
    have found : Literal.boolean? (registry.config.prepare "yes") = some true := by decide
    have visible : Value.isBlank (.str "yes") = false := by decide
    rw [convert_plain_scalar plain, Scalar.convert_ok_iff]
    simp [Scalar.read, Scalar.toBoolean, visible, found, Scalar.found]
  obtain ⟨alone, pieces⟩ := padding_ignored plain rfl .bool
  constructor
  · exact ((alone (by decide) (by decide) "yes" _ around).1 _).mpr word
  · exact pieces (by decide) ["off", "yes"] [" off ", "yes"] (by decide) (.cons first (.cons second .nil))

end Registry

end Recast
