import Recast.Proofs.Number.OwnText
import Recast.Proofs.Registry.Soundness
import Recast.Proofs.Scalar.Stability
set_option autoImplicit false

namespace Recast

theorem items_of_joined (config : Config) {texts : List String}
    (apart : ∀ text ∈ texts, config.arraySeparator ∉ text.toList)
    (prepared : ∀ text ∈ texts, config.prepare text = text)
    (visible : texts = [] ∨ Text.isBlank (Text.join config.arraySeparator texts) = false) :
    itemsOf config (.str (Text.join config.arraySeparator texts)) = texts.map .str := by
  by_cases nonempty : texts = []
  · subst nonempty
    rfl
  · have written := visible.resolve_left nonempty
    rw [itemsOf, splitText, written, if_neg Bool.false_ne_true, Text.split_join nonempty apart]
    exact List.map_congr_left fun text present => by rw [prepared text present]

namespace Scalar

variable (config : Config)

theorem read_integer_text {width : Width} {n : Int64} (holds : (Scalar.int width).Holds (.int n)) :
    (Scalar.int width).read config (.str (Value.int n).text) = .ok (.int n) := by
  have written : Value.isBlank (.str (Numeral.text n.toInt)) = false := Numeral.text_not_blank n.toInt
  have own : Literal.integer? (config.prepare (Numeral.text n.toInt)) = some n := by
    rw [config.prepare_solid (Numeral.text_solid n.toInt), Literal.integer_own_text]
  simp [read, toInteger, Value.text, written, word, own, in_width_within holds]

theorem read_big_integer_text (n : Int) :
    Scalar.bigInteger.read config (.str (Value.bigInt n).text) = .ok (.bigInt n) := by
  have written : Value.isBlank (.str (Numeral.text n)) = false := Numeral.text_not_blank n
  have own : Literal.bigInteger? (config.prepare (Numeral.text n)) = some n := by
    rw [config.prepare_solid (Numeral.text_solid n), Literal.big_integer_own_text]
  simp [read, toBigInteger, Value.text, written, own, found]

theorem read_boolean_text (b : Bool) : Scalar.bool.read config (.str (Value.bool b).text) = .ok (.bool b) := by
  have solid : Text.IsSolid (Value.bool b).text := by
    cases b <;> decide
  have own : Literal.boolean? (Value.bool b).text = some b := by
    cases b <;> decide
  have written : Value.isBlank (.str (Value.bool b).text) = false := by
    cases b <;> decide
  simp [read, toBoolean, written, config.prepare_solid solid, own, found]

theorem read_character_text (c : Char) : Scalar.char.read config (.str (Value.char c).text) = .ok (.char c) := by
  have single : singleChar? (String.singleton c) = some c := by simp [singleChar?]
  simp [read, toCharacter, Value.text, single, found]

end Scalar

namespace Registry

def ThereAndBack (registry : Registry) (source : Descriptor) (value : Value) (target : Descriptor) (other : Value) :
    Prop :=
  registry.convert target value = .ok other ∧ registry.convert source other = .ok value

theorem texts_shown (texts : List String) : (texts.map Value.str).map Value.text = texts := by
  simp [Value.text, Function.comp_def]

section

variable {registry : Registry} (plain : registry.customs = []) {scalar : Scalar}

include plain

theorem convert_to_text (value : Value) :
    registry.convert Scalar.string.descriptor value = .ok (Scalar.toText registry.config value) := by
  rw [convert_plain_scalar plain]
  rfl

theorem convert_read {value out : Value} (legible : scalar.read registry.config value = .ok out) :
    registry.convert scalar.descriptor value = .ok out :=
  (convert_plain_ok_iff plain scalar value).mpr legible

theorem scalar_and_text {value : Value} (shown : Scalar.toText registry.config value = .str value.text)
    (legible : scalar.read registry.config (.str value.text) = .ok value) :
    registry.ThereAndBack scalar.descriptor value Scalar.string.descriptor (.str value.text) := by
  refine ⟨?_, convert_read plain legible⟩
  rw [convert_to_text plain, shown]

theorem array_and_text {items : List Value} {texts : List String} (shown : items.map Value.text = texts)
    (each : ∀ item ∈ items, scalar.read registry.config (.str item.text) = .ok item)
    (apart : ∀ text ∈ texts, registry.config.arraySeparator ∉ text.toList)
    (prepared : ∀ text ∈ texts, registry.config.prepare text = text)
    (visible : texts = [] ∨
      Text.isBlank ((String.singleton registry.config.arraySeparator).intercalate texts) = false) :
    registry.ThereAndBack (.arrayOf scalar.descriptor) (.array items) Scalar.string.descriptor
      (.str ((String.singleton registry.config.arraySeparator).intercalate texts)) := by
  subst shown
  rw [← Text.join_eq] at visible ⊢
  have passed : ((items.map Value.text).map Value.str).mapM (registry.convert scalar.descriptor) = .ok items := by
    rw [Traversal.mapM_ok_iff, List.forall₂_map_left_iff, List.forall₂_map_left_iff, List.forall₂_same]
    exact fun item present => convert_read plain (each item present)
  refine ⟨convert_to_text plain _, ?_⟩
  rw [convert_plain_array plain, items_of_joined registry.config apart prepared visible, passed]
  rfl

theorem text_and_pieces (literal : registry.config.trimStrings = false) {text : String}
    (visible : Text.isBlank text = false) :
    registry.ThereAndBack Scalar.string.descriptor (.str text) (.arrayOf Scalar.string.descriptor)
      (.array ((Text.split registry.config.arraySeparator text).map .str)) := by
  have pieces : itemsOf registry.config (.str text) =
      (Text.split registry.config.arraySeparator text).map .str := by
    simp [itemsOf, splitText, visible, Config.prepare, literal]
  have passed : ∀ texts : List String,
      (texts.map Value.str).mapM (registry.convert Scalar.string.descriptor) = .ok (texts.map .str) := by
    intro texts
    rw [Traversal.mapM_ok_iff, List.forall₂_same]
    exact List.forall_mem_map.mpr fun piece _ => convert_to_text plain (.str piece)
  constructor
  · rw [convert_plain_array plain, pieces, passed]
    rfl
  · rw [convert_to_text plain, Scalar.toText, texts_shown, Text.join_split]

theorem integers_and_text {width : Scalar.Width} {numbers : List Int64}
    (within : ∀ n ∈ numbers, width.low ≤ n.toInt ∧ n.toInt ≤ width.high)
    (noDigit : registry.config.arraySeparator.isDigit = false) (noMinus : registry.config.arraySeparator ≠ '-') :
    registry.ThereAndBack (.arrayOf (Scalar.int width).descriptor) (.array (numbers.map .int))
      Scalar.string.descriptor (.str ((String.singleton registry.config.arraySeparator).intercalate
        (numbers.map fun n => Numeral.text n.toInt))) := by
  apply array_and_text plain
  · simp [Value.text, Function.comp_def]
  · exact List.forall_mem_map.mpr fun n present => Scalar.read_integer_text registry.config (within n present)
  · refine List.forall_mem_map.mpr fun n _ => ?_
    rw [Numeral.text_to_list]
    exact Numeral.not_mem_to_chars n.toInt noDigit noMinus
  · exact List.forall_mem_map.mpr fun n _ => registry.config.prepare_solid (Numeral.text_solid n.toInt)
  · cases numbers with
    | nil => exact .inl rfl
    | cons n rest =>
      rw [← Text.join_eq]
      exact .inr (Text.join_not_blank _ List.mem_cons_self (Numeral.text_not_blank n.toInt))

end

theorem joining_inverts_splitting {registry : Registry} (plain : registry.customs = []) :
    (∀ texts : List String, (∀ text ∈ texts, registry.config.arraySeparator ∉ text.toList) →
      (registry.config.trimStrings = true → ∀ text ∈ texts, Text.trim text = text) →
      (texts = [] ∨ Text.isBlank ((String.singleton registry.config.arraySeparator).intercalate texts) = false) →
      registry.ThereAndBack (.arrayOf Scalar.string.descriptor) (.array (texts.map .str)) Scalar.string.descriptor
        (.str ((String.singleton registry.config.arraySeparator).intercalate texts))) ∧
    (registry.config.trimStrings = false → ∀ text, Text.isBlank text = false →
      registry.ThereAndBack Scalar.string.descriptor (.str text) (.arrayOf Scalar.string.descriptor)
        (.array ((text.toList.splitOn registry.config.arraySeparator).map fun piece =>
          .str (String.ofList piece)))) := by
  constructor
  · intro texts apart trimmed visible
    have prepared : ∀ text ∈ texts, registry.config.prepare text = text := by
      intro text present
      by_cases trims : registry.config.trimStrings = true
      · simp [Config.prepare, trims, trimmed trims text present]
      · simp [Config.prepare, trims]
    exact array_and_text plain (texts_shown texts) (List.forall_mem_map.mpr fun _ _ => rfl) apart prepared visible
  · intro literal text visible
    have pieces := text_and_pieces plain literal visible
    rwa [Text.split, Text.pieces_eq, List.map_map] at pieces

theorem arrows_between_texts :
    let trimming := Registry.new ⟨.customFirst, true, '→', false⟩
    let literal := Registry.new ⟨.customFirst, false, '→', false⟩
    trimming.ThereAndBack (.arrayOf (.concrete "String")) (.array [.str "", .str "a, b", .str ""])
        (.concrete "String") (.str "→a, b→") ∧
      literal.ThereAndBack (.concrete "String") (.str " → a") (.arrayOf (.concrete "String"))
        (.array [.str " ", .str " a"]) := by
  intro trimming literal
  have plain : trimming.customs = [] ∧ literal.customs = [] := ⟨rfl, rfl⟩
  obtain ⟨joined, -⟩ := joining_inverts_splitting plain.1
  obtain ⟨-, cut⟩ := joining_inverts_splitting plain.2
  exact ⟨joined ["", "a, b", ""] (by decide) (fun _ => by decide) (.inr (by decide)), cut rfl " → a" (by decide)⟩

theorem returns_through_text {registry : Registry} (plain : registry.customs = []) :
    (∀ (width : Scalar.Width) (n : Int64), width.low ≤ n.toInt → n.toInt ≤ width.high →
      registry.ThereAndBack (Scalar.int width).descriptor (.int n) Scalar.string.descriptor
        (.str (toString n.toInt))) ∧
    (∀ b : Bool, registry.ThereAndBack Scalar.bool.descriptor (.bool b) Scalar.string.descriptor (.str (toString b))) ∧
    (∀ c : Char, registry.ThereAndBack Scalar.char.descriptor (.char c) Scalar.string.descriptor (.str (toString c))) ∧
    (∀ n : Int, registry.ThereAndBack Scalar.bigInteger.descriptor (.bigInt n) Scalar.string.descriptor
      (.str (toString n))) ∧
    (∀ (width : Scalar.Width) (numbers : List Int64),
      (∀ n ∈ numbers, width.low ≤ n.toInt ∧ n.toInt ≤ width.high) →
      registry.config.arraySeparator.isDigit = false → registry.config.arraySeparator ≠ '-' →
      registry.ThereAndBack (.arrayOf (Scalar.int width).descriptor) (.array (numbers.map .int))
        Scalar.string.descriptor (.str ((String.singleton registry.config.arraySeparator).intercalate
          (numbers.map fun n => toString n.toInt)))) := by
  simp only [← Numeral.text_eq]
  refine ⟨fun width n low high => ?_, fun b => ?_, fun c => ?_, fun n => ?_,
    fun width numbers within noDigit noMinus => ?_⟩
  · exact scalar_and_text plain rfl (Scalar.read_integer_text registry.config ⟨low, high⟩)
  · cases b with
    | false | true => exact scalar_and_text plain rfl (Scalar.read_boolean_text registry.config _)
  · exact scalar_and_text plain rfl (Scalar.read_character_text registry.config c)
  · exact scalar_and_text plain rfl (Scalar.read_big_integer_text registry.config n)
  · exact integers_and_text plain within noDigit noMinus

theorem underscores_between_bytes :
    let registry := Registry.new ⟨.customFirst, true, '_', false⟩
    registry.ThereAndBack (.concrete "i8") (.int (-128)) (.concrete "String") (.str "-128") ∧
      registry.ThereAndBack (.arrayOf (.concrete "i8")) (.array [.int (-128), .int 0, .int 127])
        (.concrete "String") (.str "-128_0_127") := by
  intro registry
  have plain : registry.customs = [] := rfl
  have bytes : ∀ n ∈ [(-128 : Int64), 0, 127], Scalar.Width.low .bits8 ≤ n.toInt ∧ n.toInt ≤ Scalar.Width.high .bits8 :=
    List.forall_iff_forall_mem.mp (by decide)
  obtain ⟨integer, -, -, -, integers⟩ := returns_through_text plain
  exact ⟨integer .bits8 (-128) (by decide) (by decide), integers .bits8 [-128, 0, 127] bytes (by decide) (by decide)⟩

end Registry

end Recast
