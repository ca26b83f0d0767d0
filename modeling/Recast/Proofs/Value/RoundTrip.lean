import Recast.Proofs.Registry.Dispatch
import Recast.Proofs.Registry.Modes
set_option autoImplicit false

/-!
Documents become values and values documents. There and back again nothing is lost, except that
whole numbers from `2 ^ 63` on become big integers, which are refused on the way back.
-/

namespace Recast

def Json.Number.isNarrow : Json.Number → Bool
  | .whole n _ => n < 2 ^ 63
  | .binary _ _ => true

mutual
def Json.isNarrow : Json → Bool
  | .number n => n.isNarrow
  | .array items => Json.areNarrow items
  | .object fields => Json.holdNarrow fields
  | _ => true
def Json.areNarrow : List Json → Bool
  | [] => true
  | item :: rest => item.isNarrow && Json.areNarrow rest
def Json.holdNarrow : List (String × Json) → Bool
  | [] => true
  | (_, item) :: rest => item.isNarrow && Json.holdNarrow rest
end

namespace Value

def tooWide : Error := .shape jsonDescriptor "big integer"

theorem of_integer_narrow (n : Int) (low : -2 ^ 63 ≤ n) (high : n < 2 ^ 63) : ofInteger n = .int (Int64.ofInt n) := by
  rw [ofInteger, Numeral.toWord?, if_pos ⟨low, high⟩]

theorem of_integer_wide (n : Int) (wide : ¬ n < 2 ^ 63) : ofInteger n = .bigInt n := by
  have beyond : ¬ (-2 ^ 63 ≤ n ∧ n < 2 ^ 63) := fun within => wide within.2
  rw [ofInteger, Numeral.toWord?, if_neg beyond]

theorem to_json_of_number (number : Json.Number) :
    toJson (ofNumber number) = if number.isNarrow then .ok (.number number) else .error tooWide := by
  cases number with
  | whole n fits =>
    by_cases narrow : n < 2 ^ 63
    · -- The word does not wrap around, so that the way back finds the number again.
      have same : (Int64.ofInt n).toInt = n := Int64.toInt_ofInt_of_le fits.1 narrow
      simp only [ofNumber, of_integer_narrow n fits.1 narrow, toJson, same, Json.Number.isNarrow,
        decide_eq_true narrow, if_pos]
    · simp only [ofNumber, of_integer_wide n narrow, toJson, Json.Number.isNarrow, decide_eq_false narrow]
      rfl
  | binary x finite =>
    simp only [ofNumber, toJson, Json.ofDouble?, dif_pos finite, Json.Number.isNarrow, if_pos]

-- By induction on the document, its lists along with it. A list stops at its first failure, but all
-- failures are the same one, so that a conjunction over the items tells the outcome.
mutual
theorem to_json_of_json (document : Json) :
    toJson (ofJson document) = if document.isNarrow then .ok document else .error tooWide := by
  cases document with
  | null => rfl
  | bool b => rfl
  | string text => rfl
  | number number => exact to_json_of_number number
  | array items =>
    rw [ofJson, toJson, to_items_of_items items, Json.isNarrow]
    cases Json.areNarrow items with
    | true => rfl
    | false => rfl
  | object fields =>
    rw [ofJson, toJson, to_fields_of_fields fields, Json.isNarrow]
    cases Json.holdNarrow fields with
    | true => rfl
    | false => rfl
theorem to_items_of_items (items : List Json) :
    toItems (ofItems items) = if Json.areNarrow items then .ok items else .error tooWide := by
  cases items with
  | nil => rfl
  | cons item rest =>
    rw [ofItems, toItems, to_json_of_json item, to_items_of_items rest, Json.areNarrow]
    cases item.isNarrow with
    | false => rfl
    | true =>
      cases Json.areNarrow rest with
      | true => rfl
      | false => rfl
theorem to_fields_of_fields (fields : List (String × Json)) :
    toFields (ofFields fields) = if Json.holdNarrow fields then .ok fields else .error tooWide := by
  cases fields with
  | nil => rfl
  | cons field rest =>
    obtain ⟨key, item⟩ := field
    rw [ofFields, toFields, to_json_of_json item, to_fields_of_fields rest, Json.holdNarrow]
    cases item.isNarrow with
    | false => rfl
    | true =>
      cases Json.holdNarrow rest with
      | true => rfl
      | false => rfl
end

theorem of_json_null_iff (document : Json) : ofJson document = .null ↔ document = .null := by
  cases document with
  | null => exact iff_of_true rfl rfl
  | number number =>
    cases number with
    | whole n fits =>
      simp only [ofJson, ofNumber, ofInteger]
      cases Numeral.toWord? n with
      | none => exact iff_of_false nofun nofun
      | some word => exact iff_of_false nofun nofun
    | binary x finite => exact iff_of_false nofun nofun
  | _ => exact iff_of_false nofun nofun

theorem document_text {text : String} {document : Json} (read : Json.read text = .ok document) (target : Descriptor) :
    Value.document target (.str text) = .ok (.ofJson document) := by
  rw [Value.document, read]

end Value

namespace Registry

theorem convert_json_text (registry : Registry) (uncustomised : registry.custom? Value.jsonDescriptor = none)
    {text : String} {document : Json} (read : Json.read text = .ok document) :
    registry.convert Value.jsonDescriptor (.str text) = .ok (.ofJson document) := by
  rw [convert_json (resolve_builtin uncustomised builtin_json), Value.document_text read]

theorem take_of_json (input : Value) {document : Json} (present : document ≠ .null) :
    take Json input (.ofJson document) = if document.isNarrow then .ok (some document)
      else .error (.ofUnfit Value.jsonDescriptor input Value.tooWide) := by
  have extracted : Typed.extract (Value.ofJson document) =
      if document.isNarrow then .ok document else .error Value.tooWide := Value.to_json_of_json document
  rw [take_present (mt (Value.of_json_null_iff document).mp present), extracted]
  cases document.isNarrow with
  | true => rfl
  | false => rfl

theorem convert_to_json_text (registry : Registry) (uncustomised : registry.custom? Value.jsonDescriptor = none)
    {text : String} {document : Json} (read : Json.read text = .ok document) (present : document ≠ .null) :
    registry.convertTo Json (.str text) = if document.isNarrow then .ok document
      else .error (.ofUnfit Value.jsonDescriptor (.str text) Value.tooWide) := by
  have given : registry.convert (Typed.descriptor Json) (.str text) = .ok (.ofJson document) :=
    convert_json_text registry uncustomised read
  rw [convert_to_eq, produce_present registry (.str text) rfl, given, Except.bind, take_of_json _ present]
  cases document.isNarrow with
  | true => rfl
  | false => rfl

end Registry

theorem documents_return_narrow (document : Json) :
    Value.toJson (.ofJson document) = (if document.isNarrow then .ok document else .error Value.tooWide) ∧
    ∀ text, Json.read text = .ok document →
      (∀ target, Value.document target (.str text) = .ok (.ofJson document)) ∧
      ∀ registry : Registry, registry.custom? Value.jsonDescriptor = none →
        registry.convert Value.jsonDescriptor (.str text) = .ok (.ofJson document) ∧
        (document ≠ .null →
          registry.convertTo Json (.str text) = if document.isNarrow then .ok document
            else .error (.ofUnfit Value.jsonDescriptor (.str text) Value.tooWide)) := by
  refine ⟨Value.to_json_of_json document, fun text read => ⟨Value.document_text read, ?_⟩⟩
  intro registry uncustomised
  exact ⟨registry.convert_json_text uncustomised read, registry.convert_to_json_text uncustomised read⟩

theorem read_list_of_one : Json.read "[1]" = .ok (.array [.number (.whole 1 (by decide))]) := by rfl

theorem list_of_one_returned :
    (Registry.new .default).convertTo Json (.str "[1]") = .ok (.array [.number (.whole 1 (by decide))]) :=
  (((documents_return_narrow _).2 _ read_list_of_one).2 (.new .default) rfl).2 nofun

theorem read_two_to_sixty_three :
    Json.read "9223372036854775808" = .ok (.number (.whole 9223372036854775808 (by decide))) := by rfl

theorem two_to_sixty_three_refused :
    ∃ document, Json.read "9223372036854775808" = .ok document ∧
      Value.toJson (.ofJson document) = .error (.shape Value.jsonDescriptor "big integer") ∧
      (Registry.new .default).convertTo Json (.str "9223372036854775808") =
        .error (.ofUnfit Value.jsonDescriptor (.str "9223372036854775808")
          (.shape Value.jsonDescriptor "big integer")) :=
  ⟨_, read_two_to_sixty_three, Value.to_json_of_json _,
    Registry.convert_to_json_text (.new .default) rfl read_two_to_sixty_three nofun⟩

end Recast
