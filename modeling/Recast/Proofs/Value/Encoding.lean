import Recast.Proofs.Value.Parts
import Recast.Proofs.Value.RoundTrip
set_option autoImplicit false

namespace Recast.Value

def fitsDocument : Value → Bool
  | .null | .bool _ | .int _ | .str _ | .array _ | .map _ => true
  | .float x => x.isFinite
  | _ => false

def misfit? (value : Value) : Option String :=
  if value.fitsDocument then none else some value.typeName

def Frame.document : Frame → List Json → Json
  | .array _, documents => .array documents
  | .map keys, documents => .object (keys.zip documents)

theorem misfit_none_iff (value : Value) : value.misfit? = none ↔ value.fitsDocument = true := by
  simp [misfit?]

theorem to_items_eq (items : List Value) : toItems items = items.mapM toJson :=
  Traversal.eq_mapM toJson toItems rfl (fun _ _ => rfl) items

theorem to_fields_eq (entries : List (String × Value)) :
    toFields entries = ((entries.map Prod.snd).mapM toJson).map (entries.map Prod.fst).zip :=
  Traversal.eq_mapM_zip toJson toFields rfl (fun _ _ => rfl) entries

theorem to_json_walks : Walks toJson Frame.document misfit? fun _ => .shape jsonDescriptor where
  inner value frame framed := by
    cases value with
    | array items =>
      cases framed
      refine ⟨?_, rfl⟩
      rw [toJson, to_items_eq, bind_pure_comp]
      rfl
    | map entries =>
      cases framed
      refine ⟨?_, rfl⟩
      rw [toJson, to_fields_eq, bind_pure_comp]
      exact Functor.map_map ..
    | _ => cases framed
  leaf value leaf error := by
    cases value with
    | array | map => cases leaf
    | null | bool | int | str => exact iff_of_false nofun nofun
    | float x =>
      cases finite : x.isFinite with
      | true => simp [toJson, Json.ofDouble?, misfit?, fitsDocument, finite]
      | false => simp [toJson, Json.ofDouble?, misfit?, fitsDocument, finite, Error.ofShape]
    | _ => simp [toJson, misfit?, fitsDocument, Error.ofShape]

theorem to_json_ok_iff (value : Value) :
    (∃ document, toJson value = .ok document) ↔ ∀ part : Value, part.IsPart value → part.fitsDocument = true := by
  simp only [to_json_walks.ok_iff, misfit_none_iff]

theorem of_items_eq (items : List Json) : ofItems items = items.map ofJson := by
  induction items with
  | nil => rfl
  | cons item rest ih => rw [ofItems, ih, List.map_cons]

theorem of_fields_eq (fields : List (String × Json)) : ofFields fields = fields.map (Prod.map id ofJson) := by
  induction fields with
  | nil => rfl
  | cons field rest ih =>
    rw [ofFields, ih, List.map_cons]
    rfl

theorem of_json_frame (frame : Frame) (documents : List Json) :
    ofJson (frame.document documents) = frame.fill (documents.map ofJson) := by
  cases frame with
  | array length => rw [Frame.document, ofJson, of_items_eq, Frame.fill]
  | map keys => rw [Frame.document, ofJson, of_fields_eq, Frame.fill, List.zip_map_right]

theorem of_json_number (n : Int64) : ofNumber (.whole n.toInt (word_fits n)) = .int n := by
  rw [ofNumber, of_integer_narrow n.toInt (Int64.le_toInt n) (Int64.toInt_lt n), Int64.ofInt_toInt]

theorem of_json_leaf {value : Value} (leaf : value.frame? = none) {document : Json}
    (encoded : toJson value = .ok document) : ofJson document = value := by
  cases value with
  | array | map => cases leaf
  | int n =>
    cases encoded
    exact of_json_number n
  | float x =>
    rw [toJson, Json.ofDouble?] at encoded
    by_cases finite : x.isFinite = true
    · rw [dif_pos finite] at encoded
      cases encoded
      rfl
    · rw [dif_neg finite] at encoded
      cases encoded
  | null | bool | str =>
    cases encoded
    rfl
  | _ => cases encoded

theorem of_to_json {value : Value} {document : Json} (encoded : toJson value = .ok document) :
    ofJson document = value := by
  induction value using of_children generalizing document with
  | step value ih =>
    cases framed : value.frame? with
    | none => exact of_json_leaf framed encoded
    | some frame =>
      obtain ⟨documents, below, rfl⟩ := (to_json_walks.inner_ok_iff framed).mp encoded
      have back : documents.map ofJson = value.children := by
        have each := Traversal.forall₂_of_mem below fun child inside document encoded => ih child inside encoded
        rw [← List.forall₂_eq_eq_eq, List.forall₂_map_left_iff]
        exact each.flip
      rw [of_json_frame, back, fill_children framed]

theorem to_json_of_fitting {document : Json}
    (fits : ∀ part : Value, part.IsPart (ofJson document) → part.fitsDocument = true) :
    toJson (ofJson document) = .ok document := by
  obtain ⟨other, encoded⟩ := (to_json_ok_iff (ofJson document)).mpr fits
  rw [to_json_of_json] at encoded ⊢
  cases narrow : document.isNarrow with
  | true => rfl
  | false =>
    rw [narrow] at encoded
    cases encoded

theorem encoding_returns (value : Value) :
    ((∃ document, toJson value = .ok document) ↔ ∀ part : Value, part.IsPart value → part.fitsDocument = true) ∧
    ∀ document, toJson value = .ok document ↔
      ofJson document = value ∧ ∀ part : Value, part.IsPart value → part.fitsDocument = true := by
  refine ⟨to_json_ok_iff value, fun document => ⟨fun encoded => ?_, ?_⟩⟩
  · exact ⟨of_to_json encoded, (to_json_ok_iff value).mp ⟨document, encoded⟩⟩
  · rintro ⟨rfl, fits⟩
    exact to_json_of_fitting fits

theorem zeros_return :
    let value := Value.map [("below", .array [.float (.zero true), .float (.ofInt 2)]), ("words", .str "[]")]
    ∃ document, toJson value = .ok document ∧ ofJson document = value := by
  intro value
  have encoded : ∃ document, toJson value = .ok document := ⟨_, rfl⟩
  obtain ⟨document, encoded⟩ := encoded
  exact ⟨document, encoded, (((encoding_returns value).2 document).mp encoded).1⟩

end Recast.Value
