import Recast.Proofs.Number.Rounding
import Recast.Proofs.Scalar.Soundness
set_option autoImplicit false

namespace Recast

inductive Form where
  | scalar (scalar : Scalar)
  | json
  | list (item : Form)
  | option (inner : Form)

namespace Form

def Carrier : Form → Type
  | .scalar leaf => leaf.Carrier
  | .json => Json
  | .list item => List item.Carrier
  | .option inner => Option inner.Carrier

instance typed : (form : Form) → Typed form.Carrier
  | .scalar leaf => leaf.typed
  | .json => inferInstanceAs (Typed Json)
  | .list item => letI := item.typed; inferInstanceAs (Typed (List item.Carrier))
  | .option inner => letI := inner.typed; inferInstanceAs (Typed (Option inner.Carrier))

inductive Built (leaf : Scalar) : Form → Prop where
  | scalar : Built leaf (.scalar leaf)
  | list {item : Form} (built : Built leaf item) : Built leaf item.list
  | option {inner : Form} (built : Built leaf inner) (single : ∀ deeper, inner ≠ .option deeper) :
    Built leaf inner.option

end Form

namespace Typed

def Returns (α : Type) [Typed α] : Prop := ∀ x : α, extract (embed x) = .ok x

def Restores (α : Type) [Typed α] : Prop := ∀ (value : Value) (x : α), extract value = .ok x → embed x = value

section

variable {α : Type} {width : Scalar.Width} {make : Int → α} {number : α → Int}

theorem width_returns (range : ∀ x, width.low ≤ number x ∧ number x ≤ width.high) (back : ∀ x, make (number x) = x)
    (x : α) : (extractWidth width (.int (Int64.ofInt (number x)))).map make = .ok x := by
  have limits := Scalar.width_within_word width
  have within := range x
  have same : (Int64.ofInt (number x)).toInt = number x := Int64.toInt_ofInt_of_le (by omega) (by omega)
  have taken := (Scalar.extract_width_ok_iff width _ (number x)).mpr ⟨_, rfl, same, within⟩
  rw [taken, Except.map, back]

theorem width_restores (back : ∀ n, width.low ≤ n → n ≤ width.high → number (make n) = n) (value : Value) (x : α)
    (taken : (extractWidth width value).map make = .ok x) : .int (Int64.ofInt (number x)) = value := by
  obtain ⟨n, given, rfl⟩ := Traversal.map_ok_iff.mp taken
  obtain ⟨word, rfl, rfl, low, high⟩ := (Scalar.extract_width_ok_iff width value n).mp given
  rw [back _ low high, Int64.ofInt_toInt]

end

theorem scalar_returns (scalar : Scalar) : Returns scalar.Carrier := by
  cases scalar with
  | int width =>
    cases width with
    | bits8 =>
      have range (x : Int8) := And.intro (Int8.le_toInt x) (Int.le_sub_one_of_lt (Int8.toInt_lt x))
      exact width_returns range Int8.ofInt_toInt
    | bits16 =>
      have range (x : Int16) := And.intro (Int16.le_toInt x) (Int.le_sub_one_of_lt (Int16.toInt_lt x))
      exact width_returns range Int16.ofInt_toInt
    | bits32 =>
      have range (x : Int32) := And.intro (Int32.le_toInt x) (Int.le_sub_one_of_lt (Int32.toInt_lt x))
      exact width_returns range Int32.ofInt_toInt
    | bits64 => exact fun _ => rfl
  | float format =>
    cases format with
    | single => exact fun x => congrArg Except.ok (Binary.narrow_widened x)
    | double => exact fun _ => rfl
  | _ => exact fun _ => rfl

theorem scalar_restores {scalar : Scalar} (unrounded : scalar ≠ .float .single) : Restores scalar.Carrier := by
  cases scalar with
  | int width =>
    cases width with
    | bits8 => exact width_restores fun n low high => Int8.toInt_ofInt_of_le low (Int.lt_of_le_sub_one high)
    | bits16 => exact width_restores fun n low high => Int16.toInt_ofInt_of_le low (Int.lt_of_le_sub_one high)
    | bits32 => exact width_restores fun n low high => Int32.toInt_ofInt_of_le low (Int.lt_of_le_sub_one high)
    | bits64 =>
      intro value x taken
      cases value <;> cases taken
      rfl
  | float format =>
    cases format with
    | single => exact absurd rfl unrounded
    | double =>
      intro value x taken
      cases value <;> cases taken
      rfl
  | _ =>
    intro value x taken
    cases value <;> cases taken
    rfl

theorem extract_null {scalar : Scalar} (x : scalar.Carrier) : extract Value.null ≠ .ok x := by
  intro taken
  have holds := (scalar.extract_iff .null).mp ⟨x, taken⟩
  cases scalar <;> exact holds

theorem scalar_present {scalar : Scalar} (x : scalar.Carrier) : embed x ≠ .null := by
  intro null
  have back := scalar_returns scalar x
  rw [null] at back
  exact extract_null x back

section

variable {α : Type} [Typed α]

theorem extract_items_eq (items : List Value) : extractItems (α := α) items = items.mapM extract :=
  Traversal.eq_mapM extract extractItems rfl (fun _ _ => rfl) items

theorem extract_list_iff (value : Value) (xs : List α) :
    extract value = .ok xs ↔
      ∃ items, value = .array items ∧ List.Forall₂ (fun item x => extract item = .ok x) items xs := by
  simp only [← Traversal.mapM_ok_iff, ← extract_items_eq]
  constructor
  · intro taken
    cases value with
    | array items => exact ⟨items, rfl, taken⟩
    | _ => cases taken
  · rintro ⟨items, rfl, taken⟩
    exact taken

theorem list_returns (item : Returns α) : Returns (List α) := by
  intro xs
  refine (extract_list_iff _ xs).mpr ⟨xs.map embed, rfl, ?_⟩
  rw [List.forall₂_map_left_iff, List.forall₂_same]
  exact fun x _ => item x

theorem list_restores (item : Restores α) : Restores (List α) := by
  intro value xs taken
  obtain ⟨items, rfl, each⟩ := (extract_list_iff value xs).mp taken
  have same : List.Forall₂ (fun x item => embed x = item) xs items := (each.imp item).flip
  rw [← List.forall₂_map_left_iff, List.forall₂_eq_eq_eq] at same
  exact congrArg Value.array same

theorem extract_present {value : Value} (present : value ≠ .null) :
    extract (α := Option α) value = (extract (α := α) value).map some := by
  cases value with
  | null => exact absurd rfl present
  | _ => rfl

-- Null is taken for the absence, so it may not stand for anything that is there.
theorem option_returns (inner : Returns α) (present : ∀ x : α, embed x ≠ .null) : Returns (Option α) := by
  intro x
  cases x with
  | none => rfl
  | some x =>
    refine (extract_present (present x)).trans ?_
    rw [inner x, Except.map]

theorem option_restores (inner : Restores α) : Restores (Option α) := by
  intro value x taken
  by_cases null : value = .null
  · subst null
    cases taken
    rfl
  · rw [extract_present null, Traversal.map_ok_iff] at taken
    obtain ⟨x, taken, rfl⟩ := taken
    exact inner value x taken

end

end Typed

namespace Form

theorem Built.embed_present {leaf : Scalar} {form : Form} (built : form.Built leaf)
    (single : ∀ deeper, form ≠ .option deeper) (x : form.Carrier) : Typed.embed x ≠ .null := by
  cases built with
  | scalar => exact Typed.scalar_present x
  | list built => exact nofun
  | option built _ => exact absurd rfl (single _)

theorem Built.returns {leaf : Scalar} {form : Form} (built : form.Built leaf) : Typed.Returns form.Carrier := by
  induction built with
  | scalar => exact Typed.scalar_returns leaf
  | list built ih => exact Typed.list_returns ih
  | option built single ih => exact Typed.option_returns ih (built.embed_present single)

theorem Built.restores {leaf : Scalar} {form : Form} (built : form.Built leaf) (unrounded : leaf ≠ .float .single) :
    Typed.Restores form.Carrier := by
  induction built with
  | scalar => exact Typed.scalar_restores unrounded
  | list built ih => exact Typed.list_restores ih
  | option built single ih => exact Typed.option_restores ih

theorem embedding_inverted {leaf : Scalar} {form : Form} (built : form.Built leaf) :
    (∀ x : form.Carrier, Typed.extract (Typed.embed x) = .ok x) ∧
    (leaf ≠ .float .single →
      ∀ (value : Value) (x : form.Carrier), Typed.extract value = .ok x → Typed.embed x = value) :=
  ⟨built.returns, built.restores⟩

theorem byte_and_absence :
    let value : Value := .array [.int 1, .null]
    let bytes : List (Option Int8) := [some 1, none]
    Typed.extract (Typed.embed bytes) = .ok bytes ∧ Typed.extract value = .ok bytes ∧ Typed.embed bytes = value := by
  intro value bytes
  have built : Built (.int .bits8) (.list (.option (.scalar (.int .bits8)))) := .list (.option .scalar nofun)
  have taken : Typed.extract value = .ok bytes := rfl
  obtain ⟨returned, restored⟩ := embedding_inverted built
  exact ⟨returned bytes, taken, restored nofun value bytes taken⟩

-- An option of an option is not among these types.
example : Typed.extract (Typed.embed (some none : Option (Option Bool))) = .ok (none : Option (Option Bool)) := rfl

end Form

end Recast
