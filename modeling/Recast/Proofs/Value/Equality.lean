import Recast.Proofs.Number.Equality
import Recast.Proofs.Value.Parts
set_option autoImplicit false

/-!
Equality of values looks at what each part shows by itself, and at the parts right below. All that is shown is told
from what differs from it, so equality is symmetric and transitive. NaN alone shows nothing, and values with a NaN at
any depth are the ones that are not equal to themselves.
-/

namespace Recast.Value

inductive Face where
  | null
  | bool (b : Bool)
  | char (c : Char)
  | int (n : Int64)
  | float (place : Binary.Extended)
  | bigInt (n : Int)
  | decimal (number : ℚ)
  | str (text : String)
  | frame (frame : Frame)
  | path (components : Path.Components)
  | duration (d : Duration)
  | url (text : String)
  | dateTime (day : Int) (second nanosecond : Nat)
  | foreign (identity : Nat)

def face? : Value → Option Face
  | .null => some .null
  | .bool b => some (.bool b)
  | .char c => some (.char c)
  | .int n => some (.int n)
  | .float x => x.extended?.map .float
  | .bigInt n => some (.bigInt n)
  | .decimal d => some (.decimal d.value)
  | .str text => some (.str text)
  | .array items => some (.frame (.array items.length))
  | .map entries => some (.frame (.map (entries.map Prod.fst)))
  | .path p => some (.path p.components)
  | .duration d => some (.duration d)
  | .url u => some (.url u.text)
  | .dateTime t => some (.dateTime t.day t.second t.nanosecond)
  | .foreign f => some (.foreign f.identity)

theorem face_none_iff (value : Value) : value.face? = none ↔ value = .float .nan := by
  cases value with
  | float x => cases x <;> simp [face?, Binary.extended?]
  | _ => simp [face?]

theorem equal_items_iff (items others : List Value) :
    equalItems items others = true ↔ List.Forall₂ (fun a b => a.equal b = true) items others := by
  induction items generalizing others with
  | nil => cases others <;> simp [equalItems]
  | cons item rest ih => cases others <;> simp [equalItems, ih]

theorem equal_entries_iff (entries others : List (String × Value)) :
    equalEntries entries others = true ↔ entries.map Prod.fst = others.map Prod.fst ∧
      List.Forall₂ (fun a b => a.equal b = true) (entries.map Prod.snd) (others.map Prod.snd) := by
  induction entries generalizing others with
  | nil => cases others <;> simp [equalEntries]
  | cons entry rest ih => cases others <;> simp [equalEntries, ih, and_assoc, and_left_comm]

theorem equal_iff (a b : Value) :
    a.equal b = true ↔ a.face? = b.face? ∧ a.face? ≠ none ∧
      List.Forall₂ (fun x y => x.equal y = true) a.children b.children := by
  cases a with
  | array items =>
    cases b with
    | array others =>
      have length : List.Forall₂ (fun x y => x.equal y = true) items others → items.length = others.length :=
        List.Forall₂.length_eq
      simpa [equal, equal_items_iff, face?, children] using length
    | _ => simp [equal, face?]
  | map entries =>
    cases b with
    | map others => simp [equal, equal_entries_iff, face?, children]
    | _ => simp [equal, face?]
  | float x =>
    cases b with
    | float y =>
      have shown : Option.map Face.float x.extended? = Option.map Face.float y.extended? ↔ x.extended? = y.extended? :=
        (Option.map_injective fun _ _ => Face.float.inj).eq_iff
      simp [equal, Binary.equal_iff, face?, children, shown]
    | _ => simp [equal, face?]
  | _ => cases b <;> simp [equal, face?, children, Decimal.equal_iff, Path.equal, Url.equal, DateTime.equal, and_assoc]

theorem equal_symm {a b : Value} (same : a.equal b = true) : b.equal a = true := by
  induction a using of_children generalizing b with
  | step a ih =>
    obtain ⟨faces, seen, below⟩ := (equal_iff a b).mp same
    refine (equal_iff b a).mpr ⟨faces.symm, faces ▸ seen, ?_⟩
    exact (Traversal.forall₂_of_mem below fun child inside other => ih child inside).flip

theorem equal_trans {a b c : Value} (first : a.equal b = true) (second : b.equal c = true) : a.equal c = true := by
  induction a using of_children generalizing b c with
  | step a ih =>
    obtain ⟨faces, seen, below⟩ := (equal_iff a b).mp first
    obtain ⟨others, -, beneath⟩ := (equal_iff b c).mp second
    refine (equal_iff a c).mpr ⟨faces.trans others, seen, ?_⟩
    refine Traversal.forall₂_of_mem (Traversal.forall₂_comp_iff.mp ⟨_, below, beneath⟩) ?_
    intro child inside other ⟨middle, here, there⟩
    exact ih child inside here there

theorem equal_self_iff (value : Value) :
    value.equal value = true ↔ ∀ part : Value, part.IsPart value → part ≠ .float .nan := by
  induction value using of_children with
  | step value ih =>
    rw [forall_part_iff, equal_iff, and_iff_right rfl, List.forall₂_same, Ne, face_none_iff]
    exact and_congr_right' (forall₂_congr ih)

theorem equality_partial :
    (∀ a b : Value, a.equal b = true → b.equal a = true) ∧
    (∀ a b c : Value, a.equal b = true → b.equal c = true → a.equal c = true) ∧
    ∀ value : Value, value.equal value = true ↔ ¬ (Value.float .nan).IsPart value := by
  refine ⟨fun a b => equal_symm, fun a b c => equal_trans, fun value => ?_⟩
  rw [equal_self_iff]
  exact ⟨fun sound within => sound _ within rfl, fun absent part within same => absent (same ▸ within)⟩

theorem zeros_alike_without_nan :
    let a : Value := .map [("k", .array [.float (Binary.zero false), .decimal ⟨10, 1⟩])]
    let b : Value := .map [("k", .array [.float (Binary.zero true), .decimal ⟨1, 0⟩])]
    let c : Value := .map [("k", .array [.float (Binary.zero false), .decimal ⟨100, 2⟩])]
    a.equal b = true ∧ b.equal c = true ∧ b.equal a = true ∧ a.equal c = true ∧
      (Value.array [a, .array [.float .nan]]).equal (.array [a, .array [.float .nan]]) = false := by
  intro a b c
  obtain ⟨symm, trans, self⟩ := equality_partial
  have first : a.equal b = true := by decide
  have second : b.equal c = true := by decide
  refine ⟨first, second, symm a b first, trans a b c first second, ?_⟩
  have nan : (Value.float .nan).IsPart (.array [.float .nan]) := .inner (by simp [children]) (.self _)
  have within : (Value.float .nan).IsPart (.array [a, .array [.float .nan]]) := .inner (by simp [children]) nan
  exact Bool.eq_false_iff.mpr fun same => (self _).mp same within

end Recast.Value
