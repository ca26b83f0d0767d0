import Recast.Proofs.Value.Encoding
set_option autoImplicit false

namespace Recast.Value

def formless? : Value → Option Reason
  | .float x => if x.isFinite then none else some .notFinite
  | .foreign _ => some .noJsonForm
  | _ => none

section

variable (target : Descriptor)

theorem normalized_items_eq (items : List Value) : normalizedItems target items = items.mapM (normalized target) :=
  Traversal.eq_mapM (normalized target) (normalizedItems target) rfl (fun _ _ => rfl) items

theorem normalized_entries_eq (entries : List (String × Value)) :
    normalizedEntries target entries =
      ((entries.map Prod.snd).mapM (normalized target)).map (entries.map Prod.fst).zip :=
  Traversal.eq_mapM_zip (normalized target) (normalizedEntries target) rfl (fun _ _ => rfl) entries

theorem normalized_walks : Walks (normalized target) Frame.fill formless? (Error.reject target) where
  inner value frame framed := by
    cases value with
    | array items =>
      cases framed
      refine ⟨?_, rfl⟩
      rw [normalized, normalized_items_eq, bind_pure_comp]
      rfl
    | map entries =>
      cases framed
      refine ⟨?_, rfl⟩
      rw [normalized, normalized_entries_eq, bind_pure_comp]
      exact Functor.map_map ..
    | _ => cases framed
  leaf value leaf error := by
    cases value with
    | array | map => cases leaf
    | float x =>
      cases finite : x.isFinite with
      | true => simp [normalized, formless?, finite]
      | false => simp [normalized, formless?, finite]
    | foreign f => simp [normalized, formless?]
    | bigInt n =>
      rw [normalized]
      cases Numeral.toWord? n with
      | some word => exact iff_of_false nofun nofun
      | none => exact iff_of_false nofun nofun
    | _ => exact iff_of_false nofun nofun

end

variable {target : Descriptor} {value out : Value}

theorem normalized_leaf (leaf : value.frame? = none) (given : normalized target value = .ok out) :
    out.frame? = none ∧ out.fitsDocument = true := by
  cases value with
  | array | map => cases leaf
  | float x =>
    rw [normalized] at given
    by_cases finite : x.isFinite = true
    · rw [if_pos finite] at given
      cases given
      exact ⟨rfl, finite⟩
    · rw [if_neg finite] at given
      cases given
  | bigInt n =>
    rw [normalized] at given
    cases word : Numeral.toWord? n with
    | some word =>
      simp only [word] at given
      cases given
      exact ⟨rfl, rfl⟩
    | none =>
      simp only [word] at given
      cases given
      exact ⟨rfl, rfl⟩
  | foreign f => cases given
  | _ =>
    cases given
    exact ⟨rfl, rfl⟩

theorem frame_fits {frame : Frame} (framed : value.frame? = some frame) : value.fitsDocument = true := by
  cases value with
  | array items => rfl
  | map entries => rfl
  | _ => cases framed

-- By induction on the value given: arrays and maps are filled again with what became of their children.
theorem normalized_shape (given : normalized target value = .ok out) :
    value.SameFrames out ∧ ∀ part : Value, part.IsPart out → part.fitsDocument = true := by
  induction value using of_children generalizing out with
  | step value ih =>
    cases framed : value.frame? with
    | none =>
      obtain ⟨leaf, fits⟩ := normalized_leaf framed given
      constructor
      · refine .intro (leaf.trans framed.symm) ?_
        rw [children_of_leaf framed, children_of_leaf leaf]
        exact .nil
      · rw [forall_part_iff, children_of_leaf leaf]
        exact ⟨fits, fun _ inside => absurd inside List.not_mem_nil⟩
    | some frame =>
      obtain ⟨outs, below, rfl⟩ := ((normalized_walks target).inner_ok_iff framed).mp given
      obtain ⟨same, filled⟩ := fill_frame framed below.length_eq.symm
      constructor
      · refine .intro (same.trans framed.symm) ?_
        rw [filled]
        exact Traversal.forall₂_of_mem below fun child inside out given => (ih child inside given).1
      · rw [forall_part_iff, filled]
        refine ⟨frame_fits same, fun out present => ?_⟩
        obtain ⟨child, inside, given⟩ := Traversal.mapM_ok_mem ((Traversal.mapM_ok_iff ..).mpr below) present
        exact (ih child inside given).2

theorem normalized_fixed (fits : ∀ part : Value, part.IsPart value → part.fitsDocument = true) :
    normalized target value = .ok value := by
  induction value using of_children with
  | step value ih =>
    obtain ⟨here, below⟩ := forall_part_iff.mp fits
    cases framed : value.frame? with
    | none =>
      cases value with
      | null | bool | int | str => rfl
      | float x => exact if_pos here
      | array | map => cases framed
      | _ => cases here
    | some frame =>
      refine ((normalized_walks target).inner_ok_iff framed).mpr ⟨value.children, ?_, fill_children framed⟩
      exact List.forall₂_same.mpr fun child inside => ih child inside (below child inside)

theorem document_of_other (other : ∀ text, value ≠ .str text) :
    document target value = normalized target value := by
  cases value with
  | str text => exact absurd rfl (other text)
  | _ => rfl

theorem document_shape (target : Descriptor) (value : Value) (other : ∀ text, value ≠ .str text) :
    ((∃ out, document target value = .ok out) ↔ ∀ part : Value, part.IsPart value → part.formless? = none) ∧
    (∀ out, document target value = .ok out →
      (∀ part : Value, part.IsPart out → part.fitsDocument = true) ∧ value.SameFrames out ∧
      (∃ document, toJson out = .ok document) ∧
      ((∀ text, out ≠ .str text) → document target out = .ok out)) ∧
    (value.IsKeyed → ∀ error, document target value = .error error ↔
      ∃ part reason, FirstFault formless? value part reason ∧ error = .reject target part reason) := by
  rw [document_of_other other]
  refine ⟨(normalized_walks target).ok_iff value, fun out given => ?_, fun keyed error => ?_⟩
  · obtain ⟨same, fits⟩ := normalized_shape given
    refine ⟨fits, same, (to_json_ok_iff out).mpr fits, fun untold => ?_⟩
    rw [document_of_other untold, normalized_fixed fits]
  · simp only [(normalized_walks target).error_iff keyed, eq_comm]

theorem nested_document_shape :
    let value := Value.map [("a", .array [.char 'x', .bigInt (2 ^ 64)]), ("b", .int 1)]
    let out := Value.map [("a", .array [.str "x", .str "18446744073709551616"]), ("b", .int 1)]
    let faulty := Value.map [("a", .array [.int 1, .float .nan]), ("b", .float (.infinite true))]
    (document jsonDescriptor value = .ok out ∧ document jsonDescriptor out = .ok out) ∧
      faulty.IsKeyed ∧ document jsonDescriptor faulty = .error (.reject jsonDescriptor (.float .nan) .notFinite) := by
  intro value out faulty
  have given : document jsonDescriptor value = .ok out := by rfl
  have shape := (document_shape jsonDescriptor value nofun).2.1 out given
  have leaf : ∀ child : Value, child.frame? = none → child.IsKeyed := by
    intro child alone
    refine keyed_of_children ?_ (by simp [children_of_leaf alone])
    rintro entries rfl
    cases alone
  have keyed : faulty.IsKeyed := by
    refine keyed_of_children (fun entries same => ?_) ?_
    · obtain rfl : _ = entries := Value.map.inj same
      exact List.pairwise_pair.mpr (by decide)
    · refine List.forall_mem_cons.mpr ⟨keyed_of_children nofun ?_, List.forall_mem_singleton.mpr (leaf _ rfl)⟩
      exact List.forall_mem_cons.mpr ⟨leaf _ rfl, List.forall_mem_singleton.mpr (leaf _ rfl)⟩
  have sound : ∀ part : Value, part.IsPart (.int 1) → part.formless? = none :=
    forall_part_iff.mpr ⟨rfl, fun _ inside => absurd inside List.not_mem_nil⟩
  have inside : FirstFault formless? (.array ([.int 1] ++ [.float .nan])) (.float .nan) .notFinite :=
    .item (List.forall_mem_singleton.mpr sound) (.self rfl)
  refine ⟨⟨given, shape.2.2.2 nofun⟩, keyed, ?_⟩
  refine ((document_shape jsonDescriptor faulty nofun).2.2 keyed _).mpr ⟨_, _, ?_, rfl⟩
  refine .entry List.mem_cons_self ?_ inside
  intro entry present smaller
  rcases List.mem_pair.mp present with rfl | rfl
  · exact absurd smaller (by decide)
  · exact absurd smaller (by decide)

end Recast.Value
