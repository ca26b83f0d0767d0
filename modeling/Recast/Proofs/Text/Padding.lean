import Mathlib.Data.List.Forall2
import Mathlib.Data.List.TakeWhile
import Recast.Proofs.Text.Pieces
set_option autoImplicit false

namespace Recast

namespace Text

theorem is_blank_true_iff (text : String) : isBlank text = true ↔ ∀ c ∈ text.toList, isBlankChar c = true :=
  List.all_eq_true

def Padded (text padded : String) : Prop :=
  ∃ before after : String, isBlank before = true ∧ isBlank after = true ∧ padded = before ++ text ++ after

theorem trim_start_padded {before : List Char} (blank : ∀ c ∈ before, isBlankChar c = true) (rest : List Char) :
    trimStart (before ++ rest) = trimStart rest :=
  List.dropWhile_append_of_pos blank

theorem trim_end_padded (chars : List Char) {after : List Char} (blank : ∀ c ∈ after, isBlankChar c = true) :
    trimEnd (chars ++ after) = trimEnd chars := by
  rw [trimEnd, trimEnd, List.reverse_append,
    List.dropWhile_append_of_pos fun c present => blank c (List.mem_reverse.mp present)]

theorem trim_both_padded (chars : List Char) {after : List Char} (blank : ∀ c ∈ after, isBlankChar c = true) :
    trimEnd (trimStart (chars ++ after)) = trimEnd (trimStart chars) := by
  rw [trimStart, trimStart, List.dropWhile_append]
  cases start : chars.dropWhile isBlankChar with
  | nil =>
    have nothing : after.dropWhile isBlankChar = [] := List.dropWhile_eq_nil_iff.mpr blank
    rw [List.isEmpty_nil, if_pos rfl, nothing]
  | cons c rest =>
    rw [List.isEmpty_cons, if_neg Bool.false_ne_true, trim_end_padded _ blank]

namespace Padded

variable {text padded : String} (around : Padded text padded)

include around

theorem trim_eq : trim padded = trim text := by
  obtain ⟨before, after, early, late, rfl⟩ := around
  rw [is_blank_true_iff] at early late
  rw [trim, trim, String.toList_append, String.toList_append, List.append_assoc, trim_start_padded early,
    trim_both_padded _ late]

theorem is_blank_eq : isBlank padded = isBlank text := by
  obtain ⟨before, after, early, late, rfl⟩ := around
  rw [isBlank] at early late
  simp [isBlank, early, late]

theorem not_mem {separator : Char} (solid : isBlankChar separator = false) (apart : separator ∉ text.toList) :
    separator ∉ padded.toList := by
  obtain ⟨before, after, early, late, rfl⟩ := around
  have outside : ∀ blank : String, isBlank blank = true → separator ∉ blank.toList := by
    intro blank white present
    rw [(is_blank_true_iff blank).mp white separator present] at solid
    cases solid
  simp [outside before early, outside after late, apart]

end Padded

section

variable {separator : Char} {texts padded : List String} (each : List.Forall₂ Padded texts padded)

include each

theorem join_is_blank_eq : isBlank (join separator padded) = isBlank (join separator texts) := by
  induction each with
  | nil => rfl
  | cons first others ih =>
    have same := first.is_blank_eq
    simp only [isBlank, join, String.toList_ofList] at ih same ⊢
    cases others with
    | nil => simpa [joined] using same
    | cons second others =>
      simp only [List.map_cons, joined, List.all_append, List.all_cons] at ih ⊢
      rw [same, ih]

theorem map_trim_eq : padded.map trim = texts.map trim := by
  induction each with
  | nil => rfl
  | cons first others ih => rw [List.map_cons, List.map_cons, first.trim_eq, ih]

theorem apart_padded (solid : isBlankChar separator = false) (apart : ∀ text ∈ texts, separator ∉ text.toList) :
    ∀ text ∈ padded, separator ∉ text.toList := by
  induction each with
  | nil => nofun
  | cons first others ih =>
    obtain ⟨early, late⟩ := List.forall_mem_cons.mp apart
    exact List.forall_mem_cons.mpr ⟨first.not_mem solid early, ih late⟩

theorem split_join_padded (solid : isBlankChar separator = false)
    (apart : ∀ text ∈ texts, separator ∉ text.toList) :
    (split separator (join separator padded)).map trim = (split separator (join separator texts)).map trim := by
  by_cases empty : texts = []
  · subst empty
    obtain rfl := List.forall₂_nil_left_iff.mp each
    rfl
  · have present : padded ≠ [] := by
      rintro rfl
      exact empty (List.forall₂_nil_right_iff.mp each)
    rw [split_join empty apart, split_join present (apart_padded each solid apart), map_trim_eq each]

end

end Text

end Recast
