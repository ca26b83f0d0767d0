import Mathlib.Data.List.Forall2
import Recast.Text.TypeName
set_option autoImplicit false

/-!
The paths in the name of a type, cut to their last segments. A name that is read place by place gives what its
characters give one by one: marks stay where they are, and of what stands between them only the part behind the last
pair of colons is kept.
-/

namespace Recast.Text

def colons : List Char := [':', ':']

inductive IsLastSegment : List Char → List Char → Prop where
  | whole {path : List Char} (simple : ¬ colons <:+: path) : IsLastSegment path path
  | behind {front segment : List Char}
    (last : ∀ before after, before ++ colons ++ after = front ++ colons ++ segment → before.length ≤ front.length) :
    IsLastSegment (front ++ colons ++ segment) segment

inductive Cut : List Char → List (List Char) → List Char → Prop where
  | segment {segment : List Char} (free : ∀ c ∈ segment, isTypeMark c = false) : Cut segment [segment] []
  | mark {segment rest : List Char} {mark : Char} {segments : List (List Char)} {marks : List Char}
    (free : ∀ c ∈ segment, isTypeMark c = false) (isMark : isTypeMark mark = true) (behind : Cut rest segments marks) :
    Cut (segment ++ mark :: rest) (segment :: segments) (mark :: marks)

def shortened : List Char → List Char → List Char
  | path, [] => lastSegment path path
  | path, c :: rest =>
    if isTypeMark c then lastSegment path path ++ c :: shortened [] rest
    else shortened (path ++ [c]) rest

section

variable {name : String} {start place : name.Pos}

theorem slice_next (begun : start ≤ place) (inside : place ≠ name.endPos) (later : start ≤ place.next inside) :
    (name.slice start (place.next inside) later).copy =
      (name.slice start place begun).copy ++ String.singleton (place.get inside) := by
  obtain ⟨before, rest, starts, ends⟩ := String.copy_slice_eq_iff_splits.mp ⟨begun, rfl⟩
  obtain ⟨after, rfl⟩ := ends.exists_eq_singleton_append inside
  obtain ⟨_, cut⟩ := String.copy_slice_eq_iff_splits.mpr
    ⟨before, after, by rwa [String.append_assoc], by simpa only [String.append_assoc] using ends.next⟩
  exact cut

theorem slice_from_next (inside : place ≠ name.endPos) :
    (name.sliceFrom place).copy.toList = place.get inside :: (name.sliceFrom (place.next inside)).copy.toList := by
  rw [place.splits.eq_right (String.Pos.splits_next_right place inside), String.toList_append, String.toList_singleton]
  rfl

theorem slice_from_end : (name.sliceFrom name.endPos).copy.toList = [] := by
  rw [name.endPos.splits.eq_right (String.splits_endPos name)]
  rfl

theorem last_part_chars (path : String.Slice) :
    (lastPart path).toList = lastSegment path.copy.toList path.copy.toList := by
  rw [lastPart, String.toList_ofList]

-- Induction along the reading: what is cut out so far is the path, what is left is read by its characters.
theorem shorten_from_chars (short : String) (begun : start ≤ place) :
    (shortenFrom short start place begun).toList =
      short.toList ++ shortened (name.slice start place begun).copy.toList (name.sliceFrom place).copy.toList := by
  fun_induction shortenFrom short start place begun with
  | case1 short start begun =>
    rw [slice_from_end, shortened, String.toList_append, last_part_chars]
  | case2 short start place begun inside c next isMark ih =>
    rw [ih, slice_from_next inside, shortened, if_pos isMark, String.copy_slice_self]
    simp [last_part_chars, c, next]
  | case3 short start place begun inside c next notMark ih =>
    rw [ih, slice_from_next inside, shortened, if_neg notMark, slice_next begun inside]
    simp [next]

end

theorem short_type_name_chars (name : String) : (shortTypeName name).toList = shortened [] name.toList := by
  rw [shortTypeName, shorten_from_chars, String.copy_slice_self, String.sliceFrom_startPos]
  simp

theorem colons_free : ∀ c ∈ colons, isTypeMark c = false :=
  List.forall_mem_cons.mpr ⟨rfl, List.forall_mem_singleton.mpr rfl⟩

theorem colons_at_start_iff {c : Char} {rest : List Char} :
    colons <+: c :: rest ↔ c = ':' ∧ rest.head? = some ':' := by
  cases rest <;> simp [colons, eq_comm]

theorem last_segment_simple {chars : List Char} (simple : ¬ colons <:+: chars) (found : List Char) :
    lastSegment found chars = found := by
  induction chars with
  | nil => rfl
  | cons c rest ih =>
    rw [List.infix_cons_iff, not_or, colons_at_start_iff] at simple
    rw [lastSegment, if_neg simple.1, ih simple.2]

theorem last_segment_behind (found front segment : List Char) :
    lastSegment found (front ++ colons ++ segment) = lastSegment segment (':' :: segment) := by
  induction front generalizing found with
  | nil => rfl
  | cons c rest ih => exact ih _

theorem last_colons {path : List Char} (present : colons <:+: path) :
    ∃ front segment, path = front ++ colons ++ segment ∧ ¬ colons <:+: ':' :: segment := by
  induction path with
  | nil => simp [colons] at present
  | cons c rest ih =>
    by_cases later : colons <:+: rest
    · obtain ⟨front, segment, rfl, simple⟩ := ih later
      exact ⟨c :: front, segment, rfl, simple⟩
    · obtain ⟨rfl, second⟩ := colons_at_start_iff.mp ((List.infix_cons_iff.mp present).resolve_right later)
      obtain ⟨segment, rfl⟩ := List.head?_eq_some_iff.mp second
      exact ⟨[], segment, rfl, later⟩

theorem last_segment_is_last (path : List Char) : IsLastSegment path (lastSegment path path) := by
  by_cases present : colons <:+: path
  · obtain ⟨front, segment, rfl, simple⟩ := last_colons present
    rw [last_segment_behind, last_segment_simple simple]
    refine .behind fun before after same => ?_
    -- A pair farther behind would begin after the first colon of this one.
    by_contra farther
    have behind : ':' :: segment = (front ++ colons ++ segment).drop (front.length + 1) := by
      simp [colons, List.drop_append]
    rw [behind, ← same, List.append_assoc, List.drop_append_of_le_length (by omega)] at simple
    exact simple (List.infix_append' ..)
  · rw [last_segment_simple present]
    exact .whole present

example : lastSegment ['a', ':', ':', ':', 'b'] ['a', ':', ':', ':', 'b'] = ['b'] := rfl

namespace IsLastSegment

variable {path segment : List Char} (last : IsLastSegment path segment)

include last

theorem simple : ¬ colons <:+: segment := by
  cases last with
  | whole simple => exact simple
  | @behind front _ last =>
    rintro ⟨before, after, rfl⟩
    have bound := last (front ++ colons ++ before) after (by simp)
    simp only [List.length_append, List.length_cons, colons] at bound
    omega

theorem free (pathFree : ∀ c ∈ path, isTypeMark c = false) : ∀ c ∈ segment, isTypeMark c = false := by
  cases last with
  | whole => exact pathFree
  | behind => exact fun c present => pathFree c (List.mem_append_right _ present)

end IsLastSegment

theorem colons_beside_mark {mark : Char} (isMark : isTypeMark mark = true) {before after : List Char}
    (present : colons <:+: before ++ mark :: after) : colons <:+: before ∨ colons <:+: after := by
  have other : mark ≠ ':' := by
    rintro rfl
    exact absurd isMark (by decide)
  induction before with
  | nil =>
    rcases List.infix_cons_iff.mp present with start | later
    · exact absurd (colons_at_start_iff.mp start).1 other
    · exact .inr later
  | cons c rest ih =>
    rcases List.infix_cons_iff.mp present with start | later
    · obtain ⟨first, second⟩ := colons_at_start_iff.mp start
      cases rest with
      | nil => exact absurd (Option.some.inj second) other
      | cons d rest => exact .inl (List.IsPrefix.isInfix (colons_at_start_iff.mpr ⟨first, second⟩))
    · exact (ih later).imp_left List.infix_cons

theorem Cut.simple {chars : List Char} {segments : List (List Char)} {marks : List Char}
    (cut : Cut chars segments marks) (each : ∀ segment ∈ segments, ¬ colons <:+: segment) : ¬ colons <:+: chars := by
  induction cut with
  | segment => exact each _ List.mem_cons_self
  | mark free isMark behind ih =>
    obtain ⟨first, others⟩ := List.forall_mem_cons.mp each
    exact fun present => (colons_beside_mark isMark present).elim first (ih others)

theorem exists_cut (chars : List Char) : ∃ segments marks, Cut chars segments marks := by
  induction chars with
  | nil => exact ⟨[[]], [], .segment (List.forall_mem_nil _)⟩
  | cons c rest ih =>
    obtain ⟨segments, marks, cut⟩ := ih
    by_cases isMark : isTypeMark c = true
    · exact ⟨[] :: segments, c :: marks, .mark (List.forall_mem_nil _) isMark cut⟩
    · have first : isTypeMark c = false := eq_false_of_ne_true isMark
      cases cut with
      | segment free => exact ⟨[c :: rest], [], .segment (List.forall_mem_cons.mpr ⟨first, free⟩)⟩
      | @mark segment behind mark segments marks free marked cut =>
        exact ⟨(c :: segment) :: segments, mark :: marks, .mark (List.forall_mem_cons.mpr ⟨first, free⟩) marked cut⟩

theorem shortened_append_mark {mark : Char} (isMark : isTypeMark mark = true) (path before after : List Char) :
    shortened path (before ++ mark :: after) = shortened path before ++ mark :: shortened [] after := by
  induction before generalizing path with
  | nil => rw [List.nil_append, shortened, shortened, if_pos isMark]
  | cons c rest ih =>
    by_cases earlier : isTypeMark c = true
    · rw [List.cons_append, shortened, if_pos earlier, ih, shortened, if_pos earlier, List.append_assoc, List.cons_append]
    · rw [List.cons_append, shortened, if_neg earlier, ih, shortened, if_neg earlier]

theorem shortened_free {chars : List Char} (free : ∀ c ∈ chars, isTypeMark c = false) (path : List Char) :
    shortened path chars = lastSegment (path ++ chars) (path ++ chars) := by
  induction chars generalizing path with
  | nil => rw [List.append_nil, shortened]
  | cons c rest ih =>
    obtain ⟨first, others⟩ := List.forall_mem_cons.mp free
    rw [shortened, if_neg (by rw [first]; exact Bool.false_ne_true), ih others, ← List.append_cons]

theorem Cut.last_segments {chars : List Char} {segments : List (List Char)} {marks : List Char}
    (cut : Cut chars segments marks) :
    Cut (shortened [] chars) (segments.map fun segment => lastSegment segment segment) marks := by
  induction cut with
  | @segment segment free =>
    rw [shortened_free free, List.nil_append]
    exact .segment ((last_segment_is_last segment).free free)
  | @mark segment _ _ _ _ free isMark _ ih =>
    rw [shortened_append_mark isMark, shortened_free free, List.nil_append]
    exact .mark ((last_segment_is_last segment).free free) isMark ih

theorem shortened_has_no_colons (chars : List Char) : ¬ colons <:+: shortened [] chars := by
  obtain ⟨segments, marks, cut⟩ := exists_cut chars
  exact cut.last_segments.simple (List.forall_mem_map.mpr fun segment _ => (last_segment_is_last segment).simple)

theorem shortened_simple {path chars : List Char} (simple : ¬ colons <:+: path ++ chars) :
    shortened path chars = path ++ chars := by
  induction chars generalizing path with
  | nil =>
    rw [List.append_nil] at simple ⊢
    exact last_segment_simple simple path
  | cons c rest ih =>
    by_cases isMark : isTypeMark c = true
    · have before : ¬ colons <:+: path := fun present => simple (present.trans (List.prefix_append ..).isInfix)
      have kept : shortened [] rest = rest := ih fun present =>
        simple (present.trans ((List.suffix_cons c rest).trans (List.suffix_append ..)).isInfix)
      rw [shortened, if_pos isMark, last_segment_simple before, kept]
    · rw [List.append_cons] at simple ⊢
      rw [shortened, if_neg isMark, ih simple]

end Recast.Text
