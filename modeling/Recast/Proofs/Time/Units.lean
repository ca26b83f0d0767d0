import Recast.Proofs.Time.Total
set_option autoImplicit false

namespace Recast

namespace Duration

section

variable {mark timeMark : Char} {date : List Component} {component : Component}

theorem rendered_snoc (list : List Component) (component : Component) :
    rendered (list ++ [component]) = rendered list ++ component.number.chars ++ [component.letter] := by
  simp [rendered, Component.chars]

theorem unfinished_date_only (dateOnly : ∀ component ∈ date, isTimeMark component.letter = false) :
    ∀ c ∈ rendered date ++ component.number.chars, isTimeMark c = false :=
  List.forall_mem_append.mpr ⟨rendered_date_only dateOnly,
    fun c present => unlettered_no_time_mark (component.number_unlettered c present)⟩

theorem unfinished_nonempty : rendered date ++ component.number.chars ≠ [] :=
  List.append_ne_nil_of_right_ne_nil _ component.number_nonempty

theorem unfinished_open : components [] (rendered date ++ component.number.chars) = none :=
  components_open date component.number_nonempty component.number_unlettered

theorem read_open_date (isMark : mark = 'P' ∨ mark = 'p')
    (dateOnly : ∀ component ∈ date, isTimeMark component.letter = false) :
    readIso? (String.ofList (mark :: (rendered date ++ component.number.chars))) = none := by
  rw [read_iso_date (unfinished_date_only dateOnly) isMark]
  exact read_parts_open (.inl unfinished_open)

theorem read_open_time {time : List Component} (isMark : mark = 'P' ∨ mark = 'p')
    (isTime : isTimeMark timeMark = true) (dateOnly : ∀ component ∈ date, isTimeMark component.letter = false) :
    readIso? (String.ofList (mark :: (rendered date ++ timeMark :: (rendered time ++ component.number.chars)))) =
      none := by
  rw [read_iso_time (rendered_date_only dateOnly) isMark isTime unfinished_nonempty]
  exact read_parts_open (.inr unfinished_open)

theorem read_early_time (isMark : mark = 'P' ∨ mark = 'p') (isTime : isTimeMark timeMark = true)
    (dateOnly : ∀ component ∈ date, isTimeMark component.letter = false) (time : List Char) :
    readIso? (String.ofList (mark :: (rendered date ++ component.number.chars ++ timeMark :: time))) = none := by
  have only : ∀ c ∈ rendered date ++ component.number.chars, isTimeMark c = false := unfinished_date_only dateOnly
  by_cases empty : time = []
  · rw [empty]
    exact read_iso_no_time only isTime
  · rw [read_iso_time only isMark isTime empty]
    exact read_parts_open (.inl unfinished_open)

end

namespace Span

variable (span : Span)

theorem is_time_mark : isTimeMark span.timeMark = true := (is_time_mark_iff _).mpr span.divides

theorem date_only : ∀ component ∈ span.date, isTimeMark component.letter = false :=
  fun component present => known_in_date (span.dated component present)

theorem refuses_misplaced_date {before after : List Component} {component : Component}
    (early : ∀ other ∈ before, isTimeMark other.letter = false)
    (late : ∀ other ∈ after, isTimeMark other.letter = false)
    (unknown : Part.date.seconds? component.letter = none) :
    readIso? (written span.mark span.timeMark (before ++ component :: after) span.time) = none := by
  by_cases isTime : isTimeMark component.letter = true
  · have same : rendered (before ++ component :: after) ++ behind span.timeMark span.time =
        rendered before ++ component.number.chars ++
          component.letter :: (rendered after ++ behind span.timeMark span.time) := by
      simp [rendered, Component.chars]
    rw [written, same]
    exact read_early_time span.begins isTime early _
  · have dateOnly : ∀ other ∈ before ++ component :: after, isTimeMark other.letter = false :=
      List.forall_mem_append.mpr ⟨early, List.forall_mem_cons.mpr ⟨Bool.eq_false_iff.mpr isTime, late⟩⟩
    rw [read_written span.begins span.is_time_mark dateOnly]
    exact read_parts_misplaced (.inl ⟨component, List.mem_append_right _ List.mem_cons_self, unknown⟩)

theorem refuses_misplaced_time {time : List Component}
    (misplaced : ∃ component ∈ time, Part.time.seconds? component.letter = none) :
    readIso? (written span.mark span.timeMark span.date time) = none := by
  rw [read_written span.begins span.is_time_mark span.date_only]
  exact read_parts_misplaced (.inr misplaced)

theorem refuses_missing_letter : readIso? (String.ofList span.text.toList.dropLast) = none := by
  rw [text, written, String.toList_ofList]
  rcases List.eq_nil_or_concat' span.time with empty | ⟨others, component, same⟩
  · rw [empty, behind, List.append_nil]
    rcases List.eq_nil_or_concat' span.date with none | ⟨others, component, same⟩
    · exact absurd empty (span.nonempty.resolve_left (not_not.mpr none))
    · have only := span.date_only
      rw [same] at only
      rw [same, rendered_snoc, ← List.cons_append, List.dropLast_concat]
      exact read_open_date span.begins (List.forall_mem_append.mp only).1
  · have present : others ++ [component] ≠ [] := List.append_ne_nil_of_right_ne_nil _ (List.cons_ne_nil _ _)
    have last : span.mark :: (rendered span.date ++ behind span.timeMark span.time) =
        span.mark :: (rendered span.date ++ span.timeMark :: (rendered others ++ component.number.chars)) ++
          [component.letter] := by
      rw [same, behind_present _ present, rendered_snoc]
      simp
    rw [last, List.dropLast_concat]
    exact read_open_time span.begins span.is_time_mark span.date_only

end Span

theorem natural_weight {terms : List (Writing × Nat)} (bare : ∀ term ∈ terms, term.1.sign = .bare) :
    (size terms : Int) = weight terms := by
  induction terms with
  | nil => rfl
  | cons term others ih =>
    obtain ⟨number, unit⟩ := term
    obtain ⟨first, later⟩ := List.forall_mem_cons.mp bare
    have natural : (number.integer.natAbs : Int) = number.integer := by
      rw [Writing.integer, show number.sign = .bare from first]
      rfl
    rw [size_cons, weight_cons, Nat.cast_add, Nat.cast_mul, natural, ih later]

def Span.IsWhole (span : Span) : Prop :=
  ∀ component ∈ span.components, component.number.sign = .bare ∧ component.number.IsPlain

theorem whole_span_exact (span : Span) :
    (span.IsWhole → span.seconds < 2 ^ 53 → readIso? span.text = some (ofParts span.seconds.toNat 0)) ∧
      (∀ before component after letter (isLetter : letter.isAlpha = true),
        span.date = before ++ component :: after → Part.date.seconds? letter = none →
          readIso? (written span.mark span.timeMark (before ++ component.lettered letter isLetter :: after) span.time) =
            none) ∧
      (∀ before component after letter (isLetter : letter.isAlpha = true),
        span.time = before ++ component :: after → Part.time.seconds? letter = none →
          readIso? (written span.mark span.timeMark span.date (before ++ component.lettered letter isLetter :: after)) =
            none) ∧
      readIso? (String.ofList span.text.toList.dropLast) = none ∧
      readIso? (String.ofList (span.mark :: (rendered span.date ++ [span.timeMark]))) = none := by
  refine ⟨fun whole short => ?_, ?_, ?_, span.refuses_missing_letter, ?_⟩
  · have bare : ∀ term ∈ span.terms, term.1.sign = .bare := by
      intro term present
      obtain ⟨⟨component, inside, same⟩, -⟩ := span.terms_bounded present
      exact same ▸ (whole component inside).1
    have natural : (size span.terms : Int) = span.seconds := natural_weight bare
    rw [span.read_whole (fun component present => (whole component present).2) (by omega), if_neg (by omega)]
  · intro before component after letter isLetter same unknown
    have only := span.date_only
    rw [same] at only
    obtain ⟨early, late⟩ := List.forall_mem_append.mp only
    exact span.refuses_misplaced_date early (List.forall_mem_cons.mp late).2 unknown
  · intro before component after letter isLetter same unknown
    exact span.refuses_misplaced_time ⟨_, List.mem_append_right _ List.mem_cons_self, unknown⟩
  · exact read_iso_no_time (rendered_date_only span.date_only) span.is_time_mark

def weeksAndHours : Span where
  mark := 'p'
  date := [⟨⟨.bare, ['4'], none, none, List.all_eq_true.mp rfl, by decide⟩, 'w', rfl, rfl⟩,
    ⟨⟨.bare, ['2'], none, none, List.all_eq_true.mp rfl, by decide⟩, 'D', rfl, rfl⟩]
  timeMark := 't'
  time := [⟨⟨.bare, ['9', '0'], none, none, List.all_eq_true.mp rfl, by decide⟩, 'm', rfl, rfl⟩,
    ⟨⟨.bare, ['0', '7'], none, none, List.all_eq_true.mp rfl, by decide⟩, 'h', rfl, rfl⟩]
  begins := .inr rfl
  divides := .inr rfl
  dated := by decide
  timed := by decide
  nonempty := .inl (List.cons_ne_nil _ _)

theorem weeks_and_hours_read :
    readIso? "p4w2Dt90m07h" = some (ofParts 2622600 0) ∧ readIso? "p4t2Dt90m07h" = none ∧
      readIso? "p4w2Dt90m07w" = none ∧ readIso? "p4w2Dt90m07" = none ∧ readIso? "p4w2Dt" = none := by
  obtain ⟨exact, date, time, letter, behind⟩ := whole_span_exact weeksAndHours
  have whole : weeksAndHours.IsWhole := by
    simp [Span.IsWhole, Span.components, weeksAndHours, Writing.IsPlain]
  have spelled : weeksAndHours.text = "p4w2Dt90m07h" := by decide +kernel
  rw [spelled] at exact letter
  refine ⟨exact whole (by decide), ?_, ?_, ?_, ?_⟩
  · refine Eq.trans (congrArg readIso? ?_) (date [] _ _ 't' rfl rfl rfl)
    decide +kernel
  · refine Eq.trans (congrArg readIso? ?_) (time [_] _ _ 'w' rfl rfl rfl)
    decide +kernel
  · refine Eq.trans (congrArg readIso? ?_) letter
    decide +kernel
  · refine Eq.trans (congrArg readIso? ?_) behind
    decide +kernel

end Duration

end Recast
