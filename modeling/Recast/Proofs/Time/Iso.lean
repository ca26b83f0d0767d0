import Recast.Proofs.Number.FloatText
import Recast.Proofs.Number.SecondSign
import Recast.Time.Duration
set_option autoImplicit false

/-!
Spans of time as they are written: numbers, each before the letter of its unit, in a part for the date and one for the
time. The reader accepts nothing else, and its answer is the sum of the components, each of them rounded.
-/

namespace Recast

def Writing.nearest {format : Format} (writing : Writing) : Binary format :=
  .nearestDecimal writing.sign.isMinus (Numeral.value writing.digits) (writing.power - writing.places)

namespace Duration

inductive Part where
  | date
  | time

namespace Part

def units : Part → List (Char × Nat)
  | .date => [('W', 604800), ('D', 86400)]
  | .time => [('H', 3600), ('M', 60), ('S', 1)]

def seconds? (part : Part) (letter : Char) : Option Nat := part.units.lookup letter.toUpper

def unit? : Part → Char → Option Nat
  | .date => dateUnit?
  | .time => timeUnit?

theorem unit_eq (part : Part) (letter : Char) : part.unit? letter = part.units.lookup letter := by
  cases part with
  | date =>
    rw [unit?, units]
    unfold dateUnit?
    split
    · rfl
    · rfl
    · next noWeek noDay =>
      simp [List.lookup_cons, beq_false_of_ne noWeek, beq_false_of_ne noDay]
  | time =>
    rw [unit?, units]
    unfold timeUnit?
    split
    · rfl
    · rfl
    · rfl
    · next noHour noMinute noSecond =>
      simp [List.lookup_cons, beq_false_of_ne noHour, beq_false_of_ne noMinute, beq_false_of_ne noSecond]

end Part

-- A number, and the letter behind it. A letter within the number would end it.
structure Component where
  number : Writing
  letter : Char
  unmarked : number.exponent = none
  isLetter : letter.isAlpha = true

namespace Component

def chars (component : Component) : List Char := component.number.chars ++ [component.letter]

def lettered (component : Component) (letter : Char) (isLetter : letter.isAlpha = true) : Component :=
  { component with letter, isLetter }

def read (component : Component) : Double × Char := (component.number.nearest, component.letter.toUpper)

theorem number_unlettered (component : Component) : ∀ c ∈ component.number.chars, c.isAlpha = false := by
  intro c present
  rw [component.number.chars_split, component.unmarked, Writing.marked, List.append_nil] at present
  rcases component.number.mem_base present with digit | rfl | rfl | rfl
  · have bounds := Char.isDigit_iff_toNat.mp digit
    rw [← Bool.not_eq_true, is_alpha_iff]
    simp at bounds
    omega
  · rfl
  · rfl
  · rfl

theorem number_nonempty (component : Component) : component.number.chars ≠ [] := by
  obtain ⟨c, rest, same, -⟩ := component.number.unsigned_head
  rw [Writing.chars, same]
  exact List.append_ne_nil_of_right_ne_nil _ (List.cons_ne_nil c rest)

end Component

def rendered (components : List Component) : List Char := components.flatMap Component.chars

theorem components_unlettered {number : List Char} (unlettered : ∀ c ∈ number, c.isAlpha = false)
    (pending rest : List Char) :
    components pending (number ++ rest) = components (number.reverse ++ pending) rest := by
  induction number generalizing pending with
  | nil => rfl
  | cons c others ih =>
    have none : ¬ c.isAlpha = true := by
      rw [unlettered c List.mem_cons_self]
      exact Bool.false_ne_true
    rw [List.cons_append, components, if_neg none,
      ih (fun later present => unlettered later (List.mem_cons_of_mem c present)), List.reverse_cons,
      List.append_assoc, List.singleton_append]

theorem components_cons (component : Component) (rest : List Char) :
    components [] (component.chars ++ rest) = (components [] rest).map (component.read :: ·) := by
  have number : (Literal.float? component.number.chars : Option Double) = some component.number.nearest :=
    component.number.float_chars
  rw [Component.chars, List.append_assoc, components_unlettered component.number_unlettered, List.singleton_append,
    components, if_pos component.isLetter, List.append_nil, List.reverse_reverse, number]
  cases components [] rest with
  | none => rfl
  | some others => rfl

theorem components_append (list : List Component) (rest : List Char) :
    components [] (rendered list ++ rest) = (components [] rest).map (list.map Component.read ++ ·) := by
  induction list with
  | nil => simp [rendered]
  | cons component others ih =>
    rw [rendered, List.flatMap_cons, List.append_assoc, components_cons, ← rendered, ih, Option.map_map]
    rfl

theorem components_rendered (list : List Component) :
    components [] (rendered list) = some (list.map Component.read) := by
  have whole := components_append list []
  rwa [List.append_nil, components, Option.map_some, List.append_nil] at whole

theorem components_open (list : List Component) {number : List Char} (nonempty : number ≠ [])
    (unlettered : ∀ c ∈ number, c.isAlpha = false) : components [] (rendered list ++ number) = none := by
  have alone : components [] number = none := by
    have given := components_unlettered unlettered [] []
    rw [List.append_nil, List.append_nil] at given
    obtain ⟨c, rest, same⟩ := List.exists_cons_of_ne_nil (List.reverse_ne_nil_iff.mpr nonempty)
    rw [given, same]
    rfl
  rw [components_append, alone, Option.map_none]

theorem component_of_read {number : List Char} (unlettered : ∀ c ∈ number, c.isAlpha = false) {letter : Char}
    (isLetter : letter.isAlpha = true) {x : Double} (read : Literal.float? number = some x) :
    ∃ component : Component, component.chars = number ++ [letter] ∧ component.read = (x, letter.toUpper) := by
  rcases Literal.float_some read with ⟨literal, rfl⟩ | ⟨sign, word, rfl, nonempty, letters⟩
  · have unmarked : literal.exponent = none := by
      cases given : literal.exponent with
      | none => rfl
      | some exponent =>
        have present : exponent.mark ∈ literal.chars := by
          rw [literal.chars_split, given]
          exact List.mem_append_right _ List.mem_cons_self
        have none := unlettered _ present
        rw [exponent.mark_is_alpha] at none
        cases none
    refine ⟨⟨literal, letter, unmarked, isLetter⟩, rfl, ?_⟩
    rw [literal.float_chars] at read
    rw [← Option.some.inj read]
    rfl
  · obtain ⟨c, rest, rfl⟩ := List.exists_cons_of_ne_nil nonempty
    have other := unlettered c (List.mem_append_right _ List.mem_cons_self)
    rw [letters c List.mem_cons_self] at other
    cases other

-- What is before a letter is pending.
theorem components_some {pending chars : List Char} (unlettered : ∀ c ∈ pending, c.isAlpha = false)
    {list : List (Double × Char)} (read : components pending chars = some list) :
    ∃ written : List Component, rendered written = pending.reverse ++ chars ∧
      written.map Component.read = list := by
  induction chars generalizing pending list with
  | nil =>
    cases pending with
    | nil =>
      cases read
      exact ⟨[], rfl, rfl⟩
    | cons c rest => cases read
  | cons c rest ih =>
    rw [components] at read
    split at read
    · next isLetter =>
      obtain ⟨x, number, read⟩ := Option.bind_eq_some_iff.mp read
      obtain ⟨others, behind, read⟩ := Option.bind_eq_some_iff.mp read
      obtain rfl := Option.some.inj read
      obtain ⟨component, chars, kept⟩ :=
        component_of_read (fun c present => unlettered c (List.mem_reverse.mp present)) isLetter number
      obtain ⟨written, same, reads⟩ := ih (List.forall_mem_nil _) behind
      refine ⟨component :: written, ?_, ?_⟩
      · rw [rendered, List.flatMap_cons, chars, ← rendered, same]
        simp
      · rw [List.map_cons, kept, reads]
    · next noLetter =>
      have still : ∀ other ∈ c :: pending, other.isAlpha = false :=
        List.forall_mem_cons.mpr ⟨Bool.eq_false_iff.mpr noLetter, unlettered⟩
      obtain ⟨written, same, reads⟩ := ih still read
      exact ⟨written, by simpa using same, reads⟩

def Part.weighed (part : Part) (written : List Component) : List (Writing × Nat) :=
  written.filterMap fun component => (part.seconds? component.letter).map fun seconds => (component.number, seconds)

def accumulate (sum : Double) (terms : List (Writing × Nat)) : Double :=
  terms.foldl (fun sum term => sum.add (term.1.nearest.mul (Binary.ofInt term.2))) sum

theorem total_rendered (part : Part) {written : List Component}
    (known : ∀ component ∈ written, (part.seconds? component.letter).isSome = true) (sum : Double) :
    total? part.unit? sum (written.map Component.read) = some (accumulate sum (part.weighed written)) := by
  induction written generalizing sum with
  | nil => rfl
  | cons component others ih =>
    obtain ⟨first, later⟩ := List.forall_mem_cons.mp known
    obtain ⟨seconds, unit⟩ := Option.isSome_iff_exists.mp first
    have same : part.unit? component.letter.toUpper = some seconds := (part.unit_eq _).trans unit
    rw [List.map_cons, Component.read, total?, same]
    refine (ih later _).trans ?_
    rw [Part.weighed, Part.weighed, List.filterMap_cons, unit]
    rfl

theorem total_misplaced (part : Part) {written : List Component} {component : Component}
    (present : component ∈ written) (unknown : part.seconds? component.letter = none) (sum : Double) :
    total? part.unit? sum (written.map Component.read) = none := by
  induction written generalizing sum with
  | nil => cases present
  | cons first others ih =>
    rw [List.map_cons, Component.read, total?]
    rcases List.mem_cons.mp present with rfl | later
    · have same : part.unit? component.letter.toUpper = none := (part.unit_eq _).trans unknown
      rw [same]
      rfl
    · cases part.unit? first.letter.toUpper with
      | none => rfl
      | some seconds => exact ih later _

theorem total_some {part : Part} {written : List Component} {sum total : Double}
    (given : total? part.unit? sum (written.map Component.read) = some total) :
    ∀ component ∈ written, (part.seconds? component.letter).isSome = true := by
  intro component present
  by_contra unknown
  rw [total_misplaced part present (by simpa using unknown)] at given
  cases given

def readParts (date time : List Char) : Option Duration := do
  let dates ← components [] date
  let times ← components [] time
  let sum ← total? dateUnit? (Binary.zero false) dates
  let sum ← total? timeUnit? sum times
  if dates = [] ∧ times = [] then none
  ofSeconds? sum

section

variable {mark timeMark : Char} {date time : List Char} (dateOnly : ∀ c ∈ date, isTimeMark c = false)

include dateOnly

theorem read_iso_date (isMark : mark = 'P' ∨ mark = 'p') :
    readIso? (String.ofList (mark :: date)) = readParts date [] := by
  have passes : ¬ (mark ≠ 'P' ∧ mark ≠ 'p') := by tauto
  simp [readIso?, Text.cut_at_none dateOnly, passes, readParts]

theorem read_iso_time (isMark : mark = 'P' ∨ mark = 'p') (isTime : isTimeMark timeMark = true)
    (present : time ≠ []) :
    readIso? (String.ofList (mark :: (date ++ timeMark :: time))) = readParts date time := by
  have passes : ¬ (mark ≠ 'P' ∧ mark ≠ 'p') := by tauto
  simp [readIso?, Text.cut_at_append dateOnly isTime, passes, readParts, present]

theorem read_iso_no_time (isTime : isTimeMark timeMark = true) :
    readIso? (String.ofList (mark :: (date ++ [timeMark]))) = none := by
  simp [readIso?, Text.cut_at_append dateOnly isTime]

end

theorem read_iso_some {text : String} {d : Duration} (read : readIso? text = some d) :
    ∃ mark date, (mark = 'P' ∨ mark = 'p') ∧
      (text.toList = mark :: date ∧ readParts date [] = some d ∨
        ∃ timeMark time, isTimeMark timeMark = true ∧ time ≠ [] ∧
          text.toList = mark :: (date ++ timeMark :: time) ∧ readParts date time = some d) := by
  unfold readIso? at read
  split at read
  · cases read
  · next mark rest text =>
    by_cases isMark : mark = 'P' ∨ mark = 'p'
    · have passes : ¬ (mark ≠ 'P' ∧ mark ≠ 'p') := by tauto
      rw [if_neg passes] at read
      cases cut : Text.cutAt isTimeMark rest with
      | none =>
        refine ⟨mark, rest, isMark, .inl ⟨text, ?_⟩⟩
        simpa [cut, readParts] using read
      | some parts =>
        obtain ⟨date, time⟩ := parts
        obtain ⟨timeMark, same, isTime⟩ := Text.cut_at_some cut
        by_cases empty : time = []
        · simp [cut, empty] at read
        · refine ⟨mark, date, isMark, .inr ⟨timeMark, time, isTime, empty, by rw [text, same], ?_⟩⟩
          simpa [cut, empty, readParts] using read
    · have fails : mark ≠ 'P' ∧ mark ≠ 'p' := by tauto
      simp [fails] at read

theorem is_time_mark_iff (c : Char) : isTimeMark c = true ↔ c = 'T' ∨ c = 't' := by
  simp [isTimeMark]

theorem unlettered_no_time_mark {c : Char} (unlettered : c.isAlpha = false) : isTimeMark c = false := by
  rw [← Bool.not_eq_true, is_time_mark_iff]
  rintro (rfl | rfl) <;> cases unlettered

theorem rendered_date_only {date : List Component}
    (dateOnly : ∀ component ∈ date, isTimeMark component.letter = false) :
    ∀ c ∈ rendered date, isTimeMark c = false := by
  intro c present
  obtain ⟨component, inside, within⟩ := List.mem_flatMap.mp present
  rcases List.mem_append.mp within with number | letter
  · exact unlettered_no_time_mark (component.number_unlettered c number)
  · rw [List.mem_singleton.mp letter]
    exact dateOnly component inside

theorem known_in_date {letter : Char} (known : (Part.date.seconds? letter).isSome = true) :
    isTimeMark letter = false := by
  rw [← Bool.not_eq_true, is_time_mark_iff]
  rintro (rfl | rfl) <;> cases known

theorem rendered_eq_nil_iff {list : List Component} : rendered list = [] ↔ list = [] := by
  cases list with
  | nil => exact iff_of_true rfl rfl
  | cons component others => simp [rendered, Component.chars]

def behind (timeMark : Char) : List Component → List Char
  | [] => []
  | component :: others => timeMark :: rendered (component :: others)

theorem behind_present (timeMark : Char) {time : List Component} (present : time ≠ []) :
    behind timeMark time = timeMark :: rendered time := by
  cases time with
  | nil => exact absurd rfl present
  | cons component others => rfl

def written (mark timeMark : Char) (date time : List Component) : String :=
  String.ofList (mark :: (rendered date ++ behind timeMark time))

theorem read_written {mark timeMark : Char} {date time : List Component} (isMark : mark = 'P' ∨ mark = 'p')
    (isTime : isTimeMark timeMark = true) (dateOnly : ∀ component ∈ date, isTimeMark component.letter = false) :
    readIso? (written mark timeMark date time) = readParts (rendered date) (rendered time) := by
  have only := rendered_date_only dateOnly
  by_cases empty : time = []
  · rw [empty, written, behind, List.append_nil]
    exact read_iso_date only isMark
  · rw [written, behind_present timeMark empty]
    exact read_iso_time only isMark isTime (mt rendered_eq_nil_iff.mp empty)

theorem read_parts_rendered {date time : List Component}
    (dated : ∀ component ∈ date, (Part.date.seconds? component.letter).isSome = true)
    (timed : ∀ component ∈ time, (Part.time.seconds? component.letter).isSome = true)
    (nonempty : date ≠ [] ∨ time ≠ []) :
    readParts (rendered date) (rendered time) =
      ofSeconds? (accumulate (Binary.zero false) (Part.date.weighed date ++ Part.time.weighed time)) := by
  have first : total? dateUnit? _ _ = _ := total_rendered .date dated (Binary.zero false)
  have second : total? timeUnit? _ _ = _ :=
    total_rendered .time timed (accumulate (Binary.zero false) (Part.date.weighed date))
  have some : ¬ (date = [] ∧ time = []) := by tauto
  rw [readParts, components_rendered, components_rendered]
  simp only [Option.bind_eq_bind, Option.bind_some, first, second, List.map_eq_nil_iff, if_neg some]
  rw [accumulate, accumulate, accumulate, List.foldl_append]

theorem read_parts_misplaced {date time : List Component}
    (misplaced : (∃ component ∈ date, Part.date.seconds? component.letter = none) ∨
      ∃ component ∈ time, Part.time.seconds? component.letter = none) :
    readParts (rendered date) (rendered time) = none := by
  rw [readParts, components_rendered, components_rendered]
  simp only [Option.bind_eq_bind, Option.bind_some]
  rcases misplaced with ⟨component, present, unknown⟩ | ⟨component, present, unknown⟩
  · have nothing : total? dateUnit? _ _ = none := total_misplaced .date present unknown (Binary.zero false)
    rw [nothing, Option.bind_none]
  · cases total? dateUnit? (Binary.zero false) (date.map Component.read) with
    | none => rfl
    | some sum =>
      have nothing : total? timeUnit? _ _ = none := total_misplaced .time present unknown sum
      rw [Option.bind_some, nothing, Option.bind_none]

theorem read_parts_open {date time : List Char} (opened : components [] date = none ∨ components [] time = none) :
    readParts date time = none := by
  rw [readParts]
  rcases opened with date | time
  · rw [date]
    rfl
  · rw [time]
    cases components [] date with
    | none => rfl
    | some dates => rfl

theorem read_parts_some {date time : List Char} {d : Duration} (read : readParts date time = some d) :
    ∃ dates times, rendered dates = date ∧ rendered times = time ∧ (dates ≠ [] ∨ times ≠ []) ∧
      (∀ component ∈ dates, (Part.date.seconds? component.letter).isSome = true) ∧
      ∀ component ∈ times, (Part.time.seconds? component.letter).isSome = true := by
  obtain ⟨list, dateRead, read⟩ := Option.bind_eq_some_iff.mp read
  obtain ⟨other, timeRead, read⟩ := Option.bind_eq_some_iff.mp read
  obtain ⟨sum, dateTotal, read⟩ := Option.bind_eq_some_iff.mp read
  obtain ⟨total, timeTotal, read⟩ := Option.bind_eq_some_iff.mp read
  obtain ⟨dates, dateChars, rfl⟩ := components_some (List.forall_mem_nil _) dateRead
  obtain ⟨times, timeChars, rfl⟩ := components_some (List.forall_mem_nil _) timeRead
  replace dateTotal : total? Part.date.unit? _ _ = some sum := dateTotal
  replace timeTotal : total? Part.time.unit? _ _ = some total := timeTotal
  refine ⟨dates, times, dateChars, timeChars, ?_, total_some dateTotal, total_some timeTotal⟩
  by_contra none
  have both : dates.map Component.read = [] ∧ times.map Component.read = [] := by
    simpa [not_or] using none
  rw [if_pos both] at read
  cases read

structure Span where
  mark : Char
  date : List Component
  timeMark : Char
  time : List Component
  begins : mark = 'P' ∨ mark = 'p'
  divides : timeMark = 'T' ∨ timeMark = 't'
  dated : ∀ component ∈ date, (Part.date.seconds? component.letter).isSome = true
  timed : ∀ component ∈ time, (Part.time.seconds? component.letter).isSome = true
  nonempty : date ≠ [] ∨ time ≠ []

namespace Span

def text (span : Span) : String := written span.mark span.timeMark span.date span.time

def components (span : Span) : List Component := span.date ++ span.time

def terms (span : Span) : List (Writing × Nat) := Part.date.weighed span.date ++ Part.time.weighed span.time

def sum (span : Span) : Double := accumulate (Binary.zero false) span.terms

theorem read_text (span : Span) : readIso? span.text = ofSeconds? span.sum := by
  have dateOnly : ∀ component ∈ span.date, isTimeMark component.letter = false :=
    fun component present => known_in_date (span.dated component present)
  rw [text, read_written span.begins ((is_time_mark_iff _).mpr span.divides) dateOnly,
    read_parts_rendered span.dated span.timed span.nonempty, sum, terms]

end Span

theorem span_of_read {text : String} {d : Duration} (read : readIso? text = some d) :
    ∃ span : Span, span.text = text := by
  obtain ⟨mark, date, begins, dateOnly | withTime⟩ := read_iso_some read
  · obtain ⟨chars, parts⟩ := dateOnly
    obtain ⟨dates, times, rfl, empty, nonempty, dated, timed⟩ := read_parts_some parts
    obtain rfl := rendered_eq_nil_iff.mp empty
    refine ⟨⟨mark, dates, 'T', [], begins, .inl rfl, dated, timed, nonempty⟩, ?_⟩
    rw [Span.text, written, behind, List.append_nil, ← chars, String.ofList_toList]
  · obtain ⟨timeMark, time, isTime, present, chars, parts⟩ := withTime
    obtain ⟨dates, times, rfl, rfl, nonempty, dated, timed⟩ := read_parts_some parts
    have later : times ≠ [] := mt rendered_eq_nil_iff.mpr present
    refine ⟨⟨mark, dates, timeMark, times, begins, (is_time_mark_iff _).mp isTime, dated, timed, nonempty⟩, ?_⟩
    rw [Span.text, written, behind_present timeMark later, ← chars, String.ofList_toList]

end Duration

end Recast
