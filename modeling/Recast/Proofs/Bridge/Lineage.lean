import Mathlib.Data.Set.Function
import Mathlib.Order.Interval.Set.Defs
import Recast.Proofs.Bridge.Program
set_option autoImplicit false

namespace Recast.Bridge

variable {Code : Type}

-- Every bridge stems from the identity of a type or from the call at a place of the program.
inductive Origin (Code : Type) where
  | identity (a : Code)
  | call (place : Nat)

theorem Origin.call_of_not_identity {origin : Origin Code} (other : ¬ ∃ a, origin = .identity a) :
    ∃ place, origin = .call place := by
  cases origin with
  | identity a => exact absurd ⟨a, rfl⟩ other
  | call place => exact ⟨place, rfl⟩

structure Lineage (Code : Type) where
  origin : Origin Code
  turned : Bool

def Lineage.joined (place : Nat) (first second : Lineage Code) : Lineage Code :=
  match first.origin, second.origin with
  | .identity _, _ => second
  | .call _, .identity _ => first
  | .call _, .call _ => ⟨.call place, false⟩

variable {Carrier : Code → Type} {built : List (Code × Code)} {a b c : Code}

def Step.lineage (place : Nat) (past : {a b : Code} → Name built a b → Lineage Code) :
    Step Carrier built a b → Lineage Code
  | .new _ => ⟨.call place, false⟩
  | .functions? _ _ => ⟨.call place, false⟩
  | .functions _ _ => ⟨.call place, false⟩
  | .textual _ _ => ⟨.call place, false⟩
  | .identity a => ⟨.identity a, false⟩
  | .clone name => past name
  | .reverse name => ⟨(past name).origin, !(past name).turned⟩
  | .andThen first second => .joined place (past first) (past second)

def Program.lineage :
    {built : List (Code × Code)} → Program Carrier built → {a b : Code} → Name built a b → Lineage Code
  | _ :: earlier, .next before step, _, _, .last => step.lineage earlier.length before.lineage
  | _, .next before _, _, _, .earlier name => before.lineage name

structure Issued (place : Nat → Nat) (first next length : Nat) : Prop where
  ordered : first ≤ next
  past : ∀ serial ∈ Set.Ico first next, place serial < length
  distinct : Set.InjOn place (Set.Ico first next)

structure Shows (place : Nat → Nat) (first next : Nat) (bridge : Bridge Carrier a b) (lineage : Lineage Code) :
    Prop where
  turned : bridge.isReversed = lineage.turned
  identity : bridge.serial? = none → lineage.origin = .identity a
  call : ∀ serial, bridge.serial? = some serial →
    first ≤ serial ∧ serial < next ∧ lineage.origin = .call (place serial)

theorem serial_reverse (bridge : Bridge Carrier a b) : bridge.reverse.serial? = bridge.serial? := by
  cases bridge <;> rfl

theorem is_reversed_reverse (bridge : Bridge Carrier a b) : bridge.reverse.isReversed = !bridge.isReversed := by
  cases bridge <;> rfl

theorem ends_of_no_serial {bridge : Bridge Carrier a b} (unnumbered : bridge.serial? = none) : a = b := by
  cases bridge with
  | identity => rfl
  | single | singleReversed | chain | chainReversed => cases unnumbered

section

variable {place other : Nat → Nat} {first next later length : Nat} {bridge : Bridge Carrier a b}
  {lineage : Lineage Code}

theorem Shows.reverse (shown : Shows place first next bridge lineage) :
    Shows place first next bridge.reverse ⟨lineage.origin, !lineage.turned⟩ where
  turned := by rw [is_reversed_reverse, shown.turned]
  identity unnumbered := by
    rw [serial_reverse] at unnumbered
    obtain rfl := ends_of_no_serial unnumbered
    exact shown.identity unnumbered
  call serial numbered := by
    rw [serial_reverse] at numbered
    exact shown.call serial numbered

theorem Shows.grow (shown : Shows place first next bridge lineage) (more : next ≤ later)
    (kept : ∀ serial, serial < next → other serial = place serial) : Shows other first later bridge lineage where
  turned := shown.turned
  identity := shown.identity
  call serial numbered := by
    obtain ⟨from_first, before, origin⟩ := shown.call serial numbered
    refine ⟨from_first, Nat.lt_of_lt_of_le before more, ?_⟩
    rw [origin, kept serial before]

theorem Issued.idle (issued : Issued place first next length) : Issued place first next (length + 1) where
  ordered := issued.ordered
  past serial given := Nat.lt_succ_of_lt (issued.past serial given)
  distinct := issued.distinct

theorem inj_on_update {α : Type} {given : Nat → α} {new : α} (distinct : Set.InjOn given (Set.Ico first next))
    (unused : ∀ serial ∈ Set.Ico first next, given serial ≠ new) :
    Set.InjOn (Function.update given next new) (Set.Ico first (next + 1)) := by
  have old : ∀ serial ∈ Set.Ico first (next + 1), serial ≠ next → serial ∈ Set.Ico first next := by
    rintro serial ⟨after, before⟩ other
    exact ⟨after, by omega⟩
  intro one oneGiven other otherGiven same
  by_cases oneNew : one = next
  · by_cases otherNew : other = next
    · rw [oneNew, otherNew]
    · rw [oneNew, Function.update_self, Function.update_of_ne otherNew] at same
      exact absurd same.symm (unused other (old other otherGiven otherNew))
  · rw [Function.update_of_ne oneNew] at same
    by_cases otherNew : other = next
    · rw [otherNew, Function.update_self] at same
      exact absurd same (unused one (old one oneGiven oneNew))
    · rw [Function.update_of_ne otherNew] at same
      exact distinct (old one oneGiven oneNew) (old other otherGiven otherNew) same

theorem Issued.give (issued : Issued place first next length) :
    Issued (Function.update place next length) first (next + 1) (length + 1) where
  ordered := Nat.le_succ_of_le issued.ordered
  past serial given := by
    by_cases new : serial = next
    · rw [new, Function.update_self]
      exact Nat.lt_succ_self length
    · have old : serial < next := by
        have before := given.2
        omega
      rw [Function.update_of_ne new]
      exact Nat.lt_succ_of_lt (issued.past serial ⟨given.1, old⟩)
  distinct := inj_on_update issued.distinct fun serial given => Nat.ne_of_lt (issued.past serial given)

theorem Shows.give (ordered : first ≤ next) (numbered : bridge.serial? = some next)
    (unturned : bridge.isReversed = false) :
    Shows (Function.update place next length) first (next + 1) bridge ⟨.call length, false⟩ where
  turned := unturned
  identity unnumbered := by
    rw [numbered] at unnumbered
    cases unnumbered
  call serial known := by
    rw [numbered] at known
    obtain rfl := Option.some.inj known
    exact ⟨ordered, Nat.lt_succ_self next, by rw [Function.update_self]⟩

theorem Shows.identity_iff (shown : Shows place first next bridge lineage) :
    bridge.isIdentity = true ↔ ∃ c, lineage.origin = .identity c := by
  rw [← serial_none_iff]
  constructor
  · intro unnumbered
    exact ⟨a, shown.identity unnumbered⟩
  · rintro ⟨c, origin⟩
    cases numbered : bridge.serial? with
    | none => rfl
    | some serial =>
      obtain ⟨-, -, called⟩ := shown.call serial numbered
      rw [origin] at called
      cases called

theorem Shows.same_as_iff {bridge' : Bridge Carrier a b} {lineage' : Lineage Code}
    (issued : Issued place first next length) (shown : Shows place first next bridge lineage)
    (shown' : Shows place first next bridge' lineage') : bridge.sameAs bridge' = true ↔ lineage = lineage' := by
  obtain ⟨origin, turned⟩ := lineage
  obtain ⟨origin', turned'⟩ := lineage'
  have split : bridge.sameAs bridge' = true ↔ bridge.serial? = bridge'.serial? ∧ turned = turned' := by
    simp only [sameAs, Bool.and_eq_true, beq_iff_eq, shown.turned, shown'.turned]
  rw [split, Lineage.mk.injEq]
  refine and_congr_left' ?_
  cases numbered : bridge.serial? with
  | none =>
    have stems : origin = .identity a := shown.identity numbered
    cases numbered' : bridge'.serial? with
    | none =>
      have stems' : origin' = .identity a := shown'.identity numbered'
      simp [stems, stems']
    | some serial' =>
      obtain ⟨-, -, stems'⟩ := shown'.call serial' numbered'
      simp [stems, show origin' = _ from stems']
  | some serial =>
    obtain ⟨after, before, stems⟩ := shown.call serial numbered
    cases numbered' : bridge'.serial? with
    | none =>
      have stems' : origin' = .identity a := shown'.identity numbered'
      simp [stems', show origin = _ from stems]
    | some serial' =>
      obtain ⟨after', before', stems'⟩ := shown'.call serial' numbered'
      rw [show origin = _ from stems, show origin' = _ from stems']
      constructor
      · intro same
        rw [Option.some.inj same]
      · intro same
        rw [issued.distinct ⟨after, before⟩ ⟨after', before'⟩ (Origin.call.inj same)]

end

section

variable [(code : Code) → Textual (Carrier code)] {place : Nat → Nat} {first next : Nat}

theorem perform_shows (step : Step Carrier built a b) {shelf : Shelf Carrier built}
    {past : {a b : Code} → Name built a b → Lineage Code}
    (shown : ∀ {a b : Code} (name : Name built a b), Shows place first next (shelf.get name) (past name))
    (length : Nat) :
    let performed := step.perform shelf next
    (performed.2 = next ∧ Shows place first next performed.1 (step.lineage length past)) ∨
      (performed.2 = next + 1 ∧ performed.1.serial? = some next ∧ performed.1.isReversed = false ∧
        step.lineage length past = ⟨.call length, false⟩) := by
  cases step with
  | new transform => exact .inr ⟨rfl, rfl, rfl, rfl⟩
  | functions? forward backward => exact .inr ⟨rfl, rfl, rfl, rfl⟩
  | functions forward backward => exact .inr ⟨rfl, rfl, rfl, rfl⟩
  | textual b texts => exact .inr ⟨rfl, rfl, rfl, rfl⟩
  | identity a => exact .inl ⟨rfl, rfl, fun _ => rfl, fun _ numbered => nomatch numbered⟩
  | clone name => exact .inl ⟨rfl, shown name⟩
  | reverse name => exact .inl ⟨rfl, (shown name).reverse⟩
  | andThen one other =>
    have left := shown one
    have right := shown other
    simp only [Step.perform, Step.lineage, Lineage.joined]
    generalize shelf.get one = x at left ⊢
    generalize shelf.get other = y at right ⊢
    cases x with
    | identity reversed =>
      rw [left.identity rfl]
      exact .inl ⟨rfl, right⟩
    | single | singleReversed | chain | chainReversed =>
      obtain ⟨-, -, origin⟩ := left.call _ rfl
      cases y with
      | identity reversed =>
        rw [origin, right.identity rfl]
        exact .inl ⟨rfl, left⟩
      | single | singleReversed | chain | chainReversed =>
        obtain ⟨-, -, otherOrigin⟩ := right.call _ rfl
        rw [origin, otherOrigin]
        exact .inr ⟨rfl, rfl, rfl, rfl⟩

theorem run_shows (program : Program Carrier built) (supply : Nat) :
    ∃ place, Issued place supply (program.run supply).2 built.length ∧
      ∀ {a b : Code} (name : Name built a b),
        Shows place supply (program.run supply).2 (program.bridge supply name) (program.lineage name) := by
  induction program with
  | start =>
    have none : ∀ serial, serial ∉ Set.Ico supply supply := fun serial given => Nat.not_lt.mpr given.1 given.2
    refine ⟨id, ⟨Nat.le_refl supply, ?_, ?_⟩, nofun⟩
    · exact fun serial given => absurd given (none serial)
    · exact fun one given => absurd given (none one)
  | @next built a b before step ih =>
    obtain ⟨place, issued, shown⟩ := ih
    rcases perform_shows step shown built.length with ⟨idle, kept⟩ | ⟨given, numbered, unturned, origin⟩
    · have next : ((before.next step).run supply).2 = (before.run supply).2 := idle
      rw [next]
      refine ⟨place, issued.idle, ?_⟩
      intro a b name
      cases name with
      | last => exact kept
      | earlier name => exact shown name
    · have next : ((before.next step).run supply).2 = (before.run supply).2 + 1 := given
      rw [next]
      refine ⟨Function.update place (before.run supply).2 built.length, issued.give, ?_⟩
      intro a b name
      cases name with
      | last =>
        have lineage : (before.next step).lineage .last = ⟨.call built.length, false⟩ := origin
        rw [lineage]
        exact .give issued.ordered numbered unturned
      | earlier name =>
        have kept : ∀ serial, serial < (before.run supply).2 →
            Function.update place (before.run supply).2 built.length serial = place serial :=
          fun serial old => Function.update_of_ne (Nat.ne_of_lt old) _ _
        exact (shown name).grow (Nat.le_succ _) kept

theorem same_as_iff_lineage (program : Program Carrier built) (supply : Nat) (x y : Name built a b) :
    (program.bridge supply x).sameAs (program.bridge supply y) = true ↔ program.lineage x = program.lineage y := by
  obtain ⟨place, issued, shown⟩ := run_shows program supply
  exact (shown x).same_as_iff issued (shown y)

theorem is_identity_iff_lineage (program : Program Carrier built) (supply : Nat) (x : Name built a b) :
    (program.bridge supply x).isIdentity = true ↔ ∃ c, (program.lineage x).origin = .identity c := by
  obtain ⟨place, issued, shown⟩ := run_shows program supply
  exact (shown x).identity_iff

theorem lineage_before (program : Program Carrier built) (name : Name built a b) {place : Nat}
    (stems : (program.lineage name).origin = .call place) : place < built.length := by
  obtain ⟨places, issued, shown⟩ := run_shows program 0
  cases numbered : (program.bridge 0 name).serial? with
  | none =>
    have origin := (shown name).identity numbered
    rw [stems] at origin
    cases origin
  | some serial =>
    obtain ⟨after, before, origin⟩ := (shown name).call serial numbered
    rw [stems] at origin
    rw [Origin.call.inj origin]
    exact issued.past serial ⟨after, before⟩

theorem call_of_not_identity (program : Program Carrier built) (supply : Nat) (x : Name built a b)
    (other : (program.bridge supply x).isIdentity = false) : ∃ place, (program.lineage x).origin = .call place := by
  rw [← Bool.not_eq_true, is_identity_iff_lineage] at other
  exact Origin.call_of_not_identity other

theorem joined_apart (program : Program Carrier built) (supply : Nat) (x : Name built a b) (y : Name built b c)
    (z : Name built a c) (left : (program.bridge supply x).isIdentity = false)
    (right : (program.bridge supply y).isIdentity = false) :
    ((program.next (.andThen x y)).bridge supply .last).sameAs
      ((program.next (.andThen x y)).bridge supply (.earlier z)) = false := by
  obtain ⟨place, origin⟩ := call_of_not_identity program supply x left
  obtain ⟨place', origin'⟩ := call_of_not_identity program supply y right
  have new : (program.next (.andThen x y)).lineage .last = ⟨.call built.length, false⟩ := by
    simp only [Program.lineage, Step.lineage, Lineage.joined, origin, origin']
  rw [← Bool.not_eq_true, same_as_iff_lineage, new]
  intro same
  have old : (program.lineage z).origin = .call built.length := (congrArg Lineage.origin same).symm
  exact Nat.lt_irrefl _ (lineage_before program z old)

end

end Recast.Bridge
