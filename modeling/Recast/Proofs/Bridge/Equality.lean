import Recast.Proofs.Bridge.Ledger
set_option autoImplicit false

namespace Recast.Bridge

variable {Code : Type} {Carrier : Code → Type} {built : List (Code × Code)} {a b c : Code}

abbrev Likeness (Carrier : Code → Type) :=
  ⦃a b : Code⦄ → Transform (Carrier a) (Carrier b) → Transform (Carrier a) (Carrier b) → Prop

inductive Alike (related : Likeness Carrier) : {a b : Code} → Bridge Carrier a b → Bridge Carrier a b → Prop where
  | same {a b : Code} (x : Bridge Carrier a b) : Alike related x x
  | single {a b : Code} {serial serial' : Nat} {t u : Transform (Carrier a) (Carrier b)} (pair : related t u) :
    Alike related (.single serial t) (.single serial' u)
  | singleReversed {a b : Code} {serial serial' : Nat} {t u : Transform (Carrier a) (Carrier b)}
    (pair : related t u) :
    Alike related (.singleReversed serial t) (.singleReversed serial' u)
  | chain {a b c : Code} {serial serial' : Nat} {first first' : Bridge Carrier a b} {second second' : Bridge Carrier b c}
    (left : Alike related first first') (right : Alike related second second') :
    Alike related (.chain serial first second) (.chain serial' first' second')
  | chainReversed {a b c : Code} {serial serial' : Nat} {first first' : Bridge Carrier a b}
    {second second' : Bridge Carrier b c} (left : Alike related first first') (right : Alike related second second') :
    Alike related (.chainReversed serial first second) (.chainReversed serial' first' second')

section

variable {related : Likeness Carrier}

theorem Alike.symm {x y : Bridge Carrier a b} (alike : Alike related x y)
    (turn : ∀ {a b : Code} {t u : Transform (Carrier a) (Carrier b)}, related t u → related u t) :
    Alike related y x := by
  induction alike with
  | same x => exact .same x
  | single pair => exact .single (turn pair)
  | singleReversed pair => exact .singleReversed (turn pair)
  | chain left right ihLeft ihRight => exact .chain ihLeft ihRight
  | chainReversed left right ihLeft ihRight => exact .chainReversed ihLeft ihRight

theorem Alike.trans {x y z : Bridge Carrier a b} (alike : Alike related x y) (alike' : Alike related y z)
    (join : ∀ {a b : Code} {t u v : Transform (Carrier a) (Carrier b)}, related t u → related u v → related t v) :
    Alike related x z := by
  induction alike with
  | same x => exact alike'
  | single pair =>
    cases alike' with
    | same => exact .single pair
    | single pair' => exact .single (join pair pair')
  | singleReversed pair =>
    cases alike' with
    | same => exact .singleReversed pair
    | singleReversed pair' => exact .singleReversed (join pair pair')
  | chain left right ihLeft ihRight =>
    cases alike' with
    | same => exact .chain left right
    | chain left' right' => exact .chain (ihLeft left') (ihRight right')
  | chainReversed left right ihLeft ihRight =>
    cases alike' with
    | same => exact .chainReversed left right
    | chainReversed left' right' => exact .chainReversed (ihLeft left') (ihRight right')

theorem Alike.reverse {x y : Bridge Carrier a b} (alike : Alike related x y) :
    Alike related x.reverse y.reverse := by
  cases alike with
  | same x => exact .same x.reverse
  | single pair => exact .singleReversed pair
  | singleReversed pair => exact .single pair
  | chain left right => exact .chainReversed left right
  | chainReversed left right => exact .chain left right

theorem Alike.passage {x y : Bridge Carrier a b} (alike : Alike related x y)
    (behave : ∀ {a b : Code} {t u : Transform (Carrier a) (Carrier b)}, related t u →
      t.forward = u.forward ∧ t.backward = u.backward) : x.passage = y.passage := by
  induction alike with
  | same x => rfl
  | single pair | singleReversed pair =>
    obtain ⟨forward, backward⟩ := behave pair
    simp only [Bridge.passage, forward, backward]
  | chain left right ihLeft ihRight | chainReversed left right ihLeft ihRight =>
    simp only [Bridge.passage, ihLeft, ihRight]

theorem Alike.is_identity {x y : Bridge Carrier a b} (alike : Alike related x y) : x.isIdentity = y.isIdentity := by
  cases alike <;> rfl

theorem Alike.and_then {x x' : Bridge Carrier a b} {y y' : Bridge Carrier b c} (left : Alike related x x')
    (right : Alike related y y') (supply supply' : Nat) :
    Alike related ((x.andThen y).run supply).1 ((x'.andThen y').run supply').1 := by
  cases leftOut : x.isIdentity with
  | true =>
    cases x with
    | identity reversed =>
      cases left with
      | same => exact right
    | single | singleReversed | chain | chainReversed => cases leftOut
  | false =>
    have leftOut' : x'.isIdentity = false := left.is_identity ▸ leftOut
    cases rightOut : y.isIdentity with
    | true =>
      cases y with
      | identity reversed =>
        cases right with
        | same =>
          rw [and_then_identity leftOut, and_then_identity leftOut']
          exact left
      | single | singleReversed | chain | chainReversed => cases rightOut
    | false =>
      have rightOut' : y'.isIdentity = false := right.is_identity ▸ rightOut
      rw [and_then_new leftOut rightOut, and_then_new leftOut' rightOut']
      exact .chain left right

end

section

variable [DecidableEq Code]

theorem equal_self (x : Bridge Carrier a b) : equal x x = true := by
  cases x <;> simp [equal, alike]

theorem Alike.equal {related : Likeness Carrier} {x y : Bridge Carrier a b} (alike : Alike related x y)
    (count : ∀ {a b : Code} {t u : Transform (Carrier a) (Carrier b)}, related t u → t.equivalent u.mark = true) :
    equal x y = true := by
  induction alike with
  | same x => exact equal_self x
  | single pair | singleReversed pair => simp [Bridge.equal, Bridge.alike, count pair]
  | chain left right ihLeft ihRight | chainReversed left right ihLeft ihRight =>
    simp only [Bridge.equal] at ihLeft ihRight
    simp [Bridge.equal, Bridge.alike, ihLeft, ihRight]

end

section

variable [(code : Code) → Textual (Carrier code)]

-- What users have to keep to: a transform is of a family of its own, counts as the same only transforms of
-- that family that do the same, and does so in either order and through any third.
structure Congruous (users : Transforms Carrier) : Prop where
  foreign : ∀ {a b : Code} {t : Transform (Carrier a) (Carrier b)}, users t →
    t.mark.family ≠ functionMark.family ∧ t.mark.family ≠ (textTransform String).mark.family
  kindred : ∀ {a b : Code} {t : Transform (Carrier a) (Carrier b)}, users t →
    ∀ mark, t.equivalent mark = true → mark.family = t.mark.family
  symm : ∀ {a b : Code} {t u : Transform (Carrier a) (Carrier b)}, users t → users u →
    t.equivalent u.mark = true → u.equivalent t.mark = true
  trans : ∀ {a b : Code} {t u v : Transform (Carrier a) (Carrier b)}, users t → users u → users v →
    t.equivalent u.mark = true → u.equivalent v.mark = true → t.equivalent v.mark = true
  behave : ∀ {a b : Code} {t u : Transform (Carrier a) (Carrier b)}, users t → users u →
    t.equivalent u.mark = true → t.forward = u.forward ∧ t.backward = u.backward

variable {users : Transforms Carrier}

def Matched (users : Transforms Carrier) ⦃a b : Code⦄
    (t u : Transform (Carrier a) (Carrier b)) : Prop :=
  Supplied users t ∧ Supplied users u ∧ t.equivalent u.mark = true

theorem Congruous.matched (congruous : Congruous users) {t u : Transform (Carrier a) (Carrier b)}
    (pair : Matched users t u) : (users t ∧ users u) ∨ t = u := by
  obtain ⟨knows, knows', counts⟩ := pair
  cases knows with
  | functions forward backward => cases counts
  | user brought =>
    obtain ⟨notFunction, notText⟩ := congruous.foreign brought
    have kindred := congruous.kindred brought u.mark counts
    cases knows' with
    | user brought' => exact .inl ⟨brought, brought'⟩
    | functions forward backward => exact absurd kindred.symm notFunction
    | textual texts =>
      rw [textual_on_mark] at kindred
      exact absurd kindred.symm notText
  | textual texts =>
    rw [textual_on_equivalent, beq_iff_eq] at counts
    cases knows' with
    | user brought' =>
      obtain ⟨-, notText⟩ := congruous.foreign brought'
      exact absurd (congrArg Mark.family counts) notText
    | functions forward backward =>
      have apart : functionMark.family ≠ "text" := by decide
      exact absurd (congrArg Mark.family counts) apart
    | textual texts' => exact .inr rfl

theorem Congruous.matched_symm (congruous : Congruous users) {t u : Transform (Carrier a) (Carrier b)}
    (pair : Matched users t u) : Matched users u t := by
  rcases congruous.matched pair with ⟨brought, brought'⟩ | rfl
  · exact ⟨pair.2.1, pair.1, congruous.symm brought brought' pair.2.2⟩
  · exact pair

theorem Congruous.matched_trans (congruous : Congruous users) {t u v : Transform (Carrier a) (Carrier b)}
    (pair : Matched users t u) (pair' : Matched users u v) : Matched users t v := by
  rcases congruous.matched pair with ⟨brought, brought'⟩ | rfl
  · rcases congruous.matched pair' with ⟨-, brought''⟩ | rfl
    · exact ⟨pair.1, pair'.2.1, congruous.trans brought brought' brought'' pair.2.2 pair'.2.2⟩
    · exact pair
  · exact pair'

theorem Congruous.matched_behave (congruous : Congruous users) {t u : Transform (Carrier a) (Carrier b)}
    (pair : Matched users t u) : t.forward = u.forward ∧ t.backward = u.backward := by
  rcases congruous.matched pair with ⟨brought, brought'⟩ | rfl
  · exact congruous.behave brought brought' pair.2.2
  · exact ⟨rfl, rfl⟩

end

section

variable [DecidableEq Code] [(code : Code) → Textual (Carrier code)] {ledger : Ledger Carrier}
  {users : Transforms Carrier}

theorem single_alike {serial serial' : Nat} {t u : Transform (Carrier a) (Carrier b)}
    (recorded : (single serial t).Recorded ledger users) (recorded' : (single serial' u).Recorded ledger users)
    (equals : equal (single serial t) (single serial' u) = true) :
    Alike (Matched users) (single serial t) (single serial' u) := by
  obtain ⟨entry, knows⟩ := recorded
  obtain ⟨entry', knows'⟩ := recorded'
  simp only [Bridge.equal, Bridge.alike, Bool.or_eq_true, beq_iff_eq] at equals
  rcases equals with rfl | counts
  · rw [entry] at entry'
    cases entry'
    exact .same _
  · exact .single ⟨knows, knows', counts⟩

theorem chain_alike {b' : Code} {serial serial' : Nat} {first : Bridge Carrier a b} {second : Bridge Carrier b c}
    {first' : Bridge Carrier a b'} {second' : Bridge Carrier b' c}
    (recorded : (chain serial first second).Recorded ledger users)
    (recorded' : (chain serial' first' second').Recorded ledger users)
    (equals : equal (chain serial first second) (chain serial' first' second') = true)
    (left : ∀ {y : Bridge Carrier a b}, y.Recorded ledger users → equal first y = true → Alike (Matched users) first y)
    (right : ∀ {y : Bridge Carrier b c}, y.Recorded ledger users → equal second y = true →
      Alike (Matched users) second y) :
    Alike (Matched users) (chain serial first second) (chain serial' first' second') := by
  obtain ⟨entry, -, -⟩ := recorded
  obtain ⟨entry', recordedFirst', recordedSecond'⟩ := recorded'
  simp only [Bridge.equal, Bridge.alike, Bool.or_eq_true, Bool.and_eq_true, beq_iff_eq, decide_eq_true_eq] at equals
  rcases equals with rfl | ⟨⟨rfl, equalFirst⟩, equalSecond⟩
  · rw [entry] at entry'
    cases entry'
    exact .same _
  · exact .chain (left recordedFirst' equalFirst) (right recordedSecond' equalSecond)

theorem alike_of_equal {x y : Bridge Carrier a b} (recorded : x.Recorded ledger users)
    (recorded' : y.Recorded ledger users) (equals : equal x y = true) : Alike (Matched users) x y := by
  induction x with
  | identity reversed a =>
    cases y with
    | identity reversed' a =>
      simp only [Bridge.equal, Bridge.alike, Bool.and_eq_true, beq_iff_eq] at equals
      obtain ⟨rfl, -⟩ := equals
      exact .same _
    | single | singleReversed | chain | chainReversed => cases equals
  | single serial t =>
    cases y with
    | single serial' u => exact single_alike recorded recorded' equals
    | identity | singleReversed | chain | chainReversed => cases equals
  | singleReversed serial t =>
    cases y with
    | singleReversed serial' u =>
      have forward : Alike (Matched users) (single serial t) (single serial' u) :=
        single_alike recorded recorded' equals
      exact forward.reverse
    | identity | single | chain | chainReversed => cases equals
  | chain serial first second ihLeft ihRight =>
    cases y with
    | chain serial' first' second' =>
      exact chain_alike recorded recorded' equals (ihLeft recorded.2.1) (ihRight recorded.2.2)
    | identity | single | singleReversed | chainReversed => cases equals
  | chainReversed serial first second ihLeft ihRight =>
    cases y with
    | chainReversed serial' first' second' =>
      have forward : Alike (Matched users) (chain serial first second) (chain serial' first' second') :=
        chain_alike recorded recorded' equals (ihLeft recorded.2.1) (ihRight recorded.2.2)
      exact forward.reverse
    | identity | single | singleReversed | chain => cases equals

theorem run_alike {program : Program Carrier built} (drawn : program.DrawsOn users) (supply : Nat)
    {x y : Name built a b} (equals : equal (program.bridge supply x) (program.bridge supply y) = true) :
    Alike (Matched users) (program.bridge supply x) (program.bridge supply y) := by
  obtain ⟨ledger, -, recorded⟩ := run_recorded drawn supply
  exact alike_of_equal (recorded x) (recorded y) equals

theorem Alike.equal_of_matched {x y : Bridge Carrier a b} (alike : Alike (Matched users) x y) :
    Bridge.equal x y = true := alike.equal fun pair => pair.2.2

theorem equality_congruence (congruous : Congruous users) {program : Program Carrier built}
    (drawn : program.DrawsOn users) (supply : Nat) :
    (∀ {a b : Code} (x : Name built a b), equal (program.bridge supply x) (program.bridge supply x) = true) ∧
    (∀ {a b : Code} (x y : Name built a b), equal (program.bridge supply x) (program.bridge supply y) = true →
      equal (program.bridge supply y) (program.bridge supply x) = true) ∧
    (∀ {a b : Code} (x y z : Name built a b), equal (program.bridge supply x) (program.bridge supply y) = true →
      equal (program.bridge supply y) (program.bridge supply z) = true →
        equal (program.bridge supply x) (program.bridge supply z) = true) ∧
    (∀ {a b : Code} (x y : Name built a b), equal (program.bridge supply x) (program.bridge supply y) = true →
      equal (program.bridge supply x).reverse (program.bridge supply y).reverse = true ∧
      (∀ {c : Code} (z : Name built b c) (next next' : Nat),
        equal (((program.bridge supply x).andThen (program.bridge supply z)).run next).1
          (((program.bridge supply y).andThen (program.bridge supply z)).run next').1 = true) ∧
      (∀ {c : Code} (w : Name built c a) (next next' : Nat),
        equal (((program.bridge supply w).andThen (program.bridge supply x)).run next).1
          (((program.bridge supply w).andThen (program.bridge supply y)).run next').1 = true) ∧
      (∀ input, (program.bridge supply x).convert input = (program.bridge supply y).convert input) ∧
      (∀ input, (program.bridge supply x).convertBack input = (program.bridge supply y).convertBack input)) := by
  refine ⟨fun x => equal_self _, ?symm, ?trans, ?congruence⟩
  case symm =>
    intro a b x y equals
    have alike := run_alike drawn supply equals
    exact (alike.symm congruous.matched_symm).equal_of_matched
  case trans =>
    intro a b x y z equals equals'
    have alike := run_alike drawn supply equals
    have alike' := run_alike drawn supply equals'
    exact (alike.trans alike' congruous.matched_trans).equal_of_matched
  case congruence =>
    intro a b x y equals
    have alike := run_alike drawn supply equals
    have passages := alike.passage congruous.matched_behave
    refine ⟨alike.reverse.equal_of_matched, ?_, ?_, ?_, ?_⟩
    · intro c z next next'
      exact (alike.and_then (.same _) next next').equal_of_matched
    · intro c w next next'
      exact (Alike.and_then (.same _) alike next next').equal_of_matched
    · intro input
      rw [convert, convert, passages]
    · intro input
      rw [convertBack, convertBack, passages]

end

def ending (mark : String) : Transform String String where
  forward text := .ok (text ++ mark)
  backward text :=
    if mark.toList <:+ text.toList then .ok (String.ofList (text.toList.take (text.length - mark.length)))
    else .error (.contract "Ending" .backward)
  mark := ⟨"ending", mark⟩
  equivalent other := other == ⟨"ending", mark⟩

def IsEnding ⦃a b : Unit⦄ (transform : Transform ((fun _ : Unit => String) a) ((fun _ : Unit => String) b)) : Prop :=
  ∃ mark, transform = ending mark

theorem ending_equivalent {mark mark' : String} (counts : (ending mark).equivalent (ending mark').mark = true) :
    mark = mark' := by
  have marks : (⟨"ending", mark'⟩ : Mark) = ⟨"ending", mark⟩ := beq_iff_eq.mp counts
  exact (congrArg Mark.setting marks).symm

theorem endings_congruous : Congruous IsEnding where
  foreign := by
    rintro a b t ⟨mark, rfl⟩
    have notFunction : "ending" ≠ functionMark.family := by decide
    have notText : "ending" ≠ (textTransform String).mark.family := by decide
    exact ⟨notFunction, notText⟩
  kindred := by
    rintro a b t ⟨mark, rfl⟩ other counts
    exact congrArg Mark.family (beq_iff_eq.mp counts : other = ⟨"ending", mark⟩)
  symm := by
    rintro a b t u ⟨mark, rfl⟩ ⟨mark', rfl⟩ counts
    obtain rfl := ending_equivalent counts
    exact counts
  trans := by
    rintro a b t u v ⟨mark, rfl⟩ ⟨mark', rfl⟩ ⟨mark'', rfl⟩ counts counts'
    obtain rfl := ending_equivalent counts
    exact counts'
  behave := by
    rintro a b t u ⟨mark, rfl⟩ ⟨mark', rfl⟩ counts
    obtain rfl := ending_equivalent counts
    exact ⟨rfl, rfl⟩

def endings : Program (fun _ : Unit => String) [((), ()), ((), ()), ((), ()), ((), ()), ((), ())] :=
  let text := Program.start.next (.textual () rfl)
  let first := (text.next (.new (ending "!"))).next (.andThen (.earlier .last) .last)
  (first.next (.new (ending "!"))).next (.andThen (.earlier (.earlier (.earlier .last))) .last)

theorem endings_built_apart :
    let one := endings.bridge 0 (.earlier (.earlier .last))
    let other := endings.bridge 0 .last
    one.sameAs other = false ∧ equal one other = true ∧ equal one.reverse other.reverse = true ∧
      ∀ input, one.convert input = other.convert input := by
  intro one other
  have drawn : endings.DrawsOn IsEnding := ⟨⟨⟨⟨⟨trivial, trivial⟩, "!", rfl⟩, trivial⟩, "!", rfl⟩, trivial⟩
  have equals : equal one other = true := by decide
  obtain ⟨-, -, -, congruence⟩ := equality_congruence endings_congruous drawn 0
  obtain ⟨turned, -, -, agree, -⟩ := congruence _ _ equals
  exact ⟨by decide, equals, turned, agree⟩

end Recast.Bridge
