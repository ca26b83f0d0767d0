import Recast.Proofs.Bridge.Lineage
set_option autoImplicit false

/-!
What holds the bridges of a program: the address of what was allocated for each, and an orientation. The
identity of a type is allocated when it is first asked for, and found in a table from then on.
-/

namespace Recast.Bridge

variable {Code : Type}

structure Handle where
  address : Nat
  turned : Bool

structure Memory (Code : Type) where
  identities : List (Code × Nat)
  next : Nat

namespace Memory

def empty : Memory Code := ⟨[], 0⟩

def allocate (memory : Memory Code) : Handle × Memory Code :=
  (⟨memory.next, false⟩, ⟨memory.identities, memory.next + 1⟩)

def identity [DecidableEq Code] (memory : Memory Code) (a : Code) : Handle × Memory Code :=
  match memory.identities.lookup a with
  | some address => (⟨address, false⟩, memory)
  | none => (⟨memory.next, false⟩, ⟨(a, memory.next) :: memory.identities, memory.next + 1⟩)

end Memory

structure Holding (Code : Type) (built : List (Code × Code)) where
  handle : {a b : Code} → Name built a b → Handle
  memory : Memory Code

variable {Carrier : Code → Type} {built : List (Code × Code)} {a b c : Code}

def Step.hold [DecidableEq Code] (shelf : Shelf Carrier built) (past : Holding Code built) :
    Step Carrier built a b → Handle × Memory Code
  | .new _ => past.memory.allocate
  | .functions? _ _ => past.memory.allocate
  | .functions _ _ => past.memory.allocate
  | .textual _ _ => past.memory.allocate
  | .identity a => past.memory.identity a
  | .clone name => (past.handle name, past.memory)
  | .reverse name => (⟨(past.handle name).address, !(past.handle name).turned⟩, past.memory)
  | .andThen first second =>
    if (shelf.get first).isIdentity then (past.handle second, past.memory)
    else if (shelf.get second).isIdentity then (past.handle first, past.memory)
    else past.memory.allocate

def Program.holding [DecidableEq Code] [(code : Code) → Textual (Carrier code)] (supply : Nat) :
    {built : List (Code × Code)} → Program Carrier built → Holding Code built
  | _, .start => ⟨nofun, .empty⟩
  | _, .next before step =>
    let past := before.holding supply
    let held := step.hold (before.run supply).1 past
    ⟨fun | .last => held.1 | .earlier name => past.handle name, held.2⟩

def Held (origin : Nat → Origin Code) (memory : Memory Code) (handle : Handle) (lineage : Lineage Code) : Prop :=
  handle.address < memory.next ∧ lineage = ⟨origin handle.address, handle.turned⟩

section

variable {origin : Nat → Origin Code} {memory : Memory Code} {length : Nat}

theorem Held.grow {later : Nat → Origin Code} {grown : Memory Code} {handle : Handle} {lineage : Lineage Code}
    (held : Held origin memory handle lineage) (more : memory.next ≤ grown.next)
    (kept : ∀ address < memory.next, later address = origin address) : Held later grown handle lineage := by
  obtain ⟨allocated, stems⟩ := held
  refine ⟨Nat.lt_of_lt_of_le allocated more, ?_⟩
  rw [stems, kept handle.address allocated]

theorem allocated_update_iff (next : Nat) (stem wanted : Origin Code) (address : Nat) :
    address < next + 1 ∧ Function.update origin next stem address = wanted ↔
      (address = next ∧ stem = wanted) ∨ (address < next ∧ origin address = wanted) := by
  by_cases new : address = next
  · subst new
    simp
  · have old : address < next + 1 ↔ address < next := by omega
    simp [new, old]

variable [DecidableEq Code]

-- Each address stands for one origin, and the table has the identities that were allocated.
structure Charted (origin : Nat → Origin Code) (memory : Memory Code) (length : Nat) : Prop where
  past : ∀ address place, address < memory.next ∧ origin address = .call place → place < length
  distinct : Set.InjOn origin (Set.Ico 0 memory.next)
  identity : ∀ a address, memory.identities.lookup a = some address ↔
    address < memory.next ∧ origin address = .identity a

theorem Charted.idle (charted : Charted origin memory length) : Charted origin memory (length + 1) where
  past address place called := Nat.lt_succ_of_lt (charted.past address place called)
  distinct := charted.distinct
  identity := charted.identity

theorem Charted.allocate (charted : Charted origin memory length) :
    Charted (Function.update origin memory.next (.call length)) memory.allocate.2 (length + 1) where
  past address place called := by
    rcases (allocated_update_iff ..).mp called with ⟨-, new⟩ | old
    · obtain rfl := Origin.call.inj new
      exact Nat.lt_succ_self length
    · exact Nat.lt_succ_of_lt (charted.past address place old)
  distinct := by
    refine inj_on_update charted.distinct ?_
    intro address allocated called
    exact Nat.lt_irrefl length (charted.past address length ⟨allocated.2, called⟩)
  identity a address := by
    have apart : Origin.call length ≠ .identity a := nofun
    rw [Memory.allocate, charted.identity, allocated_update_iff]
    simp [apart]

theorem Charted.identity_new (charted : Charted origin memory length) {a : Code}
    (unseen : memory.identities.lookup a = none) :
    Charted (Function.update origin memory.next (.identity a))
      ⟨(a, memory.next) :: memory.identities, memory.next + 1⟩ (length + 1) where
  past address place called := by
    rcases (allocated_update_iff ..).mp called with ⟨-, new⟩ | old
    · cases new
    · exact Nat.lt_succ_of_lt (charted.past address place old)
  distinct := by
    refine inj_on_update charted.distinct ?_
    intro address allocated stems
    have found := (charted.identity a address).mpr ⟨allocated.2, stems⟩
    rw [unseen] at found
    cases found
  identity c address := by
    rw [allocated_update_iff, ← charted.identity, List.lookup_cons]
    by_cases same : c = a
    · subst same
      simp [unseen, eq_comm]
    · have apart : Origin.identity a ≠ .identity c := fun equal => same (Origin.identity.inj equal).symm
      have other : (c == a) = false := beq_false_of_ne same
      simp [other, apart]

def Continues (origin : Nat → Origin Code) (memory : Memory Code) (length : Nat) (given : Handle × Memory Code)
    (lineage : Lineage Code) : Prop :=
  ∃ later : Nat → Origin Code, (∀ address < memory.next, later address = origin address) ∧
    memory.next ≤ given.2.next ∧ Charted later given.2 (length + 1) ∧ Held later given.2 given.1 lineage

theorem continues_old (charted : Charted origin memory length) {handle : Handle} {lineage : Lineage Code}
    (held : Held origin memory handle lineage) : Continues origin memory length (handle, memory) lineage :=
  ⟨origin, fun _ _ => rfl, Nat.le_refl _, charted.idle, held⟩

theorem continues_new {stem : Origin Code} {grown : Memory Code} (grows : grown.next = memory.next + 1)
    (charted : Charted (Function.update origin memory.next stem) grown (length + 1)) :
    Continues origin memory length (⟨memory.next, false⟩, grown) ⟨stem, false⟩ := by
  have kept : ∀ address < memory.next, Function.update origin memory.next stem address = origin address :=
    fun address old => Function.update_of_ne (Nat.ne_of_lt old) _ _
  have more : memory.next < grown.next := by omega
  refine ⟨_, kept, Nat.le_of_lt more, charted, more, ?_⟩
  rw [Function.update_self]

theorem continues_allocated (charted : Charted origin memory length) :
    Continues origin memory length memory.allocate ⟨.call length, false⟩ := continues_new rfl charted.allocate

theorem continues_identity (charted : Charted origin memory length) (a : Code) :
    Continues origin memory length (memory.identity a) ⟨.identity a, false⟩ := by
  unfold Memory.identity
  cases found : memory.identities.lookup a with
  | some address =>
    obtain ⟨allocated, stems⟩ := (charted.identity a address).mp found
    refine continues_old charted ⟨allocated, ?_⟩
    rw [stems]
  | none => exact continues_new rfl (charted.identity_new found)

theorem hold_continues (step : Step Carrier built a b) {shelf : Shelf Carrier built} {past : Holding Code built}
    {lineage : {a b : Code} → Name built a b → Lineage Code} (charted : Charted origin past.memory length)
    (held : ∀ {a b : Code} (name : Name built a b), Held origin past.memory (past.handle name) (lineage name))
    (stems : ∀ {a b : Code} (name : Name built a b),
      (shelf.get name).isIdentity = true ↔ ∃ c, (lineage name).origin = .identity c) :
    Continues origin past.memory length (step.hold shelf past) (step.lineage length lineage) := by
  cases step with
  | new | functions? | functions | textual => exact continues_allocated charted
  | identity a => exact continues_identity charted a
  | clone name => exact continues_old charted (held name)
  | reverse name =>
    obtain ⟨allocated, from_origin⟩ := held name
    refine continues_old charted ⟨allocated, ?_⟩
    simp only [Step.lineage, from_origin]
  | andThen first second =>
    simp only [Step.hold, Step.lineage, Lineage.joined]
    cases leftOut : (shelf.get first).isIdentity with
    | true =>
      obtain ⟨c, left⟩ := (stems first).mp leftOut
      rw [if_pos rfl, left]
      exact continues_old charted (held second)
    | false =>
      obtain ⟨place, left⟩ := Origin.call_of_not_identity (mt (stems first).mpr (Bool.eq_false_iff.mp leftOut))
      rw [if_neg Bool.false_ne_true, left]
      cases rightOut : (shelf.get second).isIdentity with
      | true =>
        obtain ⟨c, right⟩ := (stems second).mp rightOut
        rw [if_pos rfl, right]
        exact continues_old charted (held first)
      | false =>
        obtain ⟨place', right⟩ := Origin.call_of_not_identity (mt (stems second).mpr (Bool.eq_false_iff.mp rightOut))
        rw [if_neg Bool.false_ne_true, right]
        exact continues_allocated charted

variable [(code : Code) → Textual (Carrier code)]

theorem holding_charted (program : Program Carrier built) (supply : Nat) :
    ∃ origin : Nat → Origin Code, Charted origin (program.holding supply).memory built.length ∧
      ∀ {a b : Code} (name : Name built a b),
        Held origin (program.holding supply).memory ((program.holding supply).handle name) (program.lineage name) := by
  induction program with
  | start =>
    have none : ∀ address, address ∉ Set.Ico 0 0 := fun address given => Nat.not_lt_zero address given.2
    refine ⟨fun _ => .call 0, ⟨?_, ?_, ?_⟩, nofun⟩
    · exact fun address _ called => absurd called.1 (Nat.not_lt_zero address)
    · exact fun address given => absurd given (none address)
    · exact fun a address => iff_of_false nofun fun found => Nat.not_lt_zero address found.1
  | next before step ih =>
    obtain ⟨origin, charted, held⟩ := ih
    obtain ⟨later, kept, more, stillCharted, new⟩ :=
      hold_continues step charted held fun name => is_identity_iff_lineage before supply name
    refine ⟨later, stillCharted, ?_⟩
    intro a b name
    cases name with
    | last => exact new
    | earlier name => exact (held name).grow more kept

theorem handle_eq_iff_lineage (program : Program Carrier built) (supply : Nat) (x y : Name built a b) :
    (program.holding supply).handle x = (program.holding supply).handle y ↔ program.lineage x = program.lineage y := by
  obtain ⟨origin, charted, held⟩ := holding_charted program supply
  obtain ⟨allocated, stems⟩ := held x
  obtain ⟨allocated', stems'⟩ := held y
  rw [stems, stems', Handle.mk.injEq, Lineage.mk.injEq]
  refine and_congr_left' ?_
  exact (charted.distinct.eq_iff ⟨Nat.zero_le _, allocated⟩ ⟨Nat.zero_le _, allocated'⟩).symm

theorem same_as_iff_handle (program : Program Carrier built) (supply : Nat) (x y : Name built a b) :
    (program.bridge supply x).sameAs (program.bridge supply y) = true ↔
      (program.holding supply).handle x = (program.holding supply).handle y := by
  rw [same_as_iff_lineage, handle_eq_iff_lineage]

theorem sameness_is_lineage (program : Program Carrier built) (supply : Nat) :
    (∀ {a b : Code} (x y : Name built a b),
      (program.bridge supply x).sameAs (program.bridge supply y) = true ↔ program.lineage x = program.lineage y) ∧
    (∀ {a b : Code} (x y : Name built a b), (program.bridge supply x).sameAs (program.bridge supply y) = true ↔
      (program.holding supply).handle x = (program.holding supply).handle y) ∧
    (∀ {a b : Code} (x : Name built a b),
      (program.bridge supply x).isIdentity = true ↔ ∃ c, (program.lineage x).origin = .identity c) ∧
    (∀ {a b : Code} (x : Name built a b),
      (program.bridge supply x).reverse.reverse.sameAs (program.bridge supply x) = true) ∧
    (∀ {a : Code} (x : Name built a a),
      ((program.next (.identity a)).bridge supply .last).sameAs
        ((program.next (.identity a)).bridge supply (.earlier x)) = true ↔
          program.lineage x = ⟨.identity a, false⟩) ∧
    (∀ {a b c : Code} (x : Name built a b) (y : Name built b c) (z : Name built a c),
      (program.bridge supply x).isIdentity = false → (program.bridge supply y).isIdentity = false →
        ((program.next (.andThen x y)).bridge supply .last).sameAs
          ((program.next (.andThen x y)).bridge supply (.earlier z)) = false) := by
  refine ⟨same_as_iff_lineage program supply, same_as_iff_handle program supply,
    is_identity_iff_lineage program supply, ?_, ?_, ?_⟩
  · intro a b x
    rw [reverse_reverse]
    exact (same_as_iff_lineage program supply x x).mpr rfl
  · intro a x
    rw [same_as_iff_lineage]
    exact eq_comm
  · intro a b c x y z left right
    exact joined_apart program supply x y z left right

end

theorem turned_text_joined_to_identity :
    let text : Program (fun _ : Unit => String) [((), ())] := Program.start.next (.textual () rfl)
    let turned := text.next (.reverse .last)
    let joined := (turned.next (.identity ())).next (.andThen .last (.earlier .last))
    (joined.bridge 7 .last).sameAs (joined.bridge 7 (.earlier (.earlier .last))) = true ∧
      (joined.bridge 7 .last).sameAs (joined.bridge 7 (.earlier (.earlier (.earlier .last)))) = false := by
  intro text turned joined
  have sameness : ∀ x y : Name _ () (), (joined.bridge 7 x).sameAs (joined.bridge 7 y) = true ↔
      joined.lineage x = joined.lineage y := fun x y => (sameness_is_lineage joined 7).1 x y
  refine ⟨(sameness _ _).mpr rfl, ?_⟩
  rw [← Bool.not_eq_true, sameness]
  exact fun same => nomatch congrArg Lineage.turned same

end Recast.Bridge
