import Recast.Error
import Recast.Proofs.Traversal
set_option autoImplicit false

/-!
The parts of a value at every depth, and functions that go through all of them. Such a function fails with
the first part that is at fault, in arrays by position and in maps by key.
-/

namespace Recast.Value

inductive Frame where
  | array (length : Nat)
  | map (keys : List String)
deriving DecidableEq

def frame? : Value → Option Frame
  | .array items => some (.array items.length)
  | .map entries => some (.map (entries.map Prod.fst))
  | _ => none

def children : Value → List Value
  | .array items => items
  | .map entries => entries.map Prod.snd
  | _ => []

def Frame.fill : Frame → List Value → Value
  | .array _, items => .array items
  | .map keys, items => .map (keys.zip items)

inductive IsPart : Value → Value → Prop where
  | self (value : Value) : IsPart value value
  | inner {part child value : Value} (inside : child ∈ value.children) (deeper : IsPart part child) :
    IsPart part value

def IsKeyed (value : Value) : Prop :=
  ∀ entries, (Value.map entries).IsPart value → Keyed.Ordered entries

inductive SameFrames : Value → Value → Prop where
  | intro {value other : Value} (here : other.frame? = value.frame?)
      (below : List.Forall₂ SameFrames value.children other.children) : SameFrames value other

inductive FirstFault {ε : Type} (fault? : Value → Option ε) : Value → Value → ε → Prop where
  | self {part : Value} {fault : ε} (found : fault? part = some fault) : FirstFault fault? part part fault
  | item {before after : List Value} {item part : Value} {fault : ε}
      (earlier : ∀ item ∈ before, ∀ part, part.IsPart item → fault? part = none)
      (inside : FirstFault fault? item part fault) : FirstFault fault? (.array (before ++ item :: after)) part fault
  | entry {entries : List (String × Value)} {key : String} {item part : Value} {fault : ε}
      (present : (key, item) ∈ entries)
      (earlier : ∀ entry ∈ entries, entry.1 < key → ∀ part, part.IsPart entry.2 → fault? part = none)
      (inside : FirstFault fault? item part fault) : FirstFault fault? (.map entries) part fault

-- Induction on a value, over its children.
mutual
theorem of_children {motive : Value → Prop}
    (step : ∀ value, (∀ child ∈ value.children, motive child) → motive value) (value : Value) : motive value := by
  apply step
  cases value with
  | array items => exact of_items step items
  | map entries => exact of_entries step entries
  | _ => exact fun _ inside => nomatch inside
theorem of_items {motive : Value → Prop}
    (step : ∀ value, (∀ child ∈ value.children, motive child) → motive value) (items : List Value) :
    ∀ child ∈ items, motive child := by
  cases items with
  | nil => exact fun _ inside => nomatch inside
  | cons item rest => exact List.forall_mem_cons.mpr ⟨of_children step item, of_items step rest⟩
theorem of_entries {motive : Value → Prop}
    (step : ∀ value, (∀ child ∈ value.children, motive child) → motive value) (entries : List (String × Value)) :
    ∀ child ∈ entries.map Prod.snd, motive child := by
  cases entries with
  | nil => exact fun _ inside => nomatch inside
  | cons entry rest => exact List.forall_mem_cons.mpr ⟨of_children step entry.2, of_entries step rest⟩
end

theorem children_of_leaf {value : Value} (leaf : value.frame? = none) : value.children = [] := by
  cases value with
  | array items => cases leaf
  | map entries => cases leaf
  | _ => rfl

theorem fill_children {value : Value} {frame : Frame} (framed : value.frame? = some frame) :
    frame.fill value.children = value := by
  cases value with
  | array items =>
    cases framed
    rfl
  | map entries =>
    cases framed
    simp only [Frame.fill, children, List.zip_map', List.map_id']
  | _ => cases framed

theorem fill_frame {value : Value} {frame : Frame} (framed : value.frame? = some frame) {others : List Value}
    (length : others.length = value.children.length) :
    (frame.fill others).frame? = some frame ∧ (frame.fill others).children = others := by
  cases value with
  | array items =>
    cases framed
    exact ⟨congrArg (fun length => some (Frame.array length)) length, rfl⟩
  | map entries =>
    cases framed
    simp only [children, List.length_map] at length
    constructor
    · rw [Frame.fill, frame?, List.map_fst_zip (by simp [length])]
    · rw [Frame.fill, children, List.map_snd_zip (by simp [length])]
  | _ => cases framed

theorem forall_part_iff {property : Value → Prop} {value : Value} :
    (∀ part, part.IsPart value → property part) ↔
      property value ∧ ∀ child ∈ value.children, ∀ part, part.IsPart child → property part := by
  constructor
  · intro all
    exact ⟨all value (.self value), fun child inside part deeper => all part (.inner inside deeper)⟩
  · rintro ⟨here, below⟩ part within
    cases within with
    | self => exact here
    | inner inside deeper => exact below _ inside part deeper

theorem keyed_of_children {value : Value} (here : ∀ entries, value = .map entries → Keyed.Ordered entries)
    (below : ∀ child ∈ value.children, child.IsKeyed) : value.IsKeyed := by
  intro entries within
  generalize same : Value.map entries = part at within
  cases within with
  | self => exact here entries same.symm
  | inner inside deeper => exact below _ inside entries (same ▸ deeper)

theorem IsKeyed.child {value child : Value} (keyed : value.IsKeyed) (inside : child ∈ value.children) :
    child.IsKeyed :=
  fun entries deeper => keyed entries (.inner inside deeper)

section

variable {ε : Type} {fault? : Value → Option ε} {value part : Value} {fault : ε}

theorem first_fault_leaf_iff (leaf : value.frame? = none) :
    FirstFault fault? value part fault ↔ part = value ∧ fault? value = some fault := by
  constructor
  · intro first
    cases first with
    | self found => exact ⟨rfl, found⟩
    | item => cases leaf
    | entry => cases leaf
  · rintro ⟨rfl, found⟩
    exact .self found

theorem under_smaller_key_iff {before after : List (String × Value)} {key : String} {item : Value}
    (ordered : Keyed.Ordered (before ++ (key, item) :: after)) (entry : String × Value) :
    entry ∈ before ++ (key, item) :: after ∧ entry.1 < key ↔ entry ∈ before := by
  obtain ⟨-, later, across⟩ := List.pairwise_append.mp ordered
  constructor
  · rintro ⟨present, smaller⟩
    rcases List.mem_append.mp present with early | late
    · exact early
    · rcases List.mem_cons.mp late with rfl | last
      · exact absurd smaller (String.lt_irrefl _)
      · exact absurd smaller (String.lt_asymm (List.rel_of_pairwise_cons later last))
  · intro early
    exact ⟨List.mem_append_left _ early, across entry early _ List.mem_cons_self⟩

theorem first_fault_inner_iff (keyed : value.IsKeyed) (sound : fault? value = none) :
    FirstFault fault? value part fault ↔
      ∃ before child after, value.children = before ++ child :: after ∧
        (∀ earlier ∈ before, ∀ part, part.IsPart earlier → fault? part = none) ∧
        FirstFault fault? child part fault := by
  constructor
  · intro first
    cases first with
    | self found => simp [sound] at found
    | item earlier inside => exact ⟨_, _, _, rfl, earlier, inside⟩
    | @entry entries key item _ _ present earlier inside =>
      obtain ⟨before, after, rfl⟩ := List.append_of_mem present
      have smaller := under_smaller_key_iff (keyed _ (.self _))
      refine ⟨before.map Prod.snd, item, after.map Prod.snd, by simp [children], ?_, inside⟩
      rw [List.forall_mem_map]
      intro entry early
      obtain ⟨present, under⟩ := (smaller entry).mpr early
      exact earlier entry present under
  · rintro ⟨before, child, after, split, earlier, inside⟩
    cases value with
    | array items =>
      obtain rfl : items = before ++ child :: after := split
      exact .item earlier inside
    | map entries =>
      obtain ⟨first, rest, rfl, rfl, below⟩ := List.map_eq_append_iff.mp split
      obtain ⟨⟨key, item⟩, last, rfl, rfl, rfl⟩ := List.map_eq_cons_iff.mp below
      have smaller := under_smaller_key_iff (keyed _ (.self _))
      refine .entry (List.mem_append_cons_self) ?_ inside
      intro entry present under
      exact earlier entry.2 (List.mem_map_of_mem ((smaller entry).mp ⟨present, under⟩))
    | _ => simp [children] at split

end

-- Goes through the children of a value and builds from what becomes of them. Nothing but a leaf is at fault by
-- itself, and the fault is reported about that leaf.
structure Walks {β ε : Type} (walk : Value → Except Error β) (build : Frame → List β → β)
    (fault? : Value → Option ε) (report : Value → ε → Error) : Prop where
  inner : ∀ value frame, value.frame? = some frame →
    walk value = (value.children.mapM walk).map (build frame) ∧ fault? value = none
  leaf : ∀ value, value.frame? = none → ∀ error,
    walk value = .error error ↔ ∃ fault, fault? value = some fault ∧ report value fault = error

namespace Walks

variable {β ε : Type} {walk : Value → Except Error β} {build : Frame → List β → β} {fault? : Value → Option ε}
  {report : Value → ε → Error} (walks : Walks walk build fault? report)

include walks

theorem inner_ok_iff {value : Value} {frame : Frame} (framed : value.frame? = some frame) {out : β} :
    walk value = .ok out ↔
      ∃ outs, List.Forall₂ (fun child out => walk child = .ok out) value.children outs ∧ build frame outs = out := by
  rw [(walks.inner value frame framed).1, Traversal.map_ok_iff]
  exact exists_congr fun outs => and_congr_left' (Traversal.mapM_ok_iff ..)

theorem leaf_ok_iff {value : Value} (leaf : value.frame? = none) :
    (∃ out, walk value = .ok out) ↔ fault? value = none := by
  have failed := walks.leaf value leaf
  cases found : fault? value with
  | none =>
    refine iff_of_true ?_ rfl
    cases outcome : walk value with
    | ok out => exact ⟨out, rfl⟩
    | error error =>
      obtain ⟨fault, other, -⟩ := (failed error).mp outcome
      cases found.symm.trans other
  | some fault =>
    refine iff_of_false ?_ nofun
    rintro ⟨out, passed⟩
    cases passed.symm.trans ((failed _).mpr ⟨fault, found, rfl⟩)

theorem ok_iff (value : Value) :
    (∃ out, walk value = .ok out) ↔ ∀ part, part.IsPart value → fault? part = none := by
  induction value using of_children with
  | step value ih =>
    rw [forall_part_iff]
    cases framed : value.frame? with
    | none => simp only [walks.leaf_ok_iff framed, children_of_leaf framed, List.not_mem_nil, false_implies,
        implies_true, and_true]
    | some frame =>
      simp only [walks.inner_ok_iff framed]
      rw [and_iff_right (walks.inner value frame framed).2, ← forall₂_congr ih, ← Traversal.forall₂_exists_iff]
      exact ⟨fun ⟨_, outs, passed, _⟩ => ⟨outs, passed⟩, fun ⟨outs, passed⟩ => ⟨_, outs, passed, rfl⟩⟩

theorem all_ok_iff (values : List Value) :
    (∃ outs, values.mapM walk = .ok outs) ↔ ∀ value ∈ values, ∀ part, part.IsPart value → fault? part = none := by
  simp only [Traversal.mapM_ok_iff, Traversal.forall₂_exists_iff, walks.ok_iff]

theorem error_reported {value : Value} {error : Error} (failed : walk value = .error error) :
    ∃ part fault, part.IsPart value ∧ fault? part = some fault ∧ report part fault = error := by
  induction value using of_children with
  | step value ih =>
    cases framed : value.frame? with
    | none =>
      obtain ⟨fault, found, same⟩ := (walks.leaf value framed error).mp failed
      exact ⟨value, fault, .self value, found, same⟩
    | some frame =>
      rw [(walks.inner value frame framed).1, Traversal.map_error_iff, Traversal.mapM_error_iff] at failed
      obtain ⟨before, child, after, -, split, -, failed⟩ := failed
      have inside : child ∈ value.children := split ▸ List.mem_append_cons_self
      obtain ⟨part, fault, deeper, found, same⟩ := ih child inside failed
      exact ⟨part, fault, .inner inside deeper, found, same⟩

theorem error_iff {value : Value} (keyed : value.IsKeyed) (error : Error) :
    walk value = .error error ↔ ∃ part fault, FirstFault fault? value part fault ∧ report part fault = error := by
  induction value using of_children with
  | step value ih =>
    cases framed : value.frame? with
    | none =>
      simp only [walks.leaf value framed, first_fault_leaf_iff framed]
      exact ⟨fun ⟨fault, found, same⟩ => ⟨value, fault, ⟨rfl, found⟩, same⟩,
        fun ⟨_, fault, ⟨here, found⟩, same⟩ => ⟨fault, found, here ▸ same⟩⟩
    | some frame =>
      obtain ⟨through, sound⟩ := walks.inner value frame framed
      rw [through, Traversal.map_error_iff, Traversal.mapM_error_iff]
      simp only [first_fault_inner_iff keyed sound]
      constructor
      · rintro ⟨before, child, after, outs, split, passed, failed⟩
        have inside : child ∈ value.children := split ▸ List.mem_append_cons_self
        obtain ⟨part, fault, first, same⟩ := (ih child inside (keyed.child inside)).mp failed
        exact ⟨part, fault, ⟨before, child, after, split, (walks.all_ok_iff before).mp ⟨outs, passed⟩, first⟩, same⟩
      · rintro ⟨part, fault, ⟨before, child, after, split, earlier, first⟩, same⟩
        have inside : child ∈ value.children := split ▸ List.mem_append_cons_self
        obtain ⟨outs, passed⟩ := (walks.all_ok_iff before).mpr earlier
        exact ⟨before, child, after, outs, split, passed,
          (ih child inside (keyed.child inside)).mpr ⟨part, fault, first, same⟩⟩

end Walks

end Recast.Value
