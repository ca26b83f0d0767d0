import Recast.Descriptor
import Recast.Proofs.Text.Pieces
set_option autoImplicit false

/-!
The text of a descriptor belongs to no other. Its parts are told apart by the marks around them and between them, so no
name may have such a mark in it, nor be empty.
-/

namespace Recast.Descriptor

def marks : List Char := ['[', ']', '<', '>', ',']

def IsPlainName (name : String) : Prop := name ≠ "" ∧ ∀ c ∈ name.toList, c ∉ marks

instance (name : String) : Decidable (IsPlainName name) := inferInstanceAs (Decidable (_ ∧ _))

mutual
def names : Descriptor → List String
  | .concrete name => [name]
  | .arrayOf element => element.names
  | .parameterized base arguments => base :: namesOfAll arguments
def namesOfAll : List Descriptor → List String
  | [] => []
  | descriptor :: rest => descriptor.names ++ namesOfAll rest
end

def Closes (rest : List Char) : Prop := ∀ c ∈ rest.head?, c = ']' ∨ c = '>' ∨ c = ','

theorem Closes.is_mark {rest : List Char} (closes : Closes rest) : ∀ c ∈ rest.head?, c ∈ marks := by
  intro c first
  rcases closes c first with rfl | rfl | rfl <;> decide

def behindFirst : List Descriptor → List Char
  | [] => []
  | next :: rest => ',' :: ' ' :: listToChars (next :: rest)

theorem list_to_chars_cons (descriptor : Descriptor) (rest : List Descriptor) :
    listToChars (descriptor :: rest) = descriptor.toChars ++ behindFirst rest := by
  cases rest with
  | nil => simp [listToChars, behindFirst]
  | cons next others => rfl

theorem behind_first_closes (arguments : List Descriptor) (rest : List Char) :
    Closes (behindFirst arguments ++ '>' :: rest) := by
  cases arguments <;> simp [behindFirst, Closes]

theorem behind_first_apart {xs ys : List Descriptor} {rest others : List Char}
    (same : behindFirst xs ++ '>' :: rest = behindFirst ys ++ '>' :: others) :
    listToChars xs ++ '>' :: rest = listToChars ys ++ '>' :: others := by
  cases xs with
  | nil =>
    cases ys with
    | nil => exact same
    | cons y ys => simp [behindFirst] at same
  | cons x xs =>
    cases ys with
    | nil => simp [behindFirst] at same
    | cons y ys => simpa [behindFirst] using same

section

variable {name other : String} (plain : IsPlainName name)

include plain

theorem name_run {rest : List Char} (stop : ∀ c ∈ rest.head?, c ∈ marks) :
    (name.toList ++ rest).takeWhile (fun c => c ∉ marks) = name.toList ∧
      (name.toList ++ rest).dropWhile (fun c => c ∉ marks) = rest :=
  Text.run_cut (fun c present => decide_eq_true (plain.2 c present)) fun c first => by simpa using stop c first

theorem names_apart (otherPlain : IsPlainName other) {rest others : List Char} (stop : ∀ c ∈ rest.head?, c ∈ marks)
    (otherStop : ∀ c ∈ others.head?, c ∈ marks) (same : name.toList ++ rest = other.toList ++ others) :
    name = other ∧ rest = others := by
  obtain ⟨taken, dropped⟩ := name_run plain stop
  obtain ⟨otherTaken, otherDropped⟩ := name_run otherPlain otherStop
  rw [same] at taken dropped
  exact ⟨String.toList_inj.mp (taken.symm.trans otherTaken), dropped.symm.trans otherDropped⟩

theorem name_before_mark {mark : Char} (isMark : mark ∈ marks) (rest others : List Char) :
    name.toList ++ rest ≠ mark :: others := by
  cases letters : name.toList with
  | nil => exact absurd (String.toList_eq_nil_iff.mp letters) plain.1
  | cons c after =>
    intro same
    have present : c ∈ name.toList := letters ▸ List.mem_cons_self
    exact plain.2 c present ((List.cons.inj same).1 ▸ isMark)

end

theorem to_chars_before_closing {descriptor : Descriptor} (plain : ∀ name ∈ descriptor.names, IsPlainName name)
    (rest others : List Char) : descriptor.toChars ++ rest ≠ '>' :: others := by
  cases descriptor with
  | concrete name => exact name_before_mark (plain name (by simp [names])) (by decide) rest others
  | arrayOf element => simp [toChars]
  | parameterized base arguments =>
    rw [toChars, List.append_assoc]
    exact name_before_mark (plain base (by simp [names])) (by decide) _ others

-- Whatever follows, the text ends where the descriptor does: induction on both, over what they are made of.
mutual
theorem to_chars_apart (a b : Descriptor) (plain : ∀ name ∈ a.names, IsPlainName name)
    (otherPlain : ∀ name ∈ b.names, IsPlainName name) (rest others : List Char) (closes : Closes rest)
    (otherCloses : Closes others) (same : a.toChars ++ rest = b.toChars ++ others) : a = b ∧ rest = others := by
  cases a with
  | concrete name =>
    have named : IsPlainName name := plain name (by simp [names])
    cases b with
    | concrete other =>
      have otherNamed : IsPlainName other := otherPlain other (by simp [names])
      obtain ⟨rfl, ends⟩ := names_apart named otherNamed closes.is_mark otherCloses.is_mark same
      exact ⟨rfl, ends⟩
    | arrayOf element => exact absurd same (name_before_mark named (by decide) _ _)
    | parameterized base arguments =>
      have based : IsPlainName base := otherPlain base (by simp [names])
      rw [toChars, toChars, List.append_assoc] at same
      obtain ⟨-, rfl⟩ := names_apart named based closes.is_mark (by simp [marks]) same
      simp [Closes] at closes
  | arrayOf element =>
    cases b with
    | concrete other =>
      have otherNamed : IsPlainName other := otherPlain other (by simp [names])
      exact absurd same.symm (name_before_mark otherNamed (by decide) _ _)
    | arrayOf other =>
      simp only [toChars, List.cons_append, List.append_assoc, List.nil_append, List.cons.injEq, true_and] at same
      obtain ⟨rfl, ends⟩ := to_chars_apart element other plain otherPlain _ _ (by simp [Closes]) (by simp [Closes]) same
      exact ⟨rfl, (List.cons.inj ends).2⟩
    | parameterized base arguments =>
      have based : IsPlainName base := otherPlain base (by simp [names])
      rw [toChars, toChars, List.append_assoc] at same
      exact absurd same.symm (name_before_mark based (by decide) _ _)
  | parameterized base arguments =>
    have based : IsPlainName base := plain base (by simp [names])
    cases b with
    | concrete other =>
      have otherNamed : IsPlainName other := otherPlain other (by simp [names])
      rw [toChars, toChars, List.append_assoc] at same
      obtain ⟨-, rfl⟩ := names_apart based otherNamed (by simp [marks]) otherCloses.is_mark same
      simp [Closes] at otherCloses
    | arrayOf element =>
      rw [toChars, toChars, List.append_assoc] at same
      exact absurd same (name_before_mark based (by decide) _ _)
    | parameterized other given =>
      have otherBased : IsPlainName other := otherPlain other (by simp [names])
      simp only [toChars, List.append_assoc, List.cons_append, List.nil_append] at same
      obtain ⟨rfl, inside⟩ := names_apart based otherBased (by simp [marks]) (by simp [marks]) same
      obtain ⟨rfl, ends⟩ := list_to_chars_apart arguments given (List.forall_mem_cons.mp plain).2
        (List.forall_mem_cons.mp otherPlain).2 rest others (List.cons.inj inside).2
      exact ⟨rfl, ends⟩
theorem list_to_chars_apart (xs ys : List Descriptor) (plain : ∀ name ∈ namesOfAll xs, IsPlainName name)
    (otherPlain : ∀ name ∈ namesOfAll ys, IsPlainName name) (rest others : List Char)
    (same : listToChars xs ++ '>' :: rest = listToChars ys ++ '>' :: others) : xs = ys ∧ rest = others := by
  cases xs with
  | nil =>
    cases ys with
    | nil => exact ⟨rfl, (List.cons.inj same).2⟩
    | cons y ys =>
      rw [list_to_chars_cons, List.append_assoc] at same
      exact absurd same.symm (to_chars_before_closing (List.forall_mem_append.mp otherPlain).1 _ _)
  | cons x xs =>
    obtain ⟨first, later⟩ := List.forall_mem_append.mp plain
    cases ys with
    | nil =>
      rw [list_to_chars_cons, List.append_assoc] at same
      exact absurd same (to_chars_before_closing first _ _)
    | cons y ys =>
      obtain ⟨otherFirst, otherLater⟩ := List.forall_mem_append.mp otherPlain
      simp only [list_to_chars_cons, List.append_assoc] at same
      obtain ⟨rfl, behind⟩ := to_chars_apart x y first otherFirst _ _ (behind_first_closes xs rest)
        (behind_first_closes ys others) same
      obtain ⟨rfl, ends⟩ := list_to_chars_apart xs ys later otherLater rest others (behind_first_apart behind)
      exact ⟨rfl, ends⟩
end

theorem text_unambiguous {a b : Descriptor} (plain : ∀ name ∈ a.names, IsPlainName name)
    (otherPlain : ∀ name ∈ b.names, IsPlainName name) (same : a.text = b.text) : a = b := by
  have chars : a.toChars ++ [] = b.toChars ++ [] := by
    simpa [text] using congrArg String.toList same
  exact (to_chars_apart a b plain otherPlain [] [] (by simp [Closes]) (by simp [Closes]) chars).1

theorem map_of_options_unambiguous :
    let options : Descriptor := .parameterized "Map" [.concrete "a b", optionOf (.arrayOf (.parameterized "Set" []))]
    let others : Descriptor := .parameterized "Map"
      [.concrete "a b", .parameterized "Option" [.arrayOf (.parameterized "Set" [])]]
    (∀ name ∈ options.names, IsPlainName name) ∧ (∀ name ∈ others.names, IsPlainName name) ∧
      options.text = others.text ∧ options = others := by
  intro options others
  have plain : ∀ name ∈ options.names, IsPlainName name := by
    simp [options, optionOf, optionBase, names, namesOfAll, IsPlainName, marks]
  exact ⟨plain, plain, rfl, text_unambiguous plain plain rfl⟩

-- A mark in a name is taken for one that stands around an element.
example : (concrete "[i8]").text = (arrayOf (concrete "i8")).text := rfl

end Recast.Descriptor
