import Recast.Proofs.Text.Paths
set_option autoImplicit false

namespace Recast.Text

structure Identifier where
  chars : List Char
  plain : ∀ c ∈ chars, isTypeMark c = false ∧ c ≠ ':'

-- Arguments stand behind the last identifier of a path. Words before a reference or a function say how long it lasts,
-- whether it may be written to, how it is called.
inductive TypeTree where
  | path (modules : List Identifier) (name : Identifier) (arguments : List TypeTree)
  | tuple (items : List TypeTree)
  | slice (item : TypeTree)
  | array (item : TypeTree) (length : Nat)
  | reference (words : List Identifier) (item : TypeTree)
  | function (words : List Identifier) (inputs : List TypeTree) (result : Option TypeTree)

def pathChars (modules : List Identifier) (name : Identifier) : List Char :=
  modules.flatMap (fun identifier => identifier.chars ++ colons) ++ name.chars

def wordsChars (words : List Identifier) : List Char := words.flatMap fun word => word.chars ++ [' ']

namespace TypeTree

mutual
def toChars : TypeTree → List Char
  | .path modules name [] => pathChars modules name
  | .path modules name (first :: others) => pathChars modules name ++ '<' :: (listToChars (first :: others) ++ ['>'])
  | .tuple [item] => '(' :: (item.toChars ++ [',', ')'])
  | .tuple items => '(' :: (listToChars items ++ [')'])
  | .slice item => '[' :: (item.toChars ++ [']'])
  | .array item length => '[' :: (item.toChars ++ ';' :: ' ' :: (Nat.toDigits 10 length ++ [']']))
  | .reference words item => '&' :: (wordsChars words ++ item.toChars)
  | .function words inputs none => wordsChars words ++ 'f' :: 'n' :: '(' :: (listToChars inputs ++ [')'])
  | .function words inputs (some result) =>
    wordsChars words ++ 'f' :: 'n' :: '(' :: (listToChars inputs ++ ')' :: ' ' :: '-' :: '>' :: ' ' :: result.toChars)
def listToChars : List TypeTree → List Char
  | [] => []
  | [tree] => tree.toChars
  | tree :: next :: rest => tree.toChars ++ ',' :: ' ' :: listToChars (next :: rest)
end

def text (tree : TypeTree) : String := String.ofList tree.toChars

mutual
def unqualified : TypeTree → TypeTree
  | .path _ name arguments => .path [] name (unqualifiedAll arguments)
  | .tuple items => .tuple (unqualifiedAll items)
  | .slice item => .slice item.unqualified
  | .array item length => .array item.unqualified length
  | .reference words item => .reference words item.unqualified
  | .function words inputs none => .function words (unqualifiedAll inputs) none
  | .function words inputs (some result) => .function words (unqualifiedAll inputs) (some result.unqualified)
def unqualifiedAll : List TypeTree → List TypeTree
  | [] => []
  | tree :: rest => tree.unqualified :: unqualifiedAll rest
end

end TypeTree

theorem simple_of_plain {chars : List Char} (plain : ∀ c ∈ chars, c ≠ ':') : ¬ colons <:+: chars :=
  fun present => plain ':' (present.subset List.mem_cons_self) rfl

theorem Identifier.no_colon (identifier : Identifier) : ∀ c ∈ identifier.chars, c ≠ ':' := fun c present =>
  (identifier.plain c present).2

theorem shortened_mark {mark : Char} (isMark : isTypeMark mark = true) (rest : List Char) :
    shortened [] (mark :: rest) = mark :: shortened [] rest :=
  shortened_append_mark isMark [] [] rest

-- What is left of a path behind its first pair of colons has the second of these before it.
theorem last_segment_path (modules : List Identifier) (name : Identifier) :
    lastSegment (pathChars modules name) (':' :: pathChars modules name) = name.chars := by
  induction modules with
  | nil =>
    refine last_segment_simple (fun present => ?_) _
    rcases List.infix_cons_iff.mp present with start | later
    · exact name.no_colon ':' (List.mem_of_head? (colons_at_start_iff.mp start).2) rfl
    · exact simple_of_plain name.no_colon later
  | cons first others ih =>
    have split : ':' :: pathChars (first :: others) name = (':' :: first.chars) ++ colons ++ pathChars others name := by
      simp [pathChars]
    rw [split, last_segment_behind, ih]

theorem path_free (modules : List Identifier) (name : Identifier) :
    ∀ c ∈ pathChars modules name, isTypeMark c = false := by
  refine List.forall_mem_append.mpr ⟨fun c present => ?_, fun c present => (name.plain c present).1⟩
  obtain ⟨identifier, -, inside⟩ := List.mem_flatMap.mp present
  rcases List.mem_append.mp inside with letter | colon
  · exact (identifier.plain c letter).1
  · exact colons_free c colon

theorem shortened_path (modules : List Identifier) (name : Identifier) :
    shortened [] (pathChars modules name) = name.chars := by
  rw [shortened_free (path_free modules name), List.nil_append]
  cases modules with
  | nil => exact last_segment_simple (simple_of_plain name.no_colon) _
  | cons first others =>
    have split : pathChars (first :: others) name = first.chars ++ colons ++ pathChars others name := by simp [pathChars]
    rw [split, last_segment_behind, last_segment_path]

theorem shortened_words (words : List Identifier) (rest : List Char) :
    shortened [] (wordsChars words ++ rest) = wordsChars words ++ shortened [] rest := by
  induction words with
  | nil => rfl
  | cons word others ih =>
    have kept : shortened [] word.chars = word.chars := shortened_simple (simple_of_plain word.no_colon)
    have split : ∀ behind, wordsChars (word :: others) ++ behind = word.chars ++ ' ' :: (wordsChars others ++ behind) := by
      simp [wordsChars]
    rw [split, shortened_append_mark rfl, kept, ih, split]

theorem shortened_digits (n : Nat) : shortened [] (Nat.toDigits 10 n) = Nat.toDigits 10 n := by
  refine shortened_simple (simple_of_plain fun c present => ?_)
  have digit := Nat.isDigit_of_mem_toDigits (by decide) (by decide) present
  rintro rfl
  exact absurd digit (by decide)

theorem shortened_call (rest : List Char) :
    shortened [] ('f' :: 'n' :: '(' :: rest) = 'f' :: 'n' :: '(' :: shortened [] rest :=
  shortened_append_mark rfl [] ['f', 'n'] rest

theorem shortened_arrow (rest : List Char) :
    shortened [] (' ' :: '-' :: '>' :: ' ' :: rest) = ' ' :: '-' :: '>' :: ' ' :: shortened [] rest := by
  have line : shortened [] ('-' :: '>' :: ' ' :: rest) = '-' :: '>' :: shortened [] (' ' :: rest) :=
    shortened_append_mark rfl [] ['-'] (' ' :: rest)
  rw [shortened_mark rfl, line, shortened_mark rfl]

namespace TypeTree

mutual
theorem shortened_to_chars (tree : TypeTree) : shortened [] tree.toChars = tree.unqualified.toChars := by
  cases tree with
  | path modules name arguments =>
    cases arguments with
    | nil => exact shortened_path modules name
    | cons first others =>
      have inside := shortened_list_to_chars (first :: others)
      rw [toChars, shortened_append_mark rfl, shortened_append_mark rfl, shortened_path, inside]
      rfl
  | tuple items =>
    cases items with
    | nil => rfl
    | cons first others =>
      cases others with
      | nil =>
        rw [toChars, shortened_mark rfl, shortened_append_mark rfl, shortened_to_chars first]
        rfl
      | cons second others =>
        have inside := shortened_list_to_chars (first :: second :: others)
        rw [toChars, shortened_mark rfl, shortened_append_mark rfl, inside]
        · rfl
        · simp
  | slice item =>
    rw [toChars, shortened_mark rfl, shortened_append_mark rfl, shortened_to_chars item]
    rfl
  | array item length =>
    rw [toChars, shortened_mark rfl, shortened_append_mark rfl, shortened_mark rfl, shortened_append_mark rfl,
      shortened_digits, shortened_to_chars item]
    rfl
  | reference words item =>
    rw [toChars, shortened_mark rfl, shortened_words, shortened_to_chars item]
    rfl
  | function words inputs result =>
    have inside := shortened_list_to_chars inputs
    cases result with
    | none =>
      rw [toChars, shortened_words, shortened_call, shortened_append_mark rfl, inside]
      rfl
    | some result =>
      have returned : shortened [] (listToChars inputs ++ ')' :: ' ' :: '-' :: '>' :: ' ' :: result.toChars) =
          listToChars (unqualifiedAll inputs) ++ ')' :: ' ' :: '-' :: '>' :: ' ' :: result.unqualified.toChars := by
        rw [shortened_append_mark rfl, inside, shortened_arrow, shortened_to_chars result]
      rw [toChars, shortened_words, shortened_call, returned]
      rfl
theorem shortened_list_to_chars (trees : List TypeTree) :
    shortened [] (listToChars trees) = listToChars (unqualifiedAll trees) := by
  cases trees with
  | nil => rfl
  | cons tree rest =>
    cases rest with
    | nil => exact shortened_to_chars tree
    | cons next others =>
      have behind := shortened_list_to_chars (next :: others)
      rw [listToChars, shortened_append_mark rfl, shortened_mark rfl, shortened_to_chars tree, behind]
      rfl
end

end TypeTree

theorem paths_alone_shortened :
    (∀ name : String, ∃ segments marks parts, Cut name.toList segments marks ∧
      List.Forall₂ IsLastSegment segments parts ∧ Cut (shortTypeName name).toList parts marks) ∧
    (∀ name : String, ¬ colons <:+: (shortTypeName name).toList) ∧
    (∀ name : String, shortTypeName (shortTypeName name) = shortTypeName name) ∧
    (∀ (before after : String) (mark : Char), isTypeMark mark = true →
      shortTypeName (before ++ String.singleton mark ++ after) =
        shortTypeName before ++ String.singleton mark ++ shortTypeName after) ∧
    ∀ tree : TypeTree, shortTypeName tree.text = tree.unqualified.text := by
  have simple (name : String) : ¬ colons <:+: (shortTypeName name).toList := by
    rw [short_type_name_chars]
    exact shortened_has_no_colons _
  refine ⟨fun name => ?cut, simple, fun name => ?again, fun before after mark isMark => ?apart, fun tree => ?tree⟩
  case cut =>
    obtain ⟨segments, marks, cut⟩ := exists_cut name.toList
    refine ⟨segments, marks, _, cut, ?_, (short_type_name_chars name).symm ▸ cut.last_segments⟩
    exact List.forall₂_map_right_iff.mpr (List.forall₂_same.mpr fun segment _ => last_segment_is_last segment)
  case again =>
    rw [← String.toList_inj, short_type_name_chars, shortened_simple (simple name), List.nil_append]
  case apart =>
    rw [← String.toList_inj]
    simp only [String.toList_append, String.toList_singleton, List.append_assoc, List.singleton_append,
      short_type_name_chars, shortened_append_mark isMark]
  case tree =>
    rw [← String.toList_inj, short_type_name_chars, TypeTree.text, TypeTree.text, String.toList_ofList,
      String.toList_ofList, TypeTree.shortened_to_chars]

theorem nested_type_name_shortened :
    let app : Identifier := ⟨['a', 'p', 'p'], by simp [isTypeMark]⟩
    let table : Identifier := ⟨['T', 'a', 'b', 'l', 'e'], by simp [isTypeMark]⟩
    let color : Identifier := ⟨['C', 'o', 'l', 'o', 'r'], by simp [isTypeMark]⟩
    let tree : TypeTree := .function [] [.reference [] (.slice (.path [app] color [])), .tuple []]
      (some (.path [app, app] table [.array (.path [app] color []) 3]))
    isTypeMark ';' = true ∧
      shortTypeName ("[app::é::Color" ++ ";" ++ " 3]") = shortTypeName "[app::é::Color" ++ ";" ++ shortTypeName " 3]" ∧
      tree.text = "fn(&[app::Color], ()) -> app::app::Table<[app::Color; 3]>" ∧
      shortTypeName "fn(&[app::Color], ()) -> app::app::Table<[app::Color; 3]>" =
        "fn(&[Color], ()) -> Table<[Color; 3]>" := by
  intro app table color tree
  obtain ⟨-, -, -, apart, trees⟩ := paths_alone_shortened
  have text : tree.text = "fn(&[app::Color], ()) -> app::app::Table<[app::Color; 3]>" := rfl
  refine ⟨rfl, apart _ _ ';' rfl, text, ?_⟩
  rw [← text, trees tree]
  rfl

end Recast.Text
