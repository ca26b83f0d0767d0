import Recast.Config
set_option autoImplicit false

namespace Recast

namespace Text

theorem run_cut {α : Type} {test : α → Bool} {run rest : List α} (passing : ∀ item ∈ run, test item = true)
    (stop : ∀ item ∈ rest.head?, test item = false) :
    (run ++ rest).takeWhile test = run ∧ (run ++ rest).dropWhile test = rest := by
  rw [List.takeWhile_append_of_pos passing, List.dropWhile_append_of_pos passing]
  cases rest with
  | nil => simp
  | cons item rest =>
    have other : ¬ test item = true := by rw [stop item rfl]; exact Bool.false_ne_true
    rw [List.takeWhile_cons_of_neg other, List.dropWhile_cons_of_neg other, List.append_nil]
    exact ⟨rfl, rfl⟩

section

variable {α : Type} (separator : α)

theorem pieces_eq [DecidableEq α] (items : List α) : pieces separator items = items.splitOn separator := by
  rw [pieces, List.splitOn]
  induction items with
  | nil => rfl
  | cons item rest ih =>
    rw [piecesBy, ih, List.splitOnP_cons_eq_if_modifyHead]
    by_cases cut : item = separator
    · simp [cut]
    · cases below : rest.splitOnP fun other => other == separator with
      | nil => exact absurd below (List.splitOnP_ne_nil _ _)
      | cons first others => simp [cut]

theorem joined_eq (lists : List (List α)) : joined separator lists = [separator].intercalate lists := by
  fun_induction joined separator lists with
  | case1 => rfl
  | case2 piece => simp
  | case3 piece next others ih => simp [ih, List.intercalate_cons_cons]

theorem mem_joined {item : α} {list : List α} {lists : List (List α)} (inside : item ∈ list)
    (present : list ∈ lists) : item ∈ joined separator lists := by
  fun_induction joined separator lists with
  | case1 => cases present
  | case2 piece => simp_all
  | case3 piece next others ih =>
    rcases List.mem_cons.mp present with rfl | later
    · exact List.mem_append_left _ inside
    · exact List.mem_append_right _ (List.mem_cons_of_mem separator (ih later))

end

theorem join_eq (separator : Char) (texts : List String) :
    join separator texts = (String.singleton separator).intercalate texts := by
  rw [← String.toList_inj, String.toList_intercalate]
  simp [join, joined_eq]

theorem split_join {separator : Char} {texts : List String} (nonempty : texts ≠ [])
    (apart : ∀ text ∈ texts, separator ∉ text.toList) : split separator (join separator texts) = texts := by
  have cut : ([separator].intercalate (texts.map String.toList)).splitOn separator = texts.map String.toList :=
    List.splitOn_intercalate separator (by simpa using apart) (by simpa using nonempty)
  simp [split, join, pieces_eq, joined_eq, cut]

theorem join_split (separator : Char) (text : String) : join separator (split separator text) = text := by
  simp [split, join, pieces_eq, joined_eq, Function.comp_def, List.intercalate_splitOn]

theorem is_blank_false_iff (text : String) : isBlank text = false ↔ ∃ c ∈ text.toList, isBlankChar c = false := by
  simp [isBlank]

theorem join_not_blank (separator : Char) {text : String} {texts : List String} (present : text ∈ texts)
    (visible : isBlank text = false) : isBlank (join separator texts) = false := by
  obtain ⟨c, inside, solid⟩ := (is_blank_false_iff text).mp visible
  refine (is_blank_false_iff _).mpr ⟨c, ?_, solid⟩
  rw [join, String.toList_ofList]
  exact mem_joined separator inside (List.mem_map_of_mem present)

def IsSolid (text : String) : Prop := ∀ c ∈ text.toList, isBlankChar c = false

instance (text : String) : Decidable (IsSolid text) := List.decidableBAll _ _

theorem trim_start_solid {chars : List Char} (solid : ∀ c ∈ chars, isBlankChar c = false) :
    trimStart chars = chars := by
  cases chars with
  | nil => rfl
  | cons c rest =>
    have first := solid c List.mem_cons_self
    simp [trimStart, first]

theorem IsSolid.trim {text : String} (solid : IsSolid text) : trim text = text := by
  have back : trimStart text.toList.reverse = text.toList.reverse :=
    trim_start_solid fun c present => solid c (List.mem_reverse.mp present)
  calc Text.trim text = String.ofList (trimStart (trimStart text.toList).reverse).reverse := rfl
    _ = text := by rw [trim_start_solid solid, back, List.reverse_reverse, String.ofList_toList]

theorem IsSolid.not_blank {text : String} (solid : IsSolid text) (nonempty : text.toList ≠ []) :
    isBlank text = false := by
  obtain ⟨c, present⟩ := List.exists_mem_of_ne_nil _ nonempty
  exact (is_blank_false_iff text).mpr ⟨c, present, solid c present⟩

theorem mem_trim {c : Char} {text : String} (present : c ∈ (trim text).toList) : c ∈ text.toList := by
  rw [trim, String.toList_ofList, trimEnd, List.mem_reverse] at present
  have kept := List.mem_reverse.mp ((List.dropWhile_sublist _).mem present)
  exact (List.dropWhile_sublist _).mem kept

end Text

theorem Config.prepare_solid (config : Config) {text : String} (solid : Text.IsSolid text) :
    config.prepare text = text := by
  simp [prepare, solid.trim]

theorem Config.mem_prepare (config : Config) {c : Char} {text : String} (present : c ∈ (config.prepare text).toList) :
    c ∈ text.toList := by
  rw [prepare] at present
  split at present
  · exact Text.mem_trim present
  · exact present

end Recast
