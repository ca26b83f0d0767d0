import Mathlib.Data.List.Forall2
set_option autoImplicit false

namespace Recast.Traversal

variable {ε α β : Type}

theorem bind_ok_iff {first : Except ε α} {next : α → Except ε β} {result : β} :
    first >>= next = .ok result ↔ ∃ x, first = .ok x ∧ next x = .ok result := by
  cases first with
  | error error => simp [bind, Except.bind]
  | ok x => simp [bind, Except.bind]

theorem bind_error_iff {first : Except ε α} {next : α → Except ε β} {error : ε} :
    first >>= next = .error error ↔ first = .error error ∨ ∃ x, first = .ok x ∧ next x = .error error := by
  cases first with
  | error fault => simp [bind, Except.bind]
  | ok x => simp [bind, Except.bind]

theorem map_ok_iff {first : Except ε α} {make : α → β} {result : β} :
    first.map make = .ok result ↔ ∃ x, first = .ok x ∧ make x = result := by
  cases first with
  | error error => simp [Except.map]
  | ok x => simp [Except.map]

theorem map_error_iff {first : Except ε α} {make : α → β} {error : ε} :
    first.map make = .error error ↔ first = .error error := by
  cases first with
  | error error => simp [Except.map]
  | ok x => simp [Except.map]

theorem mapM_cons_ok_iff (step : α → Except ε β) (item : α) (rest : List α) (outs : List β) :
    (item :: rest).mapM step = .ok outs ↔
      ∃ out others, step item = .ok out ∧ rest.mapM step = .ok others ∧ outs = out :: others := by
  rw [List.mapM_cons, bind_ok_iff]
  constructor
  · rintro ⟨out, first, later⟩
    obtain ⟨others, passed, same⟩ := bind_ok_iff.mp later
    exact ⟨out, others, first, passed, (Except.ok.inj same).symm⟩
  · rintro ⟨out, others, first, passed, rfl⟩
    exact ⟨out, first, bind_ok_iff.mpr ⟨others, passed, rfl⟩⟩

theorem mapM_cons_error_iff (step : α → Except ε β) (item : α) (rest : List α) (error : ε) :
    (item :: rest).mapM step = .error error ↔
      step item = .error error ∨ ∃ out, step item = .ok out ∧ rest.mapM step = .error error := by
  rw [List.mapM_cons, bind_error_iff]
  refine or_congr_right (exists_congr fun out => and_congr_right' ?_)
  rw [bind_error_iff]
  refine or_iff_left ?_
  rintro ⟨others, -, done⟩
  cases done

theorem mapM_ok_iff (step : α → Except ε β) (items : List α) (outs : List β) :
    items.mapM step = .ok outs ↔ List.Forall₂ (fun item out => step item = .ok out) items outs := by
  induction items generalizing outs with
  | nil => cases outs <;> simp [pure, Except.pure]
  | cons item rest ih => simp only [mapM_cons_ok_iff, List.forall₂_cons_left_iff, ih]

theorem mapM_ok_mem {step : α → Except ε β} {items : List α} {outs : List β} (passed : items.mapM step = .ok outs)
    {out : β} (present : out ∈ outs) : ∃ item ∈ items, step item = .ok out := by
  rw [mapM_ok_iff] at passed
  induction passed with
  | nil => cases present
  | @cons item first rest others same _ ih =>
    cases present with
    | head => exact ⟨item, List.mem_cons_self, same⟩
    | tail _ later =>
      obtain ⟨found, inside, gives⟩ := ih later
      exact ⟨found, List.mem_cons_of_mem item inside, gives⟩

theorem mapM_error_iff (step : α → Except ε β) (items : List α) (error : ε) :
    items.mapM step = .error error ↔
      ∃ before item after outs, items = before ++ item :: after ∧
        before.mapM step = .ok outs ∧ step item = .error error := by
  induction items with
  | nil => simp [pure, Except.pure]
  | cons head tail ih =>
    rw [mapM_cons_error_iff, ih]
    constructor
    · rintro (failed | ⟨out, first, before, item, after, outs, rfl, passed, failed⟩)
      · exact ⟨[], head, tail, [], rfl, rfl, failed⟩
      · exact ⟨head :: before, item, after, out :: outs, rfl,
          (mapM_cons_ok_iff ..).mpr ⟨out, outs, first, passed, rfl⟩, failed⟩
    · rintro ⟨before, item, after, outs, split, passed, failed⟩
      cases before with
      | nil =>
        obtain ⟨rfl, rfl⟩ := List.cons.inj split
        exact .inl failed
      | cons other others =>
        obtain ⟨rfl, rfl⟩ := List.cons.inj split
        obtain ⟨out, left, first, passed, -⟩ := (mapM_cons_ok_iff ..).mp passed
        exact .inr ⟨out, first, others, item, after, left, rfl, passed, failed⟩

theorem eq_mapM (step : α → Except ε β) (all : List α → Except ε (List β)) (nil : all [] = .ok [])
    (cons : ∀ item rest, all (item :: rest) = do return (← step item) :: (← all rest)) (items : List α) :
    all items = items.mapM step := by
  induction items with
  | nil => exact nil
  | cons item rest ih => rw [cons, List.mapM_cons, ih]

theorem eq_mapM_zip {κ : Type} (step : α → Except ε β) (all : List (κ × α) → Except ε (List (κ × β)))
    (nil : all [] = .ok [])
    (cons : ∀ entry rest, all (entry :: rest) = do return (entry.1, ← step entry.2) :: (← all rest))
    (entries : List (κ × α)) :
    all entries = ((entries.map Prod.snd).mapM step).map (entries.map Prod.fst).zip := by
  induction entries with
  | nil => exact nil
  | cons entry rest ih =>
    rw [cons, ih, List.map_cons, List.map_cons, List.mapM_cons]
    cases step entry.2 with
    | error error => rfl
    | ok first =>
      cases (rest.map Prod.snd).mapM step with
      | error error => rfl
      | ok others => rfl

theorem forall₂_exists_iff {relation : α → β → Prop} {items : List α} :
    (∃ outs, List.Forall₂ relation items outs) ↔ ∀ item ∈ items, ∃ out, relation item out := by
  induction items with
  | nil => simp
  | cons item rest ih =>
    rw [List.forall_mem_cons, ← ih]
    constructor
    · rintro ⟨_, related⟩
      obtain ⟨out, outs, first, others, -⟩ := List.forall₂_cons_left_iff.mp related
      exact ⟨⟨out, first⟩, outs, others⟩
    · rintro ⟨⟨out, first⟩, outs, others⟩
      exact ⟨out :: outs, .cons first others⟩

theorem forall₂_comp_iff {γ : Type} {first : α → β → Prop} {second : β → γ → Prop} {items : List α}
    {results : List γ} :
    (∃ outs, List.Forall₂ first items outs ∧ List.Forall₂ second outs results) ↔
      List.Forall₂ (fun item result => ∃ out, first item out ∧ second out result) items results := by
  constructor
  · rintro ⟨outs, before, after⟩
    induction before generalizing results with
    | nil =>
      cases after
      exact .nil
    | cons here _ ih =>
      cases after with
      | cons there later => exact .cons ⟨_, here, there⟩ (ih later)
  · intro both
    induction both with
    | nil => exact ⟨[], .nil, .nil⟩
    | cons through _ ih =>
      obtain ⟨out, here, there⟩ := through
      obtain ⟨outs, before, after⟩ := ih
      exact ⟨out :: outs, .cons here before, .cons there after⟩

theorem forall₂_iff_of_mem {relation other : α → β → Prop} {items : List α} {outs : List β}
    (agree : ∀ item ∈ items, ∀ out, relation item out ↔ other item out) :
    List.Forall₂ relation items outs ↔ List.Forall₂ other items outs := by
  induction items generalizing outs with
  | nil => simp
  | cons item rest ih =>
    simp only [List.forall₂_cons_left_iff, agree item List.mem_cons_self,
      ih fun given present => agree given (List.mem_cons_of_mem item present)]

theorem forall₂_of_mem {relation other : α → β → Prop} {items : List α} {outs : List β}
    (related : List.Forall₂ relation items outs)
    (follows : ∀ item ∈ items, ∀ out, relation item out → other item out) : List.Forall₂ other items outs := by
  have within : List.Forall₂ (fun item out => item ∈ items ∧ relation item out) items outs :=
    (List.forall₂_and_left items outs).mpr ⟨fun _ inside => inside, related⟩
  exact within.imp fun item out ⟨inside, holds⟩ => follows item inside out holds

end Recast.Traversal
