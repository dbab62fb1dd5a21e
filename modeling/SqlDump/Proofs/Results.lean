import Mathlib.Data.List.Forall2

/-!
# Results in a row

A computation made of parts that can fail succeeds exactly where every part does, and
otherwise ends with the failure of the first part that fails.

Main statements: `mapM_eq_ok_iff` and `mapM_eq_error_iff`.
-/

namespace SqlDump

variable {ε α β γ : Type}

/-- What a successful step after another one was made of. -/
theorem bind_eq_ok_iff {first : Except ε α} {second : α → Except ε β} {result : β} :
    first >>= second = .ok result ↔ ∃ value, first = .ok value ∧ second value = .ok result := by
  cases first with
  | error error => simp [bind, Except.bind]
  | ok value => simp [bind, Except.bind]

/-- A step after another one fails where the first does, or behind it the second. -/
theorem bind_eq_error_iff {error : ε} {first : Except ε α} {second : α → Except ε β} :
    first >>= second = .error error ↔
      first = .error error ∨ ∃ value, first = .ok value ∧ second value = .error error := by
  cases first with
  | error found => simp [bind, Except.bind]
  | ok value => simp [bind, Except.bind]

/-- What is guarded by an error succeeds only where the error is not met. -/
theorem guard_eq_ok_iff {condition : Prop} [Decidable condition] {error : ε}
    {outcome : Except ε α} {value : α} :
    (if condition then .error error else outcome) = .ok value ↔
      ¬condition ∧ outcome = .ok value := by
  split
  next holds => simp [holds]
  next fails => simp [fails]

theorem map_eq_ok_iff {change : α → β} {outcome : Except ε α} {changed : β} :
    outcome.map change = .ok changed ↔ ∃ value, outcome = .ok value ∧ change value = changed := by
  cases outcome <;> simp [Except.map]

theorem mapError_eq_ok_iff {change : ε → β} {outcome : Except ε α} {value : α} :
    outcome.mapError change = .ok value ↔ outcome = .ok value := by
  cases outcome <;> simp [Except.mapError]

/-- What is made of an error comes from an error. -/
theorem mapError_eq_error_iff {change : ε → β} {outcome : Except ε α} {changed : β} :
    outcome.mapError change = .error changed ↔
      ∃ error, outcome = .error error ∧ change error = changed := by
  cases outcome <;> simp [Except.mapError]

/-- A list is worked through exactly where each item is. -/
theorem mapM_eq_ok_iff {step : α → Except ε β} {items : List α} {results : List β} :
    items.mapM step = .ok results ↔
      List.Forall₂ (fun item result => step item = .ok result) items results := by
  induction items generalizing results with
  | nil =>
      rw [List.mapM_nil]
      constructor
      · rintro ⟨⟩
        exact .nil
      · rintro ⟨⟩
        rfl
  | cons item rest hypothesis =>
      rw [List.mapM_cons, bind_eq_ok_iff]
      constructor
      · rintro ⟨result, first, remaining⟩
        obtain ⟨others, others_ok, same⟩ := bind_eq_ok_iff.mp remaining
        cases same
        exact .cons first (hypothesis.mp others_ok)
      · intro related
        cases related with
        | cons first others =>
            exact ⟨_, first, bind_eq_ok_iff.mpr ⟨_, hypothesis.mpr others, rfl⟩⟩

/-- Every result for a list is the result for one of its items. -/
theorem exists_of_mem_of_mapM_eq_ok {step : α → Except ε β} {items : List α} {results : List β}
    (collected : items.mapM step = .ok results) {result : β} (member : result ∈ results) :
    ∃ item ∈ items, step item = .ok result := by
  have related := mapM_eq_ok_iff.mp collected
  clear collected
  induction related with
  | nil => cases member
  | @cons item found rest others first _ hypothesis =>
      rcases List.mem_cons.mp member with rfl | inOthers
      · exact ⟨item, by simp, first⟩
      · obtain ⟨source, sourceMember, made⟩ := hypothesis inOthers
        exact ⟨source, by simp [sourceMember], made⟩

/-- There are as many results as items. -/
theorem length_of_mapM_eq_ok {step : α → Except ε β} {items : List α} {results : List β}
    (collected : items.mapM step = .ok results) : results.length = items.length := by
  have related := mapM_eq_ok_iff.mp collected
  clear collected
  induction related with
  | nil => rfl
  | cons _ _ hypothesis => simp [hypothesis]

/-- Two lists are related exactly where they are of one length and their items are related, at
the same places. -/
theorem forall₂_iff_getElem? {R : α → β → Prop} {left : List α} {right : List β} :
    List.Forall₂ R left right ↔
      left.length = right.length ∧ ∀ (place : Nat) (first : α) (second : β),
        left[place]? = some first → right[place]? = some second → R first second := by
  rw [List.forall₂_iff_get]
  refine and_congr_right fun _ => ?_
  constructor
  · intro related place first second firstAt secondAt
    obtain ⟨inLeft, rfl⟩ := List.getElem?_eq_some_iff.mp firstAt
    obtain ⟨inRight, rfl⟩ := List.getElem?_eq_some_iff.mp secondAt
    exact related place inLeft inRight
  · intro related place inLeft inRight
    exact related place _ _ (List.getElem?_eq_getElem inLeft) (List.getElem?_eq_getElem inRight)

/-- Two lists have results in common exactly where their items have, at the same places. -/
theorem exists_forall₂_iff {R : α → γ → Prop} {S : β → γ → Prop} {left : List α}
    {right : List β} :
    (∃ results, List.Forall₂ R left results ∧ List.Forall₂ S right results) ↔
      List.Forall₂ (fun first second => ∃ result, R first result ∧ S second result) left right := by
  constructor
  · rintro ⟨results, related, others⟩
    induction related generalizing right with
    | nil =>
        cases others
        exact .nil
    | cons first _ hypothesis =>
        cases others with
        | cons second more => exact .cons ⟨_, first, second⟩ (hypothesis more)
  · intro related
    induction related with
    | nil => exact ⟨[], .nil, .nil⟩
    | cons common _ hypothesis =>
        obtain ⟨result, first, second⟩ := common
        obtain ⟨results, leftRelated, rightRelated⟩ := hypothesis
        exact ⟨result :: results, .cons first leftRelated, .cons second rightRelated⟩

/-- Two lists have a list between them exactly where their items have something between them,
at the same places. -/
theorem exists_forall₂_between_iff {R : α → γ → Prop} {S : γ → β → Prop} {left : List α}
    {right : List β} :
    (∃ middle, List.Forall₂ R left middle ∧ List.Forall₂ S middle right) ↔
      List.Forall₂ (fun first last => ∃ between, R first between ∧ S between last) left right := by
  have flipped (middle : List γ) :
      List.Forall₂ S middle right ↔ List.Forall₂ (flip S) right middle :=
    ⟨.flip, .flip⟩
  simp only [flipped, exists_forall₂_iff]
  rfl

/-- Two lists are worked through with the same results exactly where their items are, at the
same places. -/
theorem exists_mapM_eq_ok_iff {step : α → Except ε γ} {other : β → Except ε γ} {left : List α}
    {right : List β} :
    (∃ results, left.mapM step = .ok results ∧ right.mapM other = .ok results) ↔
      List.Forall₂
        (fun first second => ∃ result, step first = .ok result ∧ other second = .ok result)
        left right := by
  simp only [mapM_eq_ok_iff, exists_forall₂_iff]

/-- A list is worked through where each of its items can be. -/
theorem exists_mapM_eq_ok_of_forall {step : α → Except ε β} {items : List α}
    (each : ∀ item ∈ items, ∃ result, step item = .ok result) :
    ∃ results, items.mapM step = .ok results := by
  induction items with
  | nil => exact ⟨[], List.mapM_nil⟩
  | cons item rest hypothesis =>
      obtain ⟨result, made⟩ := each item List.mem_cons_self
      obtain ⟨results, others⟩ := hypothesis fun other member => each other (by simp [member])
      exact ⟨result :: results, mapM_eq_ok_iff.mpr (.cons made (mapM_eq_ok_iff.mp others))⟩

/-- What is made of each result can be made of all of them at the end. -/
theorem mapM_map_eq_map_mapM {step : α → Except ε β} {change : β → γ} (items : List α) :
    items.mapM (fun item => (step item).map change) =
      (items.mapM step).map (List.map change) := by
  induction items with
  | nil => rfl
  | cons item rest hypothesis =>
      rw [List.mapM_cons, List.mapM_cons, hypothesis]
      cases step item with
      | error error => rfl
      | ok result => cases rest.mapM step <;> rfl

/-! ## The first failure -/

/-- An item that fails, behind items that do not. -/
def FirstFails (step : α → Except ε β) (items : List α) (error : ε) : Prop :=
  ∃ before item after, items = before ++ item :: after ∧
    (∀ earlier ∈ before, ∃ result, step earlier = .ok result) ∧ step item = .error error

variable {step : α → Except ε β} {error : ε}

theorem not_firstFails_nil : ¬FirstFails step [] error := by
  rintro ⟨before, item, after, split, -⟩
  simp at split

/-- Of a list the first item fails, or it does not and one of the others does. -/
theorem firstFails_cons_iff {item : α} {rest : List α} :
    FirstFails step (item :: rest) error ↔
      step item = .error error ∨
        (∃ result, step item = .ok result) ∧ FirstFails step rest error := by
  constructor
  · rintro ⟨before, found, after, split, passed, fails⟩
    cases before with
    | nil =>
        cases split
        exact .inl fails
    | cons first others =>
        cases split
        exact .inr ⟨passed item (by simp), others, found, after, rfl,
          fun earlier member => passed earlier (by simp [member]), fails⟩
  · rintro (fails | ⟨made, before, found, after, rfl, passed, fails⟩)
    · exact ⟨[], item, rest, rfl, by simp, fails⟩
    · refine ⟨item :: before, found, after, rfl, ?_, fails⟩
      intro earlier member
      rcases List.mem_cons.mp member with rfl | inBefore
      · exact made
      · exact passed earlier inBefore

/-- A list cannot be worked through where an item fails, and the first one decides. -/
theorem mapM_eq_error_iff {items : List α} :
    items.mapM step = .error error ↔ FirstFails step items error := by
  induction items with
  | nil =>
      rw [List.mapM_nil]
      exact iff_of_false (fun fails => nomatch fails) not_firstFails_nil
  | cons item rest hypothesis =>
      rw [List.mapM_cons, firstFails_cons_iff, bind_eq_error_iff]
      refine or_congr_right ?_
      constructor
      · rintro ⟨result, made, fails⟩
        rcases bind_eq_error_iff.mp fails with fails | ⟨others, -, ended⟩
        · exact ⟨⟨result, made⟩, hypothesis.mp fails⟩
        · cases ended
      · rintro ⟨⟨result, made⟩, fails⟩
        exact ⟨result, made, bind_eq_error_iff.mpr (.inl (hypothesis.mpr fails))⟩

theorem exists_mapM_cons_eq_ok_iff {item : α} {rest : List α} :
    (∃ results, (item :: rest).mapM step = .ok results) ↔
      (∃ result, step item = .ok result) ∧ ∃ results, rest.mapM step = .ok results := by
  simp only [List.mapM_cons, bind_eq_ok_iff]
  constructor
  · rintro ⟨-, result, made, others, othersMade, -⟩
    exact ⟨⟨result, made⟩, others, othersMade⟩
  · rintro ⟨⟨result, made⟩, others, othersMade⟩
    exact ⟨_, result, made, others, othersMade, rfl⟩

/-- Of two lists one after the other an item of the first fails, or none does and one of the
second. -/
theorem firstFails_append_iff {left right : List α} :
    FirstFails step (left ++ right) error ↔
      FirstFails step left error ∨
        (∃ results, left.mapM step = .ok results) ∧ FirstFails step right error := by
  induction left with
  | nil =>
      have nothing : ([] : List α).mapM step = .ok [] := List.mapM_nil
      simp [not_firstFails_nil, nothing]
  | cons item rest hypothesis =>
      rw [List.cons_append, firstFails_cons_iff, hypothesis, firstFails_cons_iff,
        exists_mapM_cons_eq_ok_iff, and_or_left, or_assoc, and_assoc]

/-- In a list of lists that are worked through one by one, the first item of all that
fails decides. -/
theorem firstFails_mapM_iff {rows : List (List α)} :
    FirstFails (fun row => row.mapM step) rows error ↔ FirstFails step rows.flatten error := by
  induction rows with
  | nil => exact iff_of_false not_firstFails_nil not_firstFails_nil
  | cons row rest hypothesis =>
      rw [firstFails_cons_iff, List.flatten_cons, firstFails_append_iff, mapM_eq_error_iff,
        hypothesis]

/-- Which item fails first does not depend on what is made of the results. -/
theorem firstFails_map_iff {change : β → γ} {items : List α} :
    FirstFails (fun item => (step item).map change) items error ↔
      FirstFails step items error := by
  have succeeds (item : α) :
      (∃ changed, (step item).map change = .ok changed) ↔ ∃ result, step item = .ok result := by
    cases step item <;> simp [Except.map]
  have fails (item : α) : (step item).map change = .error error ↔ step item = .error error := by
    cases step item <;> simp [Except.map]
  simp only [FirstFails, succeeds, fails]

end SqlDump
