import SqlDump.Proofs.Statement.Name
import SqlDump.Session.Basic

/-!
# Reading qualified names

A quoted name ends with the first backtick that has no second one behind it. The backticks of a
name are written twice, and what stands behind a name in a qualified one is a point, so the
reader takes every name for itself, whatever backticks and points it holds. It accepts nothing
but qualified names, and every list of names has its own.

Main statements: `readIdentifier_eq_some_iff` for one name, `readQualifiedName_eq_some_iff` for a
list of them, and `qualifiedName_addresses` for the statements that ask for a table.
-/

namespace SqlDump.Statement

/-! ## Single names -/

theorem readDoubled_of_ne {symbol : Symbol} (different : symbol ≠ backtick) (rest : Text) :
    readDoubled (symbol :: rest) =
      (readDoubled rest).map fun (name, left) => (symbol :: name, left) := by
  rw [readDoubled.eq_def]
  simp [different]

theorem readDoubled_backtick_backtick (rest : Text) :
    readDoubled (backtick :: backtick :: rest) =
      (readDoubled rest).map fun (name, left) => (backtick :: name, left) := by
  rw [readDoubled.eq_def]
  simp

/-- A backtick ends a name if no other one follows. -/
theorem readDoubled_backtick {rest : Text} (ends : rest.head? ≠ some backtick) :
    readDoubled (backtick :: rest) = some ([], rest) := by
  cases rest with
  | nil => rfl
  | cons next behind =>
      have single : next ≠ backtick := fun same => ends (congrArg some same)
      rw [readDoubled.eq_def]
      simp [single]

theorem readDoubled_doubled (name : Text) {rest : Text} (ends : rest.head? ≠ some backtick) :
    readDoubled (doubled name ++ backtick :: rest) = some (name, rest) := by
  induction name with
  | nil => exact readDoubled_backtick ends
  | cons symbol name hypothesis =>
      by_cases same : symbol = backtick
      · rw [same, doubled_backtick, List.cons_append, List.cons_append,
          readDoubled_backtick_backtick, hypothesis]
        rfl
      · rw [doubled_of_ne same, List.cons_append, readDoubled_of_ne same, hypothesis]
        rfl

/-- What is read up to a backtick is a name as it is written. -/
theorem eq_doubled_of_readDoubled {content name rest : Text}
    (found : readDoubled content = some (name, rest)) :
    content = doubled name ++ backtick :: rest ∧ rest.head? ≠ some backtick := by
  induction content using readDoubled.induct generalizing name with
  | case1 => cases found
  | case2 behind hypothesis =>
      rw [readDoubled_backtick_backtick] at found
      obtain ⟨⟨others, left⟩, read, made⟩ := Option.map_eq_some_iff.mp found
      cases made
      obtain ⟨rfl, ends⟩ := hypothesis read
      exact ⟨by simp, ends⟩
  | case3 next behind single =>
      have ends : (next :: behind).head? ≠ some backtick := by
        intro same
        exact single (Option.some.inj same)
      rw [readDoubled_backtick ends] at found
      cases found
      exact ⟨rfl, ends⟩
  | case4 =>
      cases found
      exact ⟨rfl, by simp⟩
  | case5 symbol others different hypothesis =>
      rw [readDoubled_of_ne different] at found
      obtain ⟨⟨name, left⟩, read, made⟩ := Option.map_eq_some_iff.mp found
      cases made
      obtain ⟨rfl, ends⟩ := hypothesis read
      exact ⟨by rw [doubled_of_ne different, List.cons_append], ends⟩

/-- A quoted name is read exactly where it is written and no other backtick follows. -/
theorem readIdentifier_eq_some_iff {content name rest : Text} :
    readIdentifier content = some (name, rest) ↔
      content = identifier name ++ rest ∧ rest.head? ≠ some backtick := by
  constructor
  · intro found
    cases content with
    | nil => cases found
    | cons symbol others =>
        rw [readIdentifier] at found
        split at found
        next opened =>
          obtain ⟨rfl, ends⟩ := eq_doubled_of_readDoubled found
          exact ⟨by simp [identifier, opened], ends⟩
        next => cases found
  · rintro ⟨rfl, ends⟩
    rw [← readDoubled_doubled name ends]
    simp [identifier, readIdentifier]

/-! ## Lists of names -/

theorem qualifiedName_cons_cons (first second : Text) (others : List Text) :
    qualifiedName (first :: second :: others) =
      identifier first ++ .char '.' :: qualifiedName (second :: others) := by
  simp [qualifiedName, List.intercalate_cons_cons, text]

@[simp] theorem qualifiedName_singleton (name : Text) :
    qualifiedName [name] = identifier name := by
  simp [qualifiedName]

/-- The names of a qualified name are read back, where the reader may take as many. -/
theorem readNames_qualifiedName {fuel : Nat} {names : List Text} (nonempty : names ≠ [])
    (enough : names.length ≤ fuel) : readNames fuel (qualifiedName names) = some names := by
  induction names generalizing fuel with
  | nil => exact absurd rfl nonempty
  | cons first others hypothesis =>
      obtain ⟨fuel, rfl⟩ := Nat.exists_eq_add_of_le' (Nat.le_trans (Nat.succ_pos _) enough)
      cases others with
      | nil =>
          have read : readIdentifier (identifier first) = some (first, []) :=
            readIdentifier_eq_some_iff.mpr ⟨by simp, by simp⟩
          simp [readNames, read]
      | cons second more =>
          have point : Symbol.char '.' ≠ backtick := by decide
          have read : readIdentifier (qualifiedName (first :: second :: more)) =
              some (first, .char '.' :: qualifiedName (second :: more)) :=
            readIdentifier_eq_some_iff.mpr ⟨qualifiedName_cons_cons .., by simpa using point⟩
          have behind := hypothesis (List.cons_ne_nil _ _) (Nat.le_of_succ_le_succ enough)
          simp [readNames, read, behind]

/-- The names that are read are written as a qualified name. -/
theorem eq_qualifiedName_of_readNames {fuel : Nat} {content : Text} {names : List Text}
    (found : readNames fuel content = some names) :
    content = qualifiedName names ∧ names ≠ [] := by
  induction fuel generalizing content names with
  | zero => cases found
  | succ fuel hypothesis =>
      rw [readNames] at found
      split at found
      next => cases found
      next name read =>
        cases found
        obtain ⟨rfl, -⟩ := readIdentifier_eq_some_iff.mp read
        exact ⟨by simp, by simp⟩
      next name symbol rest read =>
        obtain ⟨rfl, -⟩ := readIdentifier_eq_some_iff.mp read
        split at found
        next point =>
          obtain ⟨others, readOthers, rfl⟩ := Option.map_eq_some_iff.mp found
          obtain ⟨rfl, nonempty⟩ := hypothesis readOthers
          obtain ⟨second, more, rfl⟩ := List.exists_cons_of_ne_nil nonempty
          exact ⟨by rw [qualifiedName_cons_cons, point], List.cons_ne_nil _ _⟩
        next => cases found

theorem length_le_length_qualifiedName (names : List Text) :
    names.length ≤ (qualifiedName names).length := by
  induction names with
  | nil => simp
  | cons first others hypothesis =>
      cases others with
      | nil => simp [identifier]
      | cons second more =>
          rw [qualifiedName_cons_cons]
          simp only [List.length_append, List.length_cons] at hypothesis ⊢
          omega

/-- A qualified name is read exactly where it is written. -/
theorem readQualifiedName_eq_some_iff {content : Text} {names : List Text} :
    readQualifiedName content = some names ↔ content = qualifiedName names := by
  constructor
  · intro found
    rw [readQualifiedName] at found
    split at found
    next empty =>
      cases found
      exact List.isEmpty_iff.mp empty
    next => exact (eq_qualifiedName_of_readNames found).1
  · rintro rfl
    cases names with
    | nil => rfl
    | cons first others =>
        have long := length_le_length_qualifiedName (first :: others)
        have visible : (qualifiedName (first :: others)).isEmpty = false := by
          rw [List.isEmpty_eq_false_iff]
          exact List.ne_nil_of_length_pos (Nat.lt_of_lt_of_le (Nat.succ_pos _) long)
        rw [readQualifiedName, visible]
        exact readNames_qualifiedName (List.cons_ne_nil _ _) long

/-- Each list of names has a qualified name of its own. -/
theorem qualifiedName_injective : Function.Injective qualifiedName := by
  intro left right same
  have readLeft := readQualifiedName_eq_some_iff.mpr (rfl : qualifiedName left = _)
  have readRight := readQualifiedName_eq_some_iff.mpr (rfl : qualifiedName right = _)
  rw [same, readRight] at readLeft
  exact (Option.some.inj readLeft).symm

/-! ## Statements that ask for a table -/

/-- A text is read as a list of names exactly where it is their qualified name, so that no other
names have it, and the statements that ask for a table end with a text that is read as its
database and its name. -/
theorem qualifiedName_addresses :
    (∀ content names, readQualifiedName content = some names ↔ content = qualifiedName names) ∧
      (∀ names others, qualifiedName names = qualifiedName others ↔ names = others) ∧
      ∀ database table, ∃ content, readQualifiedName content = some [database, table] ∧
        Query.definition database table = text "SHOW CREATE TABLE " ++ content ∧
        Query.rows database table = text "SELECT * FROM " ++ content := by
  refine ⟨fun _ _ => readQualifiedName_eq_some_iff, fun _ _ => qualifiedName_injective.eq_iff, ?_⟩
  intro database table
  exact ⟨qualifiedName [database, table], readQualifiedName_eq_some_iff.mpr rfl, rfl, rfl⟩

/-- A name that looks like the boundary between two names. -/
example : readQualifiedName (qualifiedName [text "a`.`b"]) = some [text "a`.`b"] ∧
    qualifiedName [text "a`.`b"] = text "`a``.``b`" ∧
    qualifiedName [text "a", text "b"] = text "`a`.`b`" := by
  decide

end SqlDump.Statement
