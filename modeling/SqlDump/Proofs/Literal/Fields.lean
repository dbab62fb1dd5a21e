import SqlDump.Proofs.Literal.Numbers
import SqlDump.Proofs.Literal.Temporal

/-!
# Reading fields

The readers of moments and time spans take one field after another from the left. Which
contents such a reader takes is built up in the same order from behind: a field takes digits in
front of what the rest of the reader takes, and a separator its own symbol. A condition on the
result is the conditions on the fields that have been read, so it is carried along as a guard
until the result is there.

Main statements: `takes_momentFields` and `takes_spanFields`.
-/

namespace SqlDump.Literal

open Text

open scoped Computability

variable {α β : Type}

/-- Whether the contents for which a reader has a result that satisfies a condition are those of
a language, where the guard holds, and none otherwise. -/
def Takes (read : Text → Option α) (condition : α → Prop) (guard : Prop)
    (language : Language Symbol) : Prop :=
  ∀ content, (∃ result, read content = some result ∧ condition result) ↔
    guard ∧ content ∈ language

theorem isEnd_iff (content : Text) :
    isEnd content = true ↔ content ∈ Dialect.reader.ending := by
  rw [Dialect.reader, Language.mem_add, Language.mem_one]
  simp only [isEnd, Bool.or_eq_true, decide_eq_true_eq]
  refine or_congr_right ⟨?_, ?_⟩
  · rintro rfl
    exact ⟨_, rfl, rfl⟩
  · rintro ⟨_, rfl, rfl⟩
    rfl

namespace Takes

variable {condition : α → Prop} {guard : Prop} {language : Language Symbol}

/-- A field in front of what the rest of a reader takes. -/
theorem field {least most : Nat} {next : List Digit × Text → Option α}
    {holds : List Digit → Prop} (ends : EndsDigits language)
    (behind : ∀ found, Takes (fun rest => next (found, rest)) condition
      (guard ∧ holds found) language) :
    Takes (fun content => Literal.field least most content >>= next) condition guard
      (Dialect.reader.field least most holds * language) := by
  intro content
  rw [Dialect.field, Dialect.reader_digit?, mem_spelled_mul_iff ends]
  simp only [Literal.field]
  obtain ⟨found, rest⟩ := digitRun Symbol.digit? content
  have behindFound := behind found rest
  split
  next fits =>
    rw [and_iff_right fits, ← and_assoc, ← behindFound]
    exact Iff.rfl
  next other =>
    refine iff_of_false ?_ (fun taken => other taken.2.1.1)
    rintro ⟨result, read, -⟩
    cases read

/-- A separator in front of what the rest of a reader takes. -/
theorem after {separator : Char} {next : Text → Option α}
    (behind : Takes next condition guard language) :
    Takes (fun content => Literal.after separator content >>= next) condition guard
      (letter separator * language) := by
  intro content
  cases content with
  | nil => simp [Literal.after, letter]
  | cons symbol rest =>
      rw [letter, cons_mem_oneOf_mul_iff, and_left_comm, ← behind rest]
      by_cases same : symbol = .char separator <;> simp [Literal.after, same]

/-- One of two separators. -/
theorem afterEither {first second : Char} {next : Text → Option α}
    (behind : Takes next condition guard language) :
    Takes (fun content => (Literal.after first content <|> Literal.after second content) >>= next)
      condition guard ((letter first + letter second) * language) := by
  intro content
  rw [letter, letter, oneOf_add]
  cases content with
  | nil => simp [Literal.after]
  | cons symbol rest =>
      have either : (Literal.after first (symbol :: rest) <|>
          Literal.after second (symbol :: rest)) =
            if symbol = .char first ∨ symbol = .char second then some rest else none := by
        simp only [Literal.after]
        by_cases isFirst : symbol = .char first <;> simp [isFirst]
      beta_reduce
      rw [cons_mem_oneOf_mul_iff, and_left_comm, ← behind rest, either]
      by_cases listed : symbol = .char first ∨ symbol = .char second <;> simp [listed]

/-- The end of a content, or else what another reader takes. -/
theorem orEnd {result : α} {read : Text → Option α} (ended : condition result ↔ guard)
    (other : Takes read condition guard language) :
    Takes (fun content => if isEnd content then some result else read content) condition guard
      (Dialect.reader.ending + language) := by
  intro content
  beta_reduce
  rw [Language.mem_add, ← isEnd_iff]
  split
  next atEnd => simp [ended, atEnd]
  next notAtEnd => simp [other content, notAtEnd]

theorem map {make : α → β} {condition : β → Prop} {read : Text → Option α}
    (taken : Takes read (fun result => condition (make result)) guard language) :
    Takes (fun content => read content >>= fun result => some (make result)) condition guard
      language := by
  intro content
  rw [← taken content]
  simp only [Option.bind_eq_bind, Option.bind_eq_some_iff, Option.some.injEq]
  constructor
  · rintro ⟨_, ⟨result, found, rfl⟩, holds⟩
    exact ⟨result, found, holds⟩
  · rintro ⟨result, found, holds⟩
    exact ⟨_, ⟨result, found, rfl⟩, holds⟩

end Takes

/-! ## Clocks -/

theorem endsDigits_ending : EndsDigits Dialect.reader.ending :=
  Begins.one.add (Begins.letter (by decide))

theorem endsDigits_fraction : EndsDigits Dialect.reader.fraction :=
  endsDigits_ending.add (Begins.letter_mul digit?_point _)

theorem takes_endFraction {condition : List Digit → Prop} {guard : Prop}
    (any : ∀ fraction, condition fraction ↔ guard) :
    Takes endFraction condition guard Dialect.reader.fraction := by
  refine Takes.orEnd (any []) (Takes.after ?_)
  refine Takes.field endsDigits_ending fun fraction content => ?_
  rw [← isEnd_iff, and_true]
  dsimp only
  split
  next atEnd => simp [any, atEnd]
  next notAtEnd => simp [notAtEnd]

/-- What stands behind a separator ends a field in front of it. -/
theorem endsDigits_separator_mul {separator : Char}
    (listed : separator ∈ ['-', ' ', ':', '.']) (language : Language Symbol) :
    EndsDigits (letter separator * language) :=
  Begins.letter_mul (digit?_separator separator listed) language

theorem takes_endClock {condition : Int × Int × Int → Prop} {guard : Prop}
    {sixtieth : Nat → Prop}
    (each : ∀ (minute second : Nat) microsecond,
      condition (minute, second, microsecond) ↔ (guard ∧ sixtieth minute) ∧ sixtieth second) :
    Takes endClock condition guard (Dialect.reader.clock sixtieth) := by
  refine Takes.field (endsDigits_separator_mul (by simp) _) fun minute => ?_
  refine Takes.after ?_
  refine Takes.field endsDigits_fraction fun second => ?_
  refine Takes.map (takes_endFraction fun fraction => ?_)
  exact each _ _ _

/-! ## Moments -/

theorem takes_dateFields {condition : α → Prop} {guard : Prop} {language : Language Symbol}
    {next : Date × Text → Option α} (ends : EndsDigits language)
    (behind : ∀ date, Takes (fun rest => next (date, rest)) condition guard language) :
    Takes (fun content => dateFields content >>= next) condition guard
      (Dialect.reader.date * language) := by
  simp only [dateFields, Dialect.date, mul_assoc, bind_assoc]
  refine Takes.field (endsDigits_separator_mul (by simp) _) fun year => ?_
  dsimp only
  refine Takes.after ?_
  refine Takes.field (endsDigits_separator_mul (by simp) _) fun month => ?_
  dsimp only
  refine Takes.after ?_
  refine Takes.field ends fun day => ?_
  simpa using behind _

theorem takes_momentFields :
    Takes momentFields (fun _ => True) True Dialect.reader.moment := by
  refine takes_dateFields ?_ fun date => ?_
  · rw [add_mul]
    exact endsDigits_ending.add ((endsDigits_separator_mul (by simp) _).add
      (Begins.letter_mul (by decide) _))
  · refine Takes.orEnd Iff.rfl (Takes.afterEither ?_)
    refine Takes.field (endsDigits_separator_mul (by simp) _) fun hour => ?_
    refine Takes.after ?_
    refine Takes.map (takes_endClock fun _ _ _ => ?_)
    simp

/-! ## Spans -/

section Spans

variable {condition : Bool × List Digit × Int × Int × Int → Prop} {hours : List Digit → Prop}
  {sixtieth : Nat → Prop}
  (each : ∀ negative found (minute second : Nat) microsecond,
    condition (negative, found, minute, second, microsecond) ↔
      (hours found ∧ sixtieth minute) ∧ sixtieth second)

include each

/-- A span behind its sign. -/
theorem takes_unsignedSpan (negative : Bool) :
    Takes (fun content =>
        match digitRun Symbol.digit? content with
        | ([], _) => none
        | (found, rest) => do
            let (minutes, seconds, fraction) ← endClock (← after ':' rest)
            some (negative, found, minutes, seconds, fraction)) condition True
      (spelled Symbol.digit? (fun found => found ≠ [] ∧ hours found) *
        (letter ':' * Dialect.reader.clock sixtieth)) := by
  intro content
  beta_reduce
  rw [mem_spelled_mul_iff (endsDigits_separator_mul (by simp) _)]
  obtain ⟨found, rest⟩ := digitRun Symbol.digit? content
  cases found with
  | nil => simp
  | cons first others =>
      have behind : Takes (fun rest => do
          let (minutes, seconds, fraction) ← endClock (← after ':' rest)
          some (negative, first :: others, minutes, seconds, fraction)) condition
          (hours (first :: others)) (letter ':' * Dialect.reader.clock sixtieth) :=
        Takes.after (Takes.map (takes_endClock (each negative (first :: others))))
      simp only [ne_eq, reduceCtorEq, not_false_eq_true, true_and]
      exact behind rest

theorem takes_spanFields :
    Takes spanFields condition True (Dialect.reader.spanWhere hours sixtieth) := by
  intro content
  have noMinus (rest : Text) : .char '-' :: rest ∉
      spelled Symbol.digit? (fun found => found ≠ [] ∧ hours found) *
        (letter ':' * Dialect.reader.clock sixtieth) := by
    rw [mem_spelled_mul_iff (endsDigits_separator_mul (by simp) _)]
    simp [digitRun, digit?_separator '-' (by simp)]
  rw [Dialect.spanWhere, Dialect.reader_digit?, add_mul, one_mul, Language.mem_add]
  by_cases signed : ∃ rest, content = .char '-' :: rest
  · obtain ⟨rest, rfl⟩ := signed
    rw [or_iff_right (noMinus rest), letter, cons_mem_oneOf_mul_iff, and_iff_right rfl]
    exact takes_unsignedSpan each true rest
  · have unsigned (rest : Text) : content ≠ .char '-' :: rest := fun same => signed ⟨rest, same⟩
    rw [or_iff_left (notMem_letter_mul_of_ne unsigned), spanFields.eq_2 content unsigned]
    exact takes_unsignedSpan each false content

end Spans

end SqlDump.Literal
