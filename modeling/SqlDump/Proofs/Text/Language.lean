import Mathlib.Computability.Language
import SqlDump.Text.Capital

/-!
# Languages of texts

A grammar is a language: a class of symbols for one place, a sum for a choice and a product
for what stands behind. A reader takes a text from the left, so a product that begins with a
class is described by the first symbol and the rest. The texts of a grammar that are made of
some symbols only are those of the grammar whose parts are narrowed to them.

Main statements: `cons_mem_oneOf_mul_iff` and `restrict_mul` with its companions.
-/

namespace SqlDump.Text

open scoped Computability

/-- The texts of one symbol that satisfies a condition. -/
def oneOf (condition : Symbol → Prop) : Language Symbol :=
  {content | ∃ symbol, condition symbol ∧ content = [symbol]}

/-- The text of one character. -/
def letter (value : Char) : Language Symbol :=
  oneOf (· = .char value)

/-- A word, which is given in capitals, in ASCII letters of either case. -/
def anyCase (word : String) : Language Symbol :=
  {content | ∃ letters : List Char,
    content = letters.map .char ∧ letters.map Char.toUpper = word.toList}

variable {condition : Symbol → Prop} {language : Language Symbol}

theorem mem_oneOf_mul_iff {content : Text} :
    content ∈ oneOf condition * language ↔
      ∃ symbol rest, content = symbol :: rest ∧ condition symbol ∧ rest ∈ language := by
  rw [Language.mem_mul]
  constructor
  · rintro ⟨-, ⟨symbol, holds, rfl⟩, rest, member, rfl⟩
    exact ⟨symbol, rest, rfl, holds, member⟩
  · rintro ⟨symbol, rest, rfl, holds, member⟩
    exact ⟨[symbol], ⟨symbol, holds, rfl⟩, rest, member, rfl⟩

@[simp] theorem cons_mem_oneOf_mul_iff {symbol : Symbol} {rest : Text} :
    symbol :: rest ∈ oneOf condition * language ↔ condition symbol ∧ rest ∈ language := by
  rw [mem_oneOf_mul_iff]
  constructor
  · rintro ⟨_, _, same, holds, member⟩
    cases same
    exact ⟨holds, member⟩
  · rintro ⟨holds, member⟩
    exact ⟨symbol, rest, rfl, holds, member⟩

@[simp] theorem nil_not_mem_oneOf_mul : [] ∉ oneOf condition * language := by
  intro member
  obtain ⟨symbol, rest, same, -⟩ := mem_oneOf_mul_iff.mp member
  cases same

theorem oneOf_add (left right : Symbol → Prop) :
    oneOf left + oneOf right = oneOf fun symbol => left symbol ∨ right symbol := by
  ext content
  rw [Language.mem_add]
  constructor
  · rintro (⟨symbol, holds, rfl⟩ | ⟨symbol, holds, rfl⟩)
    · exact ⟨symbol, .inl holds, rfl⟩
    · exact ⟨symbol, .inr holds, rfl⟩
  · rintro ⟨symbol, holds | holds, rfl⟩
    · exact .inl ⟨symbol, holds, rfl⟩
    · exact .inr ⟨symbol, holds, rfl⟩

/-! ## First symbols -/

/-- Whether the texts of a language begin, unless they are empty, with a symbol that satisfies a
condition. -/
def Begins (condition : Symbol → Prop) (language : Language Symbol) : Prop :=
  ∀ content ∈ language, ∀ symbol ∈ content.head?, condition symbol

namespace Begins

theorem one : Begins condition 1 := by
  rintro content rfl symbol isFirst
  cases isFirst

theorem add {left right : Language Symbol} (leftBegins : Begins condition left)
    (rightBegins : Begins condition right) : Begins condition (left + right) := by
  rintro content (inLeft | inRight)
  · exact leftBegins content inLeft
  · exact rightBegins content inRight

theorem oneOf_mul {first : Symbol → Prop} (each : ∀ symbol, first symbol → condition symbol)
    (language : Language Symbol) : Begins condition (oneOf first * language) := by
  intro content member symbol isFirst
  obtain ⟨other, rest, rfl, holds, -⟩ := mem_oneOf_mul_iff.mp member
  exact each symbol (Option.some.inj isFirst ▸ holds)

theorem letter_mul {value : Char} (holds : condition (.char value))
    (language : Language Symbol) : Begins condition (letter value * language) := by
  apply oneOf_mul
  rintro symbol rfl
  exact holds

theorem letter {value : Char} (holds : condition (.char value)) :
    Begins condition (letter value) := by
  have begins := letter_mul holds 1
  rwa [mul_one] at begins

end Begins

/-! ## Texts of some symbols -/

section Restrict

variable (allowed : Symbol → Prop)

/-- The texts of a language whose symbols are all allowed. -/
def restrict (language : Language Symbol) : Language Symbol :=
  {content | content ∈ language ∧ ∀ symbol ∈ content, allowed symbol}

variable {allowed}

theorem mem_restrict_iff {content : Text} :
    content ∈ restrict allowed language ↔
      content ∈ language ∧ ∀ symbol ∈ content, allowed symbol :=
  Iff.rfl

@[simp] theorem restrict_one : restrict allowed 1 = 1 := by
  ext content
  rw [mem_restrict_iff, Language.mem_one]
  constructor
  · exact fun both => both.1
  · rintro rfl
    exact ⟨rfl, by simp⟩

@[simp] theorem restrict_add (left right : Language Symbol) :
    restrict allowed (left + right) = restrict allowed left + restrict allowed right := by
  ext content
  simp only [mem_restrict_iff, Language.mem_add, or_and_right]

@[simp] theorem restrict_mul (left right : Language Symbol) :
    restrict allowed (left * right) = restrict allowed left * restrict allowed right := by
  ext content
  rw [mem_restrict_iff, Language.mem_mul, Language.mem_mul]
  constructor
  · rintro ⟨⟨front, inLeft, back, inRight, rfl⟩, narrow⟩
    obtain ⟨frontNarrow, backNarrow⟩ := List.forall_mem_append.mp narrow
    exact ⟨front, ⟨inLeft, frontNarrow⟩, back, ⟨inRight, backNarrow⟩, rfl⟩
  · rintro ⟨front, ⟨inLeft, frontNarrow⟩, back, ⟨inRight, backNarrow⟩, rfl⟩
    exact ⟨⟨front, inLeft, back, inRight, rfl⟩,
      List.forall_mem_append.mpr ⟨frontNarrow, backNarrow⟩⟩

@[simp] theorem restrict_kstar (language : Language Symbol) :
    restrict allowed language∗ = (restrict allowed language)∗ := by
  ext content
  rw [mem_restrict_iff, Language.mem_kstar, Language.mem_kstar]
  constructor
  · rintro ⟨⟨parts, rfl, listed⟩, narrow⟩
    refine ⟨parts, rfl, fun part member => ⟨listed part member, fun symbol inPart => ?_⟩⟩
    exact narrow symbol (List.mem_flatten.mpr ⟨part, member, inPart⟩)
  · rintro ⟨parts, rfl, listed⟩
    refine ⟨⟨parts, rfl, fun part member => (listed part member).1⟩, fun symbol inside => ?_⟩
    obtain ⟨part, member, inPart⟩ := List.mem_flatten.mp inside
    exact (listed part member).2 symbol inPart

@[simp] theorem restrict_oneOf (condition : Symbol → Prop) :
    restrict allowed (oneOf condition) = oneOf fun symbol => condition symbol ∧ allowed symbol := by
  ext content
  constructor
  · rintro ⟨⟨symbol, holds, rfl⟩, narrow⟩
    exact ⟨symbol, ⟨holds, narrow symbol (by simp)⟩, rfl⟩
  · rintro ⟨symbol, ⟨holds, narrow⟩, rfl⟩
    exact ⟨⟨symbol, holds, rfl⟩, by simpa using narrow⟩

/-- A class of allowed symbols stays as it is. -/
theorem restrict_oneOf_of_forall {condition : Symbol → Prop}
    (within : ∀ symbol, condition symbol → allowed symbol) :
    restrict allowed (oneOf condition) = oneOf condition := by
  rw [restrict_oneOf]
  congr 1
  funext symbol
  exact propext (and_iff_left_of_imp (within symbol))

/-- A character that is not allowed leaves nothing. -/
theorem restrict_letter_of_not {value : Char} (excluded : ¬allowed (.char value)) :
    restrict allowed (letter value) = 0 := by
  ext content
  refine iff_of_false ?_ (Language.notMem_zero content)
  rintro ⟨⟨symbol, rfl, rfl⟩, narrow⟩
  exact excluded (narrow _ (by simp))

end Restrict

/-! ## Words in letters of either case -/

theorem mem_anyCase_iff {word : String} {content : Text} :
    content ∈ anyCase word ↔
      ∃ letters : List Char, content = letters.map .char ∧
        letters.map Char.toUpper = word.toList :=
  Iff.rfl

/-- Whether a capital is that of the letter of either case and of no other symbol. -/
def isOwnCapital (value : Char) : Bool :=
  value ∉ ['S', 'I', 'F'] && (capitalForms.lookup value.toNat).isNone

/-- The symbols beyond ASCII have capitals that begin with one of three letters. -/
theorem capitalForms_cases {value : Char} {form : String}
    (listed : capitalForms.lookup value.toNat = some form) :
    value.toUpper = value ∧ ∃ first ∈ ['S', 'I', 'F'], (text form).head? = some (.char first) := by
  have each : capitalForms.all (fun entry => 0x7F < entry.1 &&
      ['S', 'I', 'F'].any fun first => (text entry.2).head? = some (.char first)) = true := by
    decide
  obtain ⟨before, after, split, -⟩ := List.lookup_eq_some_iff.mp listed
  have entry := List.all_eq_true.mp each (value.toNat, form) (by simp [split])
  rw [Bool.and_eq_true, List.any_eq_true, decide_eq_true_iff] at entry
  obtain ⟨beyond, first, isFirst, begins⟩ := entry
  refine ⟨?_, first, isFirst, of_decide_eq_true begins⟩
  refine dif_neg ?_
  rintro ⟨-, last⟩
  exact absurd (beyond.trans_le last) (by decide)

theorem capital_char {value : Char} (own : isOwnCapital value.toUpper = true) :
    (Symbol.char value).capital = [.char value.toUpper] := by
  simp only [Symbol.capital]
  split
  next form listed =>
    have same := (capitalForms_cases listed).1
    simp [isOwnCapital, same, listed] at own
  next => rfl

/-- The first of the capitals of a text, where it is one of a letter only, is that of the first
symbol. -/
theorem capital_append_eq_cons {symbol : Symbol} {capitals rest : Text} {value : Char}
    (own : isOwnCapital value = true)
    (begins : symbol.capital ++ capitals = .char value :: rest) :
    ∃ small, symbol = .char small ∧ small.toUpper = value ∧ capitals = rest := by
  cases symbol with
  | stray offset => simp [Symbol.capital] at begins
  | lone surrogate => simp [Symbol.capital] at begins
  | char small =>
      simp only [Symbol.capital] at begins
      split at begins
      next form listed =>
        obtain ⟨-, first, isFirst, head⟩ := capitalForms_cases listed
        obtain ⟨others, written⟩ := List.head?_eq_some_iff.mp head
        rw [written, List.cons_append, List.cons.injEq, Symbol.char.injEq] at begins
        simp [isOwnCapital, ← begins.1, isFirst] at own
      next =>
        rw [List.singleton_append, List.cons.injEq, Symbol.char.injEq] at begins
        exact ⟨small, rfl, begins.1, begins.2⟩

theorem capital_ne_nil (symbol : Symbol) : symbol.capital ≠ [] := by
  cases symbol with
  | stray offset => simp [Symbol.capital]
  | lone surrogate => simp [Symbol.capital]
  | char value =>
      simp only [Symbol.capital]
      split
      next form listed =>
        obtain ⟨-, first, -, head⟩ := capitalForms_cases listed
        intro nothing
        rw [nothing] at head
        cases head
      next => simp

/-- A text has a word for its capitals where it is the word in letters of either case. -/
theorem capitals_eq_text_iff {word : String} (own : word.toList.all isOwnCapital = true)
    (content : Text) : Text.capitals content = text word ↔ content ∈ anyCase word := by
  rw [mem_anyCase_iff, text]
  generalize word.toList = letters at own
  induction content generalizing letters with
  | nil =>
      simp [Text.capitals, eq_comm]
  | cons symbol rest hypothesis =>
      have split : Text.capitals (symbol :: rest) = symbol.capital ++ Text.capitals rest := rfl
      rw [split]
      cases letters with
      | nil => simp [capital_ne_nil]
      | cons value others =>
          obtain ⟨ownFirst, ownOthers⟩ := Bool.and_eq_true_iff.mp own
          have behind := hypothesis others ownOthers
          constructor
          · intro same
            obtain ⟨small, rfl, rfl, remaining⟩ := capital_append_eq_cons ownFirst same
            obtain ⟨smalls, rfl, made⟩ := behind.mp remaining
            exact ⟨small :: smalls, rfl, by rw [List.map_cons, made]⟩
          · rintro ⟨smalls, written, made⟩
            cases smalls with
            | nil => cases written
            | cons small smalls =>
                cases written
                cases made
                rw [capital_char ownFirst, behind.mpr ⟨smalls, rfl, rfl⟩]
                rfl

end SqlDump.Text
