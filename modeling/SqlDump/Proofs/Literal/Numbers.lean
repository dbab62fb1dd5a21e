import SqlDump.Proofs.Literal.Grammar
import SqlDump.Proofs.Number.Numeral

/-!
# Reading numbers

The reader of floating point numerals looks at the underscores and at everything else apart:
every underscore has to stand between two digits, and without the underscores the text has to
be a decimal number. A symbol that is neither a digit nor an underscore separates what is
in front of it from what is behind it in both respects, so the two conditions together are a
grammar again, in which each run of digits has become a group.

Main statements: `read_isSome_iff` says which numerals are floating point numbers, and
`mem_number_of_wholeNumber` that whole numbers are among them.
-/

namespace SqlDump.Literal

open Text

open scoped Computability

/-! ## Runs of digits -/

/-- Whether a run of digits ends where a text of the language begins. -/
def EndsDigits (language : Language Symbol) : Prop :=
  Begins (fun symbol => symbol.digit? = none) language

/-- In front of a language that ends them, digits are read as the digits they are. -/
theorem mem_spelled_mul_iff {condition : List Digit → Prop} {language : Language Symbol}
    (ends : EndsDigits language) (content : Text) :
    content ∈ spelled Symbol.digit? condition * language ↔
      condition (digitRun Symbol.digit? content).1 ∧
        (digitRun Symbol.digit? content).2 ∈ language := by
  rw [Language.mem_mul]
  constructor
  · rintro ⟨word, ⟨found, spelled, holds⟩, rest, member, rfl⟩
    rw [digitRun_append spelled (ends rest member)]
    exact ⟨holds, member⟩
  · rintro ⟨holds, member⟩
    obtain ⟨word, split, spelled, -⟩ := exists_eq_append_of_digitRun Symbol.digit? content
    exact ⟨word, ⟨_, spelled, holds⟩, _, member, split.symm⟩

/-- A language that ends digits is met behind no digits at all. -/
theorem mem_iff_of_endsDigits {language : Language Symbol} (ends : EndsDigits language)
    (content : Text) :
    content ∈ language ↔
      (digitRun Symbol.digit? content).1 = [] ∧
        (digitRun Symbol.digit? content).2 ∈ language := by
  have none : spelled Symbol.digit? (· = []) = 1 := by
    ext word
    rw [Language.mem_one]
    constructor
    · rintro ⟨found, spelled, rfl⟩
      exact List.map_eq_nil_iff.mp spelled
    · rintro rfl
      exact ⟨[], rfl, rfl⟩
  have behind : content ∈ spelled Symbol.digit? (· = []) * language ↔ _ :=
    mem_spelled_mul_iff ends content
  rwa [none, one_mul] at behind

theorem mem_spelled_iff {condition : List Digit → Prop} (content : Text) :
    content ∈ spelled Symbol.digit? condition ↔
      condition (digitRun Symbol.digit? content).1 ∧
        (digitRun Symbol.digit? content).2 = [] := by
  rw [← mul_one (spelled Symbol.digit? condition), mem_spelled_mul_iff Begins.one,
    Language.mem_one]

/-! ## Underscores -/

/-- The texts that a language has when the underscores are taken out, with every underscore
between two digits. -/
def separated (language : Language Symbol) : Language Symbol :=
  {content | content.filter (· ≠ .char '_') ∈ language ∧
    FloatNumeral.underscoresSeparate false content = true}

theorem mem_separated_iff {language : Language Symbol} {content : Text} :
    content ∈ separated language ↔ content.filter (· ≠ .char '_') ∈ language ∧
      FloatNumeral.underscoresSeparate false content = true :=
  Iff.rfl

/-- Whether a symbol is neither a digit nor an underscore. -/
def IsMark (symbol : Symbol) : Prop :=
  symbol.digit? = none ∧ symbol ≠ .char '_'

theorem underscoresSeparate_underscore (previous : Bool) (rest : Text) :
    FloatNumeral.underscoresSeparate previous (.char '_' :: rest) =
      (previous && rest.head?.any (·.digit?.isSome) &&
        FloatNumeral.underscoresSeparate false rest) := by
  cases rest <;> simp [FloatNumeral.underscoresSeparate]

theorem underscoresSeparate_of_ne {symbol : Symbol} (other : symbol ≠ .char '_')
    (previous : Bool) (rest : Text) :
    FloatNumeral.underscoresSeparate previous (symbol :: rest) =
      FloatNumeral.underscoresSeparate symbol.digit?.isSome rest := by
  simp [FloatNumeral.underscoresSeparate, other]

/-- No underscore can stand next to a mark, so a mark parts the underscores. -/
theorem underscoresSeparate_append_cons {mark : Symbol} (isMark : IsMark mark) (previous : Bool)
    (front back : Text) :
    FloatNumeral.underscoresSeparate previous (front ++ mark :: back) =
      (FloatNumeral.underscoresSeparate previous front &&
        FloatNumeral.underscoresSeparate false back) := by
  induction front generalizing previous with
  | nil =>
      rw [List.nil_append, underscoresSeparate_of_ne isMark.2, isMark.1]
      rfl
  | cons symbol rest hypothesis =>
      rw [List.cons_append]
      by_cases underscore : symbol = .char '_'
      · rw [underscore, underscoresSeparate_underscore, underscoresSeparate_underscore,
          hypothesis]
        cases rest <;> simp [isMark.1, Bool.and_assoc]
      · rw [underscoresSeparate_of_ne underscore, underscoresSeparate_of_ne underscore, hypothesis]

theorem separated_one : separated 1 = 1 := by
  ext content
  rw [mem_separated_iff, Language.mem_one, Language.mem_one]
  constructor
  · rintro ⟨nothing, separate⟩
    cases content with
    | nil => rfl
    | cons symbol rest =>
        have underscore : symbol = .char '_' := by
          by_contra other
          simp [other] at nothing
        simp [underscore, underscoresSeparate_underscore] at separate
  · rintro rfl
    exact ⟨rfl, rfl⟩

theorem separated_add (left right : Language Symbol) :
    separated (left + right) = separated left + separated right := by
  ext content
  simp only [mem_separated_iff, Language.mem_add, or_and_right]

section Marks

variable {marks : Symbol → Prop} (each : ∀ symbol, marks symbol → IsMark symbol)
  (left right : Language Symbol)

include each

/-- In front of a mark and behind it the underscores are separated on their own. -/
theorem separated_mul_oneOf_mul :
    separated (left * (oneOf marks * right)) =
      separated left * (oneOf marks * separated right) := by
  ext content
  rw [mem_separated_iff, Language.mem_mul, Language.mem_mul]
  constructor
  · rintro ⟨⟨front, inLeft, behind, member, split⟩, separate⟩
    obtain ⟨mark, back, rfl, isOne, inRight⟩ := mem_oneOf_mul_iff.mp member
    obtain ⟨first, second, rfl, firstFiltered, secondFiltered⟩ :=
      List.filter_eq_append_iff.mp split.symm
    obtain ⟨underscores, last, rfl, dropped, -, lastFiltered⟩ :=
      List.filter_eq_cons_iff.mp secondFiltered
    rw [← List.append_assoc, underscoresSeparate_append_cons (each mark isOne),
      Bool.and_eq_true] at separate
    refine ⟨first ++ underscores, ⟨?_, separate.1⟩, mark :: last, ?_, by simp⟩
    · rwa [List.filter_append, List.filter_eq_nil_iff.mpr dropped, List.append_nil, firstFiltered]
    · rw [cons_mem_oneOf_mul_iff]
      exact ⟨isOne, lastFiltered ▸ inRight, separate.2⟩
  · rintro ⟨front, ⟨inLeft, frontSeparate⟩, behind, member, rfl⟩
    obtain ⟨mark, back, rfl, isOne, inRight, backSeparate⟩ := mem_oneOf_mul_iff.mp member
    have isMark := each mark isOne
    refine ⟨⟨front.filter (· ≠ .char '_'), inLeft, mark :: back.filter (· ≠ .char '_'),
      cons_mem_oneOf_mul_iff.mpr ⟨isOne, inRight⟩, by simp [isMark.2]⟩, ?_⟩
    rw [underscoresSeparate_append_cons isMark, frontSeparate, backSeparate]
    rfl

theorem separated_oneOf_mul :
    separated (oneOf marks * right) = oneOf marks * separated right := by
  have parted := separated_mul_oneOf_mul each 1 right
  rwa [separated_one, one_mul, one_mul] at parted

theorem separated_optional_mul :
    separated ((1 + oneOf marks) * right) = (1 + oneOf marks) * separated right := by
  rw [add_mul, one_mul, separated_add, separated_oneOf_mul each, add_mul, one_mul]

theorem separated_mul_optional :
    separated (left * (1 + oneOf marks * right)) =
      separated left * (1 + oneOf marks * separated right) := by
  rw [mul_add, mul_one, separated_add, separated_mul_oneOf_mul each, mul_add, mul_one]

end Marks

/-! ### Groups -/

/-- Digits, at least one. -/
def run : Language Symbol :=
  spelled Symbol.digit? (· ≠ [])

theorem mem_run_mul_iff {language : Language Symbol} (ends : EndsDigits language)
    (content : Text) :
    content ∈ run * language ↔
      (digitRun Symbol.digit? content).1 ≠ [] ∧
        (digitRun Symbol.digit? content).2 ∈ language :=
  mem_spelled_mul_iff ends content

theorem mem_run_iff {content : Text} :
    content ∈ run ↔ content ≠ [] ∧ ∀ symbol ∈ content, symbol.digit?.isSome = true := by
  constructor
  · rintro ⟨found, spelled, nonempty⟩
    refine ⟨?_, fun symbol member => ?_⟩
    · rintro rfl
      exact nonempty (List.map_eq_nil_iff.mp spelled.symm)
    · have digit : symbol.digit? ∈ found.map some := spelled ▸ List.mem_map_of_mem member
      obtain ⟨value, -, same⟩ := List.mem_map.mp digit
      rw [← same]
      rfl
  · rintro ⟨nonempty, digits⟩
    have spelled : content.map Symbol.digit? = (content.filterMap Symbol.digit?).map some := by
      rw [List.map_filterMap_some_eq_filter_map_isSome, eq_comm, List.filter_eq_self]
      exact List.forall_mem_map.mpr digits
    refine ⟨content.filterMap Symbol.digit?, spelled, fun nothing => nonempty ?_⟩
    rwa [nothing, List.map_nil, List.map_eq_nil_iff] at spelled

/-- What may follow a digit inside a group. -/
def groupTail : Language Symbol :=
  (Dialect.reader.separator * Dialect.reader.digit)∗

theorem cons_mem_group_iff {symbol : Symbol} {rest : Text} :
    symbol :: rest ∈ Dialect.reader.group ↔ symbol.digit?.isSome = true ∧ rest ∈ groupTail :=
  cons_mem_oneOf_mul_iff

theorem nil_not_mem_group : [] ∉ Dialect.reader.group :=
  nil_not_mem_oneOf_mul

theorem groupTail_eq :
    groupTail = 1 + (Dialect.reader.group + letter '_' * Dialect.reader.group) := by
  calc
    groupTail = 1 + (1 + letter '_') * Dialect.reader.digit * groupTail :=
      (Language.one_add_self_mul_kstar_eq_kstar _).symm
    _ = 1 + (Dialect.reader.group + letter '_' * Dialect.reader.group) := by
      rw [mul_assoc, add_mul, one_mul]
      rfl

theorem cons_mem_groupTail_iff {symbol : Symbol} {rest : Text} :
    symbol :: rest ∈ groupTail ↔
      symbol :: rest ∈ Dialect.reader.group ∨
        symbol = .char '_' ∧ rest ∈ Dialect.reader.group := by
  conv_lhs => rw [groupTail_eq]
  rw [Language.mem_add, Language.mem_add, Language.mem_one, letter, cons_mem_oneOf_mul_iff]
  simp

theorem digit?_underscore : (Symbol.char '_').digit? = none := by
  decide

/-- The underscores of a text of digits and underscores are separated where it is a group, or
what may follow a digit inside a group if a digit stands in front of it. -/
theorem underscoresSeparate_iff (content : Text) :
    ((FloatNumeral.underscoresSeparate true content = true ∧
        ∀ symbol ∈ content, symbol ≠ .char '_' → symbol.digit?.isSome = true) ↔
      content ∈ groupTail) ∧
    ((FloatNumeral.underscoresSeparate false content = true ∧
        ∀ symbol ∈ content, symbol ≠ .char '_' → symbol.digit?.isSome = true) ↔
      content = [] ∨ content ∈ Dialect.reader.group) := by
  induction content with
  | nil => simp [FloatNumeral.underscoresSeparate, groupTail, Language.nil_mem_kstar]
  | cons symbol rest hypothesis =>
      obtain ⟨behindDigit, atStart⟩ := hypothesis
      by_cases underscore : symbol = .char '_'
      · subst underscore
        have inGroup : rest ∈ Dialect.reader.group ↔
            rest.head?.any (·.digit?.isSome) = true ∧
              (rest = [] ∨ rest ∈ Dialect.reader.group) := by
          cases rest with
          | nil => simp [nil_not_mem_group]
          | cons next others => simp +contextual [cons_mem_group_iff]
        rw [underscoresSeparate_underscore, underscoresSeparate_underscore,
          cons_mem_groupTail_iff, cons_mem_group_iff, digit?_underscore, inGroup, ← atStart]
        simp [and_assoc]
      · rw [underscoresSeparate_of_ne underscore, underscoresSeparate_of_ne underscore,
          cons_mem_groupTail_iff, cons_mem_group_iff]
        cases digit : symbol.digit? with
        | none => simp [underscore, digit]
        | some value => simp [underscore, digit, behindDigit]

/-- A run of digits with separated underscores is a group. -/
theorem separated_run : separated run = Dialect.reader.group := by
  ext content
  have nonempty : content ∈ Dialect.reader.group → content.filter (· ≠ .char '_') ≠ [] := by
    intro member
    cases content with
    | nil => exact absurd member nil_not_mem_group
    | cons symbol rest =>
        have digit := (cons_mem_group_iff.mp member).1
        have other : symbol ≠ .char '_' := by
          rintro rfl
          rw [digit?_underscore] at digit
          cases digit
        simp [other]
  have digits : (∀ symbol ∈ content.filter (· ≠ .char '_'), symbol.digit?.isSome = true) ↔
      ∀ symbol ∈ content, symbol ≠ .char '_' → symbol.digit?.isSome = true := by
    simp [List.mem_filter]
  rw [mem_separated_iff, mem_run_iff, digits]
  constructor
  · rintro ⟨⟨something, digits⟩, separate⟩
    rcases (underscoresSeparate_iff content).2.mp ⟨separate, digits⟩ with rfl | member
    · exact absurd rfl something
    · exact member
  · intro member
    obtain ⟨separate, digits⟩ := (underscoresSeparate_iff content).2.mpr (.inr member)
    exact ⟨⟨nonempty member, digits⟩, separate⟩

/-! ## Decimal numbers -/

theorem isMark_of_sign {symbol : Symbol} (isSign : symbol = .char '+' ∨ symbol = .char '-') :
    IsMark symbol := by
  rcases isSign with rfl | rfl <;> exact ⟨by decide, by decide⟩

theorem isMark_of_exponentMark {symbol : Symbol}
    (isMark : symbol = .char 'e' ∨ symbol = .char 'E') : IsMark symbol := by
  rcases isMark with rfl | rfl <;> exact ⟨by decide, by decide⟩

theorem isMark_point {symbol : Symbol} (isPoint : symbol = .char '.') : IsMark symbol := by
  subst isPoint
  exact ⟨by decide, by decide⟩

/-- With the underscores taken out and separated, the runs of a decimal number are groups. -/
theorem separated_decimal : separated (decimal run) = decimal Dialect.reader.group := by
  rw [decimal, exponent, exponentMark, separated_mul_optional fun _ => isMark_of_exponentMark, sign,
    separated_optional_mul fun _ => isMark_of_sign, separated_add, letter,
    separated_mul_optional fun _ => isMark_point, separated_oneOf_mul fun _ => isMark_point,
    separated_add, separated_one, separated_run]
  rfl

/-- A decimal number by its first symbol. -/
theorem decimal_eq (group : Language Symbol) :
    decimal group =
      group * (exponent group + letter '.' * ((1 + group) * exponent group)) +
        letter '.' * (group * exponent group) := by
  rw [decimal, add_mul, mul_assoc, mul_assoc, add_mul, one_mul, mul_assoc]

theorem one_add_run : 1 + run = spelled Symbol.digit? fun _ => True := by
  ext content
  rw [Language.mem_add, Language.mem_one]
  constructor
  · rintro (rfl | ⟨found, spelled, -⟩)
    · exact ⟨[], rfl, trivial⟩
    · exact ⟨found, spelled, trivial⟩
  · rintro ⟨found, spelled, -⟩
    by_cases nothing : found = []
    · rw [nothing] at spelled
      exact .inl (List.map_eq_nil_iff.mp spelled)
    · exact .inr ⟨found, spelled, nothing⟩

theorem endsDigits_exponent (group : Language Symbol) : EndsDigits (exponent group) :=
  Begins.one.add (Begins.oneOf_mul (fun _ isMark => (isMark_of_exponentMark isMark).1) _)

theorem digit?_point : (Symbol.char '.').digit? = none := by
  decide

/-- What a decimal number is behind its whole part. -/
theorem mem_decimal_iff (content : Text) :
    content ∈ decimal run ↔
      (digitRun Symbol.digit? content).1 ≠ [] ∧
          (digitRun Symbol.digit? content).2 ∈
            exponent run + letter '.' * ((1 + run) * exponent run) ∨
        (digitRun Symbol.digit? content).1 = [] ∧
          (digitRun Symbol.digit? content).2 ∈ letter '.' * (run * exponent run) := by
  have whole : EndsDigits (exponent run + letter '.' * ((1 + run) * exponent run)) :=
    (endsDigits_exponent run).add (Begins.letter_mul digit?_point _)
  have alone : EndsDigits (letter '.' * (run * exponent run)) := Begins.letter_mul digit?_point _
  rw [decimal_eq, Language.mem_add, mem_run_mul_iff whole, mem_iff_of_endsDigits alone]

/-! ### Signs -/

/-- Whether no text of a language begins with a sign. -/
def Unsigned (language : Language Symbol) : Prop :=
  Begins (fun symbol => ¬(symbol = .char '+' ∨ symbol = .char '-')) language

variable {language : Language Symbol}

theorem cons_mem_signed_iff (unsigned : Unsigned language) {symbol : Symbol}
    (isSign : symbol = .char '+' ∨ symbol = .char '-') (rest : Text) :
    symbol :: rest ∈ (1 + sign) * language ↔ rest ∈ language := by
  have notInside : symbol :: rest ∉ language := fun member =>
    unsigned _ member symbol rfl isSign
  rw [add_mul, one_mul, Language.mem_add, sign, cons_mem_oneOf_mul_iff]
  simp [notInside, isSign]

theorem mem_signed_iff_of_ne {content : Text} (noPlus : ∀ rest, content ≠ .char '+' :: rest)
    (noMinus : ∀ rest, content ≠ .char '-' :: rest) :
    content ∈ (1 + sign) * language ↔ content ∈ language := by
  have notSigned : content ∉ sign * language := by
    intro member
    obtain ⟨symbol, rest, rfl, rfl | rfl, -⟩ := mem_oneOf_mul_iff.mp member
    · exact noPlus rest rfl
    · exact noMinus rest rfl
  rw [add_mul, one_mul, Language.mem_add, or_iff_left notSigned]

/-- A sign is taken off as the reader does it. -/
theorem mem_signed_iff (unsigned : Unsigned language) (content : Text) :
    content ∈ (1 + sign) * language ↔
      (match content with
        | .char '-' :: rest => (true, rest)
        | .char '+' :: rest => (false, rest)
        | _ => (false, content)).2 ∈ language := by
  split
  next rest => exact cons_mem_signed_iff unsigned (.inr rfl) rest
  next rest => exact cons_mem_signed_iff unsigned (.inl rfl) rest
  next noMinus noPlus => exact mem_signed_iff_of_ne noPlus noMinus

theorem unsigned_run : Unsigned run := by
  intro content member symbol isFirst isSign
  have digit := (mem_run_iff.mp member).2 symbol (List.mem_of_mem_head? isFirst)
  rw [(isMark_of_sign isSign).1] at digit
  cases digit

/-! ### The reader -/

/-- A run that is read up to the end of a text takes all of it. -/
theorem isSome_iff_mem_run {α : Type} (result : List Digit → α) (content : Text) :
    (match digitRun Symbol.digit? content with
      | ([], _) => none
      | (found, []) => some (result found)
      | (_, _ :: _) => none).isSome = true ↔ content ∈ run := by
  rw [run, mem_spelled_iff]
  obtain ⟨found, rest⟩ := digitRun Symbol.digit? content
  cases found <;> cases rest <;> simp

theorem exponentPart_isSome_iff (content : Text) :
    (FloatNumeral.exponentPart content).isSome = true ↔ content ∈ exponent run := by
  rw [exponent, Language.mem_add, Language.mem_one, exponentMark]
  cases content with
  | nil => simp [FloatNumeral.exponentPart]
  | cons mark rest =>
      rw [cons_mem_oneOf_mul_iff]
      simp only [FloatNumeral.exponentPart, reduceCtorEq, false_or]
      split
      next isMark =>
        rw [and_iff_right isMark, mem_signed_iff unsigned_run]
        exact isSome_iff_mem_run _ _
      next other => simp [other]

theorem cons_point_notMem_exponent (group : Language Symbol) (rest : Text) :
    .char '.' :: rest ∉ exponent group := by
  rw [exponent, Language.mem_add, Language.mem_one, exponentMark, cons_mem_oneOf_mul_iff]
  simp

theorem notMem_letter_mul_of_ne {value : Char} {content : Text}
    (other : ∀ rest, content ≠ .char value :: rest) : content ∉ letter value * language := by
  intro member
  obtain ⟨symbol, rest, rfl, rfl, -⟩ := mem_oneOf_mul_iff.mp member
  exact other rest rfl

theorem decimalPart_isSome_iff (negative : Bool) (content : Text) :
    (FloatNumeral.decimalPart negative content).isSome = true ↔ content ∈ decimal run := by
  rw [mem_decimal_iff]
  simp only [FloatNumeral.decimalPart]
  obtain ⟨whole, rest⟩ := digitRun Symbol.digit? content
  simp only [Language.mem_add]
  split
  next after =>
    have behindPoint : after ∈ (1 + run) * exponent run ↔
        (digitRun Symbol.digit? after).2 ∈ exponent run := by
      rw [one_add_run, mem_spelled_mul_iff (endsDigits_exponent run)]
      exact and_iff_right trivial
    rw [letter, cons_mem_oneOf_mul_iff, cons_mem_oneOf_mul_iff, behindPoint,
      mem_run_mul_iff (endsDigits_exponent run)]
    obtain ⟨fraction, rest⟩ := digitRun Symbol.digit? after
    cases whole <;> cases fraction <;>
      simp [cons_point_notMem_exponent, exponentPart_isSome_iff]
  next noPoint =>
    cases whole <;>
      simp [notMem_letter_mul_of_ne noPoint, exponentPart_isSome_iff]

/-! ### Names of numbers -/

theorem mem_special_iff {content : Text} :
    content ∈ Dialect.reader.special ↔
      (FloatNumeral.small content = text "inf" ∨ FloatNumeral.small content = text "infinity") ∨
        FloatNumeral.small content = text "nan" := by
  change FloatNumeral.small content ∈ [text "inf", text "infinity", text "nan"] ↔ _
  simp [or_assoc]

/-- Whether a symbol is neither a digit nor a sign nor a quote. -/
def isWordly (symbol : Symbol) : Bool :=
  symbol.digit?.isNone && symbol ∉ .char '+' :: .char '-' :: quotes

/-- No capital letter is a digit, a sign or a quote, so the small letters tell. -/
theorem isWordly_of_toLower {value : Char} (small : isWordly (.char value.toLower) = true) :
    isWordly (.char value) = true := by
  have capitals : ∀ place < 26, isWordly (.char (.ofNat (65 + place))) = true := by
    decide
  by_cases isCapital : value.val ≥ 'A'.val ∧ value.val ≤ 'Z'.val
  · have low : 65 ≤ value.toNat := isCapital.1
    have high : value.toNat ≤ 90 := isCapital.2
    have capital := capitals (value.toNat - 65) (by omega)
    rwa [Nat.add_sub_cancel' low, Char.ofNat_toNat] at capital
  · have same : value.toLower = value := dif_neg isCapital
    rwa [same] at small

theorem isWordly_of_mem_special {content : Text} (named : content ∈ Dialect.reader.special)
    {symbol : Symbol} (member : symbol ∈ content) : isWordly symbol = true := by
  have inNames : ∀ name ∈ [text "inf", text "infinity", text "nan"], ∀ other ∈ name,
      isWordly other = true := by
    decide
  cases symbol with
  | stray offset => rfl
  | lone surrogate => rfl
  | char value =>
      have lowered : Symbol.char value.toLower ∈ FloatNumeral.small content :=
        List.mem_map.mpr ⟨_, member, rfl⟩
      exact isWordly_of_toLower (inNames _ named _ lowered)

/-- A number without its sign begins with a digit, a point or a name. -/
theorem begins_number {condition : Symbol → Prop}
    (digits : ∀ symbol : Symbol, symbol.digit?.isSome = true → condition symbol)
    (point : condition (.char '.'))
    (names : ∀ symbol, isWordly symbol = true → condition symbol) :
    Begins condition (decimal Dialect.reader.group + Dialect.reader.special) := by
  rw [decimal_eq]
  refine ((?_ : Begins condition _).add (Begins.letter_mul point _)).add ?_
  · rw [Dialect.group, mul_assoc, Dialect.digit]
    exact Begins.oneOf_mul digits _
  · intro content named symbol isFirst
    exact names symbol (isWordly_of_mem_special named (List.mem_of_mem_head? isFirst))

theorem unsigned_number :
    Unsigned (decimal Dialect.reader.group + Dialect.reader.special) := by
  refine begins_number (fun symbol digit isSign => ?_) (by decide) ?_
  · rw [(isMark_of_sign isSign).1] at digit
    cases digit
  · rintro symbol wordly (rfl | rfl) <;> cases wordly

/-- A number begins with no quote. -/
theorem begins_number_not_quote :
    Begins (· ∉ quotes) Dialect.reader.number := by
  have unsigned :
      Begins (· ∉ quotes) (decimal Dialect.reader.group + Dialect.reader.special) := by
    refine begins_number (fun symbol digit listed => ?_) (by decide) ?_
    · rcases mem_quotes_iff.mp listed with rfl | rfl <;> cases digit
    · rintro symbol wordly listed
      rcases mem_quotes_iff.mp listed with rfl | rfl <;> cases wordly
  rw [Dialect.number, add_mul, one_mul]
  refine unsigned.add (Begins.oneOf_mul ?_ _)
  rintro symbol (rfl | rfl) <;> decide

/-- What the reader takes behind a sign. -/
theorem isSome_unsigned_iff (negative : Bool) (body : Text) :
    (if FloatNumeral.small body = text "inf" ∨ FloatNumeral.small body = text "infinity" then
        some (FloatNumeral.infinite negative)
      else if FloatNumeral.small body = text "nan" then some FloatNumeral.undefined
      else if FloatNumeral.underscoresSeparate false body then
        (FloatNumeral.decimalPart negative (body.filter (· ≠ .char '_'))).map FloatNumeral.finite
      else none).isSome = true ↔
      body ∈ decimal Dialect.reader.group + Dialect.reader.special := by
  rw [Language.mem_add, ← separated_decimal, mem_separated_iff, mem_special_iff]
  split
  next named => simp [named]
  next finite =>
    split
    next undefined => simp [undefined]
    next defined =>
      split
      next separate =>
        rw [Option.isSome_map, decimalPart_isSome_iff]
        simp [finite, defined, separate]
      next mixed => simp [finite, defined, mixed]

/-- The reader takes the floating point numerals that are numbers of its dialect. -/
theorem read_isSome_iff (content : Text) :
    (FloatNumeral.read content).isSome = true ↔ content ∈ Dialect.reader.number := by
  rw [Dialect.number, mem_signed_iff unsigned_number]
  exact isSome_unsigned_iff _ _

theorem mem_groupTail_of_forall {content : Text}
    (digits : ∀ symbol ∈ content, symbol.digit?.isSome = true) : content ∈ groupTail := by
  induction content with
  | nil => exact Language.nil_mem_kstar _
  | cons symbol rest hypothesis =>
      obtain ⟨first, others⟩ := List.forall_mem_cons.mp digits
      exact cons_mem_groupTail_iff.mpr (.inl (cons_mem_group_iff.mpr ⟨first, hypothesis others⟩))

theorem mem_group_of_mem_run {content : Text} (member : content ∈ run) :
    content ∈ Dialect.reader.group := by
  obtain ⟨nonempty, digits⟩ := mem_run_iff.mp member
  cases content with
  | nil => exact absurd rfl nonempty
  | cons symbol rest =>
      obtain ⟨first, others⟩ := List.forall_mem_cons.mp digits
      exact cons_mem_group_iff.mpr ⟨first, mem_groupTail_of_forall others⟩

theorem mem_decimal_of_mem_group {group : Language Symbol} {content : Text}
    (member : content ∈ group) : content ∈ decimal group := by
  rw [decimal_eq, mul_add]
  have whole : content ++ [] ∈ group * exponent group :=
    Language.append_mem_mul member (.inl rfl)
  rw [List.append_nil] at whole
  exact .inl (.inl whole)

/-- A whole number is a number. -/
theorem mem_number_of_wholeNumber {literal : Text}
    (whole : (wholeNumber literal).isSome = true) : literal ∈ Dialect.reader.number := by
  rw [Dialect.number, mem_signed_iff unsigned_number]
  exact .inl (mem_decimal_of_mem_group (mem_group_of_mem_run
    ((isSome_iff_mem_run _ _).mp whole)))

end SqlDump.Literal
