import SqlDump.Proofs.Literal.Fields

/-!
# Which texts are literals

A text is read as a value, or refused for having none, exactly where it is a literal of the
reader's dialect. The server's dialect is the part of it whose literals are plain: a word or
a number of ASCII symbols with a digit and no underscore, or a body between quotes whose content
is of such symbols where the column asks for a moment or a span.

Main statement: `decode_accepts_iff`.
-/

namespace SqlDump.Literal

open Text

open scoped Computability

/-! ## The reader's dialect -/

/-- Whether an error refuses a literal only because it has no value: it stands for too much, or
its content has no octets. -/
def LiteralError.isValueless : LiteralError → Bool
  | .integerOutOfRange _ => true
  | .tooManyDigits _ => true
  | .temporal (.momentOutOfRange _) => true
  | .temporal (.spanOutOfRange _) => true
  | .temporal (.numeral _) => true
  | .unwritable _ => true
  | _ => false

/-- Whether a result is that of a literal: a value, or a refusal for having none. -/
def IsAccepted (result : Except LiteralError Value) : Prop :=
  ∀ error, result = .error error → error.isValueless = true

@[simp] theorem isAccepted_ok (value : Value) : IsAccepted (.ok value) :=
  fun _ same => nomatch same

@[simp] theorem isAccepted_error_iff {error : LiteralError} :
    IsAccepted (.error error) ↔ error.isValueless = true := by
  constructor
  · exact fun accepted => accepted error rfl
  · rintro valueless _ ⟨⟩
    exact valueless

/-- Every content is that of a literal of octets. -/
theorem isAccepted_readOctets (content : Text) : IsAccepted (readOctets content) := by
  rw [readOctets]
  cases Encoding.utf8.encode content <;> simp [LiteralError.isValueless]

theorem isAccepted_readContent_iff (kind : Option Kind) (content : Text) :
    IsAccepted (readContent kind content) ↔ content ∈ Dialect.reader.contents kind := by
  cases kind with
  | none => exact iff_of_true (isAccepted_readOctets content) trivial
  | some kind =>
      cases kind with
      | null | integer | float | double | bytes =>
          exact iff_of_true (isAccepted_readOctets content) trivial
      | dateTime =>
          have taken := takes_momentFields content
          simp only [and_true, true_and] at taken
          rw [Dialect.contents, ← taken]
          simp only [readContent, readMoment]
          cases momentFields content with
          | none => simp [LiteralError.isValueless]
          | some moment =>
              cases storable : isStorable moment <;> simp [storable, LiteralError.isValueless]
      | time =>
          have taken : Takes spanFields (fun _ => True) True Dialect.reader.span :=
            takes_spanFields (by simp)
          have read := taken content
          simp only [and_true, true_and] at read
          rw [Dialect.contents, ← read]
          simp only [readContent, readSpan]
          cases spanFields content with
          | none => simp [LiteralError.isValueless]
          | some fields =>
              obtain ⟨negative, hours, minutes, seconds, microseconds⟩ := fields
              by_cases late : 59 < minutes ∨ 59 < seconds
              · simp [late, LiteralError.isValueless]
              · by_cases long : Numeral.limit < hours.length <;>
                  simp [late, long, LiteralError.isValueless]

theorem mem_quoted_iff {quote : Symbol} (listed : quote ∈ quotes) (body : Text)
    (contents : Language Symbol) :
    quote :: (body ++ [quote]) ∈ quoted contents ↔
      ∃ content, unescape quote body = .ok content ∧ content ∈ contents := by
  constructor
  · rintro ⟨other, -, inner, content, same, undone, member⟩
    obtain ⟨rfl, same⟩ := List.cons.inj same
    obtain ⟨rfl, -⟩ := List.append_inj' same rfl
    exact ⟨content, undone, member⟩
  · rintro ⟨content, undone, member⟩
    exact ⟨quote, listed, body, content, rfl, undone, member⟩

theorem isAccepted_readBody_iff (kind : Option Kind) {quote : Symbol} (listed : quote ∈ quotes)
    (body : Text) :
    IsAccepted (readBody kind quote body) ↔
      quote :: (body ++ [quote]) ∈ quoted (Dialect.reader.contents kind) := by
  rw [mem_quoted_iff listed, readBody]
  cases unescape quote body with
  | error error => simp [LiteralError.isValueless]
  | ok content => simp [isAccepted_readContent_iff]

theorem isAccepted_readFloat_iff (kind : Option Kind) (literal : Text) :
    IsAccepted (readFloat kind literal) ↔ literal ∈ Dialect.reader.number := by
  rw [← read_isSome_iff, readFloat]
  cases FloatNumeral.read literal <;> simp [LiteralError.isValueless]

theorem isAccepted_readInteger (negative : Bool) (found : List Digit) :
    IsAccepted (readInteger negative found) := by
  simp only [readInteger]
  split
  next => simp [LiteralError.isValueless]
  next => split <;> simp [LiteralError.isValueless]

theorem isAccepted_readNumber_iff (kind : Option Kind) (literal : Text) :
    IsAccepted (readNumber kind literal) ↔ literal ∈ Dialect.reader.number := by
  simp only [readNumber]
  split
  next negative found whole =>
    split
    next => exact isAccepted_readFloat_iff kind literal
    next =>
      exact iff_of_true (isAccepted_readInteger negative found)
        (mem_number_of_wholeNumber (by rw [whole]; rfl))
  next => exact isAccepted_readFloat_iff kind literal

theorem capitals_eq_null_iff (literal : Text) :
    Text.capitals literal = text "NULL" ↔ literal ∈ anyCase "NULL" :=
  capitals_eq_text_iff (by decide) literal

theorem not_mem_anyCase_of_quote {quote : Symbol} (listed : quote ∈ quotes) (rest : Text) :
    quote :: rest ∉ anyCase "NULL" := by
  rw [← capitals_eq_null_iff]
  exact capitals_ne_null_of_quote listed rest

theorem not_mem_number_of_quote {quote : Symbol} (listed : quote ∈ quotes) (rest : Text) :
    quote :: rest ∉ Dialect.reader.number :=
  fun member => begins_number_not_quote _ member quote rfl listed

/-- The reader accepts the literals of its dialect and no other text. -/
theorem isAccepted_decode_iff (kind : Option Kind) (content : Text) :
    IsAccepted (decode kind content) ↔
      Text.strip content ∈ Dialect.reader.grammar kind := by
  have reads := reads_decode kind content
  generalize Text.strip content = literal at reads
  generalize decode kind content = result at reads
  rw [Dialect.grammar, Language.mem_add, Language.mem_add, ← capitals_eq_null_iff]
  cases reads with
  | empty =>
      refine iff_of_false (by simp [LiteralError.isValueless]) ?_
      rintro ((word | number) | ⟨quote, -, body, content, same, -⟩)
      · cases word
      · rw [← read_isSome_iff] at number
        cases number
      · cases same
  | null word => exact iff_of_true (isAccepted_ok _) (.inl (.inl word))
  | quoted body listed =>
      rw [isAccepted_readBody_iff kind listed]
      simp [capitals_ne_null_of_quote listed, not_mem_number_of_quote listed]
  | @unterminated quote rest listed opened =>
      refine iff_of_false (by simp [LiteralError.isValueless]) ?_
      rintro ((word | number) | ⟨other, -, body, content, same, -⟩)
      · exact capitals_ne_null_of_quote listed rest word
      · exact not_mem_number_of_quote listed rest number
      · obtain ⟨rfl, rfl⟩ := List.cons.inj same
        exact opened body rfl
  | @number first rest bare notNull =>
      rw [isAccepted_readNumber_iff, or_iff_right notNull, or_iff_left]
      rintro ⟨quote, listed, body, content, same, -⟩
      exact bare ((List.cons.inj same).1 ▸ listed)

/-! ## The server's dialect -/

/-- Whether a symbol means the same in both dialects. -/
def isOrdinary (symbol : Symbol) : Bool :=
  symbol.place < 128 && symbol ∉ .char '_' :: .char '\n' :: quotes

/-- The texts of ordinary symbols with a digit among them. -/
def plainNumber : Language Symbol :=
  {literal | (∀ symbol ∈ literal, isOrdinary symbol = true) ∧
    ∃ symbol ∈ literal, symbol.digit?.isSome = true}

/-- The contents of ordinary symbols, where the column asks for a moment or a span. -/
def plainContents (kind : Option Kind) : Language Symbol :=
  {content | kind = some .dateTime ∨ kind = some .time →
    ∀ symbol ∈ content, isOrdinary symbol = true}

/-- The literals in which nothing is to be seen of what the reader's dialect adds. -/
def plain (kind : Option Kind) : Language Symbol :=
  anyCase "NULL" + plainNumber + quoted (plainContents kind)

/-- The digits of the server's dialect are the ordinary ones. -/
theorem asciiDigit?_eq_some_iff {symbol : Symbol} {digit : Digit} :
    Dialect.asciiDigit? symbol = some digit ↔
      symbol.digit? = some digit ∧ isOrdinary symbol = true := by
  have ascii : ∀ code < 128, Dialect.asciiDigit? (.char (.ofNat code)) =
      if isOrdinary (.char (.ofNat code)) then (Symbol.char (.ofNat code)).digit? else none := by
    decide +kernel
  cases symbol with
  | stray offset => simp [Dialect.asciiDigit?, Symbol.digit?]
  | lone surrogate => simp [Dialect.asciiDigit?, Symbol.digit?]
  | char value =>
      by_cases low : value.toNat < 128
      · have same := ascii value.toNat low
        rw [Char.ofNat_toNat] at same
        rw [same]
        cases isOrdinary (.char value) <;> simp
      · have beyond : ¬('0' ≤ value ∧ value ≤ '9') := by
          rintro ⟨-, last⟩
          have small : value.toNat ≤ 57 := last
          omega
        simp [Dialect.asciiDigit?, isOrdinary, low, beyond]

theorem isSome_asciiDigit?_iff (symbol : Symbol) :
    (Dialect.asciiDigit? symbol).isSome = true ↔
      symbol.digit?.isSome = true ∧ isOrdinary symbol = true := by
  simp only [Option.isSome_iff_exists, asciiDigit?_eq_some_iff, exists_and_right]

/-- Digits that are ordinary are digits of the server's dialect. -/
theorem restrict_spelled (condition : List Digit → Prop) :
    restrict (isOrdinary · = true) (spelled Symbol.digit? condition) =
      spelled Dialect.asciiDigit? condition := by
  have each (content : Text) (found : List Digit) :
      content.map Dialect.asciiDigit? = found.map some ↔
        content.map Symbol.digit? = found.map some ∧
          ∀ symbol ∈ content, isOrdinary symbol = true := by
    induction content generalizing found with
    | nil => simp
    | cons symbol rest hypothesis =>
        cases found with
        | nil => simp
        | cons digit found =>
            simp only [List.map_cons, List.cons.injEq, asciiDigit?_eq_some_iff, hypothesis,
              List.forall_mem_cons]
            exact and_and_and_comm
  ext content
  constructor
  · rintro ⟨⟨found, spelled, holds⟩, ordinary⟩
    exact ⟨found, (each content found).mpr ⟨spelled, ordinary⟩, holds⟩
  · rintro ⟨found, spelled, holds⟩
    obtain ⟨spelled, ordinary⟩ := (each content found).mp spelled
    exact ⟨⟨found, spelled, holds⟩, ordinary⟩

theorem restrict_letter {value : Char} (ordinary : isOrdinary (.char value) = true) :
    restrict (isOrdinary · = true) (letter value) = letter value := by
  apply restrict_oneOf_of_forall
  rintro symbol rfl
  exact ordinary

theorem restrict_reader_ending :
    restrict (isOrdinary · = true) Dialect.reader.ending = Dialect.server.ending := by
  rw [Dialect.reader, restrict_add, restrict_one, restrict_letter_of_not (by decide), add_zero]
  rfl

theorem restrict_field (least most : Nat) (condition : List Digit → Prop) :
    restrict (isOrdinary · = true) (Dialect.reader.field least most condition) =
      Dialect.server.field least most condition :=
  restrict_spelled _

theorem restrict_fraction :
    restrict (isOrdinary · = true) Dialect.reader.fraction = Dialect.server.fraction := by
  simp only [Dialect.fraction, restrict_add, restrict_mul, restrict_reader_ending,
    restrict_field, @restrict_letter '.' rfl]

theorem restrict_clock (sixtieth : Nat → Prop) :
    restrict (isOrdinary · = true) (Dialect.reader.clock sixtieth) =
      Dialect.server.clock sixtieth := by
  simp only [Dialect.clock, restrict_mul, restrict_fraction, restrict_field,
    @restrict_letter ':' rfl]

theorem restrict_moment :
    restrict (isOrdinary · = true) Dialect.reader.moment = Dialect.server.moment := by
  simp only [Dialect.moment, Dialect.date, restrict_add, restrict_mul, restrict_clock,
    restrict_reader_ending, restrict_field, @restrict_letter '-' rfl,
    @restrict_letter ' ' rfl, @restrict_letter 'T' rfl,
    @restrict_letter ':' rfl]

theorem restrict_span :
    restrict (isOrdinary · = true) Dialect.reader.span = Dialect.server.span := by
  simp only [Dialect.span, Dialect.spanWhere, restrict_add, restrict_one, restrict_mul,
    restrict_clock, Dialect.reader_digit?, restrict_spelled, Dialect.server_digit?,
    @restrict_letter '-' rfl, @restrict_letter ':' rfl]

theorem restrict_group :
    restrict (isOrdinary · = true) Dialect.reader.group = Dialect.server.group := by
  have digit : restrict (isOrdinary · = true) Dialect.reader.digit = Dialect.server.digit := by
    simp only [Dialect.digit, restrict_oneOf, Dialect.reader_digit?, Dialect.server_digit?,
      isSome_asciiDigit?_iff]
  have separator : restrict (isOrdinary · = true) Dialect.reader.separator =
      Dialect.server.separator := by
    rw [Dialect.reader, restrict_add, restrict_one, restrict_letter_of_not (by decide), add_zero]
    rfl
  simp only [Dialect.group, restrict_mul, restrict_kstar, digit, separator]

/-- The ordinary numbers of the reader's dialect that are no names. -/
theorem restrict_signed_decimal :
    restrict (isOrdinary · = true) ((1 + sign) * decimal Dialect.reader.group) =
      (1 + sign) * decimal Dialect.server.group := by
  have signs : restrict (isOrdinary · = true) sign = sign := by
    apply restrict_oneOf_of_forall
    rintro symbol (rfl | rfl) <;> rfl
  have marks : restrict (isOrdinary · = true) exponentMark = exponentMark := by
    apply restrict_oneOf_of_forall
    rintro symbol (rfl | rfl) <;> rfl
  simp only [decimal, exponent, restrict_mul, restrict_add, restrict_one, signs, marks,
    restrict_group, @restrict_letter '.' rfl]

/-- A decimal number has a digit. -/
theorem exists_digit_of_mem_decimal {content : Text}
    (member : content ∈ (1 + sign) * decimal Dialect.reader.group) :
    ∃ symbol ∈ content, symbol.digit?.isSome = true := by
  have inGroup {front : Text} (isGroup : front ∈ Dialect.reader.group) :
      ∃ symbol ∈ front, symbol.digit?.isSome = true := by
    cases front with
    | nil => exact absurd isGroup nil_not_mem_group
    | cons first rest => exact ⟨first, by simp, (cons_mem_group_iff.mp isGroup).1⟩
  obtain ⟨signed, -, unsigned, isDecimal, rfl⟩ := Language.mem_mul.mp member
  rw [decimal_eq] at isDecimal
  rcases isDecimal with whole | alone
  · obtain ⟨front, isGroup, back, -, rfl⟩ := Language.mem_mul.mp whole
    obtain ⟨symbol, inside, digit⟩ := inGroup isGroup
    exact ⟨symbol, by simp [inside], digit⟩
  · obtain ⟨point, -, behind, isFraction, rfl⟩ := Language.mem_mul.mp alone
    obtain ⟨front, isGroup, back, -, rfl⟩ := Language.mem_mul.mp isFraction
    obtain ⟨symbol, inside, digit⟩ := inGroup isGroup
    exact ⟨symbol, by simp [inside], digit⟩

/-- The name of a number has no digit. -/
theorem not_digit_of_mem_signed_special {content : Text}
    (member : content ∈ (1 + sign) * Dialect.reader.special) {symbol : Symbol}
    (inside : symbol ∈ content) : symbol.digit? = none := by
  obtain ⟨signed, isSigned, name, named, rfl⟩ := Language.mem_mul.mp member
  rcases List.mem_append.mp inside with inSign | inName
  · rcases isSigned with rfl | ⟨other, isSign, rfl⟩
    · cases inSign
    · rw [List.mem_singleton.mp inSign]
      exact (isMark_of_sign isSign).1
  · have wordly := isWordly_of_mem_special named inName
    simp only [isWordly, Bool.and_eq_true, Option.isNone_iff_eq_none] at wordly
    exact wordly.1

/-- The numbers of the server's dialect are the plain ones of the reader's. -/
theorem mem_server_number_iff {literal : Text} :
    literal ∈ Dialect.server.number ↔
      literal ∈ Dialect.reader.number ∧ literal ∈ plainNumber := by
  have server : Dialect.server.number = (1 + sign) * decimal Dialect.server.group := by
    rw [Dialect.number]
    exact congrArg _ (add_zero _)
  rw [server, ← restrict_signed_decimal, Dialect.number, mul_add, mem_restrict_iff,
    Language.mem_add]
  constructor
  · rintro ⟨isDecimal, ordinary⟩
    exact ⟨.inl isDecimal, ordinary, exists_digit_of_mem_decimal isDecimal⟩
  · rintro ⟨isDecimal | named, ordinary, symbol, inside, digit⟩
    · exact ⟨isDecimal, ordinary⟩
    · rw [not_digit_of_mem_signed_special named inside] at digit
      cases digit

theorem mem_server_contents_iff (kind : Option Kind) (content : Text) :
    content ∈ Dialect.server.contents kind ↔
      content ∈ Dialect.reader.contents kind ∧ content ∈ plainContents kind := by
  have free (other : ¬(kind = some .dateTime ∨ kind = some .time)) :
      content ∈ plainContents kind :=
    fun temporal => absurd temporal other
  have bound (temporal : kind = some .dateTime ∨ kind = some .time) :
      content ∈ plainContents kind ↔ ∀ symbol ∈ content, isOrdinary symbol = true :=
    ⟨fun plain => plain temporal, fun ordinary _ => ordinary⟩
  cases kind with
  | none => exact (and_iff_left (free (by simp))).symm
  | some kind =>
      cases kind with
      | null | integer | float | double | bytes => exact (and_iff_left (free (by simp))).symm
      | dateTime =>
          rw [bound (.inl rfl), Dialect.contents, Dialect.contents, ← restrict_moment,
            mem_restrict_iff]
      | time =>
          rw [bound (.inr rfl), Dialect.contents, Dialect.contents, ← restrict_span,
            mem_restrict_iff]

/-- A body is undone to one content, so a literal that is quoted in two ways is so in both at
once. -/
theorem mem_quoted_and_iff {left right both : Language Symbol}
    (each : ∀ content, content ∈ both ↔ content ∈ left ∧ content ∈ right) (literal : Text) :
    literal ∈ quoted both ↔ literal ∈ quoted left ∧ literal ∈ quoted right := by
  constructor
  · rintro ⟨quote, listed, body, content, rfl, undone, member⟩
    obtain ⟨inLeft, inRight⟩ := (each content).mp member
    exact ⟨⟨quote, listed, body, content, rfl, undone, inLeft⟩,
      ⟨quote, listed, body, content, rfl, undone, inRight⟩⟩
  · rintro ⟨⟨quote, listed, body, content, rfl, undone, inLeft⟩, inRight⟩
    obtain ⟨other, same, inRight⟩ := (mem_quoted_iff listed body right).mp inRight
    obtain rfl := Except.ok.inj (undone.symm.trans same)
    exact ⟨quote, listed, body, content, rfl, undone, (each content).mpr ⟨inLeft, inRight⟩⟩

theorem not_mem_quoted_of_head {literal : Text}
    (bare : ∀ first ∈ literal.head?, first ∉ quotes) (contents : Language Symbol) :
    literal ∉ quoted contents := by
  rintro ⟨quote, listed, body, content, rfl, -⟩
  exact bare quote rfl listed

/-- The literals of the server's dialect are the plain ones of the reader's. -/
theorem mem_server_grammar_iff (kind : Option Kind) (literal : Text) :
    literal ∈ Dialect.server.grammar kind ↔
      literal ∈ Dialect.reader.grammar kind ∧ literal ∈ plain kind := by
  simp only [Dialect.grammar, plain, Language.mem_add, mem_server_number_iff,
    mem_quoted_and_iff (mem_server_contents_iff kind)]
  by_cases bare : ∀ first ∈ literal.head?, first ∉ quotes
  · simp only [not_mem_quoted_of_head bare, false_and, or_false]
    exact or_and_left
  · have notNumber : literal ∉ Dialect.reader.number :=
      fun member => bare (begins_number_not_quote literal member)
    have notPlain : literal ∉ plainNumber := by
      rintro ⟨ordinary, -⟩
      refine bare fun first isFirst listed => ?_
      have plainFirst := ordinary first (List.mem_of_mem_head? isFirst)
      rcases mem_quotes_iff.mp listed with rfl | rfl <;> cases plainFirst
    simp only [notNumber, notPlain, false_and, or_false]
    exact or_and_left

/-- The reader takes the literals of its own dialect, and of these the plain ones are the
literals of the server's. -/
theorem decode_accepts_iff (kind : Option Kind) (content : Text) :
    (((∃ value, decode kind content = .ok value) ∨
        ∃ error, decode kind content = .error error ∧ error.isValueless = true) ↔
      Text.strip content ∈ Dialect.reader.grammar kind) ∧
    (Text.strip content ∈ Dialect.server.grammar kind ↔
      Text.strip content ∈ Dialect.reader.grammar kind ∧ Text.strip content ∈ plain kind) := by
  refine ⟨?_, mem_server_grammar_iff kind _⟩
  rw [← isAccepted_decode_iff]
  cases decode kind content with
  | error error => simp
  | ok value => simp

/-- A number with an underscore, and a date with a newline behind it, are read as values, but
they are no literals of the server's dialect. -/
theorem decode_accepts_underscore_and_newline :
    (∃ number, decode none (text "1_000") = .ok (.double number) ∧
        Text.strip (text "1_000") ∉ Dialect.server.grammar none) ∧
      (decode (some .dateTime) (text "'2024-01-05\n'") =
          .ok (.dateTime { year := 2024, month := 1, day := 5 }) ∧
        Text.strip (text "'2024-01-05\n'") ∉ Dialect.server.grammar (some .dateTime)) := by
  refine ⟨⟨Scientific.nearest { negative := false, coefficient := 1000, exponent := 0 },
    by decide +kernel, ?_⟩, by decide +kernel, ?_⟩
  · rw [show Text.strip (text "1_000") = text "1_000" by decide +kernel, mem_server_grammar_iff]
    rintro ⟨-, (word | ⟨ordinary, -⟩) | enclosed⟩
    · exact absurd ((capitals_eq_null_iff _).mpr word) (by decide)
    · exact absurd (ordinary (.char '_') (by decide)) (by decide)
    · exact not_mem_quoted_of_head (by decide) _ enclosed
  · rw [show Text.strip (text "'2024-01-05\n'") =
        .char '\'' :: (text "2024-01-05\n" ++ [.char '\'']) by decide +kernel,
      mem_server_grammar_iff]
    have isQuote : Symbol.char '\'' ∈ quotes := by decide
    rintro ⟨-, (word | ⟨ordinary, -⟩) | enclosed⟩
    · exact not_mem_anyCase_of_quote isQuote _ word
    · exact absurd (ordinary (.char '\'') (by simp)) (by decide)
    · obtain ⟨content, undone, ordinary⟩ := (mem_quoted_iff isQuote _ _).mp enclosed
      have read : unescape (.char '\'') (text "2024-01-05\n") = .ok (text "2024-01-05\n") := by
        decide +kernel
      obtain rfl := Except.ok.inj (read.symm.trans undone)
      exact absurd (ordinary (.inl rfl) (.char '\n') (by decide)) (by decide)

end SqlDump.Literal
