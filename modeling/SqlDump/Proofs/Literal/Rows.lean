import SqlDump.Proofs.Literal.Containment

/-!
# Telling rows apart

A quoted literal ends with its first quote behind no backslash, and a bare one in front of the
first comma or parenthesis. So a literal shows where it ends whatever it holds, a row can be
taken apart into its literals, and a text of rows into single ones: two texts of rows are the
same only where they have the same literals at the same places.

Main statements: `separable_isLiteral` for literals, `joinRow_append_inj` for rows, and
`encodeRows_eq_iff` for whole texts.
-/

namespace SqlDump

/-! ## Fragments that show where they end -/

namespace Text

/-- Whether a text starts with one of the given symbols. -/
def StartsWithOne (marks : List Symbol) (content : Text) : Prop :=
  ∃ mark ∈ marks, content.head? = some mark

/-- Whether fragments show where they end: in front of texts that start with one of the given
symbols, different fragments never make the same text. -/
def Separable (marks : List Symbol) (fragments : Text → Prop) : Prop :=
  ∀ ⦃left right leftRest rightRest : Text⦄, fragments left → fragments right →
    StartsWithOne marks leftRest → StartsWithOne marks rightRest →
      left ++ leftRest = right ++ rightRest → left = right ∧ leftRest = rightRest

/-- What stands behind the first of several fragments: each of the others behind a separator,
and the closing text. -/
def followers (separator closing : Text) : List Text → Text
  | [] => closing
  | next :: more => separator ++ (next ++ followers separator closing more)

theorem intercalate_cons_append (separator closing fragment : Text) (others : List Text) :
    separator.intercalate (fragment :: others) ++ closing =
      fragment ++ followers separator closing others := by
  induction others generalizing fragment with
  | nil => simp [followers]
  | cons next more hypothesis =>
      rw [List.intercalate_cons_cons, List.append_assoc, hypothesis, followers, List.append_assoc]

section Followers

variable {mark last : Symbol} {separator leftRest rightRest : Text} {fragments : Text → Prop}
variable {left right : List Text}

theorem startsWithOne_followers (others : List Text) :
    StartsWithOne [mark, last] (followers (mark :: separator) (last :: leftRest) others) := by
  cases others with
  | nil => exact ⟨last, by simp, rfl⟩
  | cons next more => exact ⟨mark, by simp, rfl⟩

/-- Fragments behind separators are told apart one by one, and the closing text from a
separator by its first symbol. -/
theorem Separable.followers_inj (separable : Separable [mark, last] fragments)
    (different : mark ≠ last) (leftEach : ∀ fragment ∈ left, fragments fragment)
    (rightEach : ∀ fragment ∈ right, fragments fragment)
    (same : followers (mark :: separator) (last :: leftRest) left =
      followers (mark :: separator) (last :: rightRest) right) :
    left = right ∧ leftRest = rightRest := by
  induction left generalizing right with
  | nil =>
      cases right with
      | nil => exact ⟨rfl, (List.cons.inj same).2⟩
      | cons next more => exact absurd (List.cons.inj same).1.symm different
  | cons first others hypothesis =>
      cases right with
      | nil => exact absurd (List.cons.inj same).1 different
      | cons next more =>
          simp only [List.forall_mem_cons] at leftEach rightEach
          obtain ⟨rfl, behind⟩ := separable leftEach.1 rightEach.1
            (startsWithOne_followers others) (startsWithOne_followers more)
            (List.append_cancel_left same)
          obtain ⟨rfl, rest⟩ := hypothesis leftEach.2 rightEach.2 behind
          exact ⟨rfl, rest⟩

/-- Joined fragments are told apart if none of them starts like the text that closes them. -/
theorem Separable.intercalate_inj (separable : Separable [mark, last] fragments)
    (different : mark ≠ last)
    (apart : ∀ fragment, fragments fragment → ∃ first ∈ fragment.head?, first ≠ last)
    (leftEach : ∀ fragment ∈ left, fragments fragment)
    (rightEach : ∀ fragment ∈ right, fragments fragment)
    (same : (mark :: separator).intercalate left ++ last :: leftRest =
      (mark :: separator).intercalate right ++ last :: rightRest) :
    left = right ∧ leftRest = rightRest := by
  have notClosing : ∀ fragment rest others, fragments fragment →
      fragment ++ rest ≠ last :: others := by
    intro fragment rest others isFragment equal
    obtain ⟨first, isFirst, notLast⟩ := apart fragment isFragment
    obtain ⟨more, rfl⟩ := List.head?_eq_some_iff.mp isFirst
    exact notLast (List.cons.inj equal).1
  cases left with
  | nil =>
      cases right with
      | nil => exact ⟨rfl, (List.cons.inj same).2⟩
      | cons next more =>
          rw [intercalate_cons_append] at same
          exact absurd same.symm (notClosing _ _ _ (rightEach next List.mem_cons_self))
  | cons first others =>
      cases right with
      | nil =>
          rw [intercalate_cons_append] at same
          exact absurd same (notClosing _ _ _ (leftEach first List.mem_cons_self))
      | cons next more =>
          simp only [List.forall_mem_cons] at leftEach rightEach
          rw [intercalate_cons_append, intercalate_cons_append] at same
          obtain ⟨rfl, behind⟩ := separable leftEach.1 rightEach.1
            (startsWithOne_followers others) (startsWithOne_followers more) same
          obtain ⟨rfl, rest⟩ :=
            separable.followers_inj different leftEach.2 rightEach.2 behind
          exact ⟨rfl, rest⟩

end Followers

end Text

namespace Literal

/-! ## Quoted literals -/

/-- The written form of a symbol shows where it ends. -/
theorem escapeSymbol_append_inj {left right : Symbol} {leftRest rightRest : Text}
    (same : escapeSymbol left ++ leftRest = escapeSymbol right ++ rightRest) :
    left = right ∧ leftRest = rightRest := by
  have backslash : Symbol.char '\\' ∈ escaped := by decide
  rcases escapeSymbol_cases left with ⟨mark, listed, written⟩ | ⟨unlisted, written⟩ <;>
    rcases escapeSymbol_cases right with ⟨other, otherListed, otherWritten⟩ |
      ⟨otherUnlisted, otherWritten⟩ <;>
    rw [written, otherWritten] at same
  · simp only [List.cons_append, List.nil_append, List.cons.injEq, true_and] at same
    obtain ⟨rfl, rest⟩ := same
    have meaning := (escapeMeaning_of_mem listed).symm.trans (escapeMeaning_of_mem otherListed)
    exact ⟨List.singleton_inj.mp meaning, rest⟩
  · exact absurd ((List.cons.inj same).1 ▸ backslash) otherUnlisted
  · exact absurd ((List.cons.inj same).1 ▸ backslash) unlisted
  · exact List.cons.inj same

theorem escapeSymbol_append_ne_quote (symbol : Symbol) (rest others : Text) :
    escapeSymbol symbol ++ rest ≠ .char '\'' :: others := by
  intro same
  rcases escapeSymbol_cases symbol with ⟨mark, -, written⟩ | ⟨unlisted, written⟩
  · rw [written] at same
    exact absurd (List.cons.inj same).1 (by decide)
  · rw [written] at same
    exact (ne_of_not_mem_escaped unlisted).2 (List.cons.inj same).1

/-- The first quote of an escaped content is the one behind it. -/
theorem escape_append_quote_inj {left right leftRest rightRest : Text}
    (same : escape left ++ .char '\'' :: leftRest = escape right ++ .char '\'' :: rightRest) :
    left = right ∧ leftRest = rightRest := by
  simp only [escape_eq_flatMap] at same
  induction left generalizing right with
  | nil =>
      cases right with
      | nil => exact ⟨rfl, (List.cons.inj same).2⟩
      | cons symbol others =>
          rw [List.flatMap_cons, List.append_assoc] at same
          exact absurd same.symm (escapeSymbol_append_ne_quote _ _ _)
  | cons symbol others hypothesis =>
      cases right with
      | nil =>
          rw [List.flatMap_cons, List.append_assoc] at same
          exact absurd same (escapeSymbol_append_ne_quote _ _ _)
      | cons next more =>
          simp only [List.flatMap_cons, List.append_assoc] at same
          obtain ⟨rfl, behind⟩ := escapeSymbol_append_inj same
          obtain ⟨rfl, rest⟩ := hypothesis behind
          exact ⟨rfl, rest⟩

theorem quote_append_inj {left right leftRest rightRest : Text}
    (same : quote left ++ leftRest = quote right ++ rightRest) :
    quote left = quote right ∧ leftRest = rightRest := by
  simp only [quote, List.cons_append, List.append_assoc, List.nil_append, List.cons.injEq,
    true_and] at same
  obtain ⟨rfl, rest⟩ := escape_append_quote_inj same
  exact ⟨rfl, rest⟩

/-! ## Bare literals -/

/-- The symbols with which the text behind a literal starts, and the quote. -/
def literalBounds : List Symbol :=
  [.char ',', .char ')', .char '\'']

/-- Whether a text is not empty and none of its symbols bounds a literal. -/
def IsWord (content : Text) : Prop :=
  content ≠ [] ∧ content.all (· ∉ literalBounds) = true

theorem all_digits_notMem (found : List Digit) :
    (Digit.text found).all (· ∉ literalBounds) = true := by
  have each : ∀ digit : Digit, digit.symbol ∉ literalBounds := by decide
  rw [List.all_eq_true]
  intro symbol member
  obtain ⟨digit, rfl⟩ := Digit.mem_text member
  exact decide_eq_true (each digit)

theorem isWord_withSign (negative : Bool) {body : Text} (word : IsWord body) :
    IsWord (Scientific.withSign negative body) := by
  cases negative with
  | false => exact word
  | true => exact ⟨List.cons_ne_nil _ _, List.all_cons.trans (by rw [word.2]; decide)⟩

theorem isWord_plain (number : Int) : IsWord (Numeral.plain number) := by
  rw [Numeral.plain_eq_withSign]
  exact isWord_withSign _ ⟨by simp, all_digits_notMem _⟩

theorem isWord_positional (number : Binary64) : IsWord number.positional := by
  simp only [Binary64.positional, Binary64.render]
  split
  next decimal _ =>
    have point : Symbol.char '.' ∉ literalBounds := by decide
    refine isWord_withSign _ ⟨by simp, ?_⟩
    simp only [List.all_append, List.all_cons, all_digits_notMem, point, not_false_eq_true,
      decide_true, Bool.and_self]
  next negative _ => exact isWord_withSign negative (by unfold IsWord; decide)
  next => unfold IsWord; decide

/-- A literal is quoted or a word. -/
theorem quote_or_isWord_of_encode {value : Value} {literal : Text}
    (made : encode value = .ok literal) :
    (∃ content, literal = quote content) ∨ IsWord literal := by
  cases value with
  | null =>
      cases made
      exact .inr (by unfold IsWord; decide)
  | integer wide =>
      cases made
      exact .inr (isWord_plain _)
  | float number =>
      cases made
      exact .inr (isWord_positional _)
  | double number =>
      cases made
      exact .inr (isWord_positional _)
  | bytes octets =>
      cases made
      exact .inl ⟨_, rfl⟩
  | dateTime moment => exact .inl ⟨_, ofMoment_eq_ok made⟩
  | time span => exact .inl ⟨_, ofSpan_eq_ok made⟩

/-! ## Literals in rows -/

/-- Whether a text is the literal of a value. -/
def IsLiteral (literal : Text) : Prop :=
  ∃ value, encode value = .ok literal

/-- A word in front of a comma or a parenthesis is all that stands in front of the first symbol
that bounds a literal. -/
theorem takeWhile_of_isWord {word rest : Text} (isWord : IsWord word)
    (opens : Text.StartsWithOne [.char ',', .char ')'] rest) :
    (word ++ rest).takeWhile (· ∉ literalBounds) = word := by
  obtain ⟨mark, listed, isFirst⟩ := opens
  obtain ⟨others, rfl⟩ := List.head?_eq_some_iff.mp isFirst
  have bounds : mark ∈ literalBounds := by
    simp only [List.mem_cons, List.not_mem_nil, or_false] at listed
    rcases listed with rfl | rfl <;> decide
  rw [List.takeWhile_append_of_pos (List.all_eq_true.mp isWord.2),
    List.takeWhile_cons_of_neg (by simpa using bounds), List.append_nil]

/-- A literal shows where it ends in front of a comma or a parenthesis. -/
theorem separable_isLiteral : Text.Separable [.char ',', .char ')'] IsLiteral := by
  rintro left right leftRest rightRest ⟨leftValue, leftMade⟩ ⟨rightValue, rightMade⟩ leftOpens
    rightOpens same
  have notQuote : ∀ {word rest : Text}, IsWord word →
      ∀ content others, quote content ++ others ≠ word ++ rest := by
    intro word rest isWord content others equal
    obtain ⟨first, more, rfl⟩ := List.exists_cons_of_ne_nil isWord.1
    have inside := isWord.2
    rw [← (List.cons.inj equal).1] at inside
    simp [literalBounds] at inside
  rcases quote_or_isWord_of_encode leftMade with ⟨leftContent, rfl⟩ | leftWord <;>
    rcases quote_or_isWord_of_encode rightMade with ⟨rightContent, rfl⟩ | rightWord
  · exact quote_append_inj same
  · exact absurd same (notQuote rightWord _ _)
  · exact absurd same.symm (notQuote leftWord _ _)
  · have equal : left = right := by
      rw [← takeWhile_of_isWord leftWord leftOpens, same, takeWhile_of_isWord rightWord rightOpens]
    exact ⟨equal, List.append_cancel_left (equal ▸ same)⟩

/-- No literal starts like the text that closes a row. -/
theorem head?_of_isLiteral {literal : Text} (isLiteral : IsLiteral literal) :
    ∃ first ∈ literal.head?, first ≠ .char ')' := by
  obtain ⟨value, made⟩ := isLiteral
  rcases quote_or_isWord_of_encode made with ⟨content, rfl⟩ | ⟨nonempty, inside⟩
  · exact ⟨.char '\'', rfl, by decide⟩
  · obtain ⟨first, others, rfl⟩ := List.exists_cons_of_ne_nil nonempty
    refine ⟨first, rfl, ?_⟩
    rintro rfl
    simp [literalBounds] at inside

section Rows

variable {left right : List Text} {leftRest rightRest : Text}

/-- A row shows where it ends and which literals it has. -/
theorem joinRow_append_inj (leftEach : ∀ literal ∈ left, IsLiteral literal)
    (rightEach : ∀ literal ∈ right, IsLiteral literal)
    (same : joinRow left ++ leftRest = joinRow right ++ rightRest) :
    left = right ∧ leftRest = rightRest := by
  simp only [joinRow, List.cons_append, List.append_assoc, List.nil_append, List.cons.injEq,
    true_and] at same
  exact separable_isLiteral.intercalate_inj (by decide) (fun _ => head?_of_isLiteral) leftEach
    rightEach same

/-- Whether a text is a row of literals. -/
def IsRow (row : Text) : Prop :=
  ∃ literals, (∀ literal ∈ literals, IsLiteral literal) ∧ row = joinRow literals

theorem separable_isRow (marks : List Symbol) : Text.Separable marks IsRow := by
  rintro _ _ leftRest rightRest ⟨left, leftEach, rfl⟩ ⟨right, rightEach, rfl⟩ - - same
  obtain ⟨rfl, rest⟩ := joinRow_append_inj leftEach rightEach same
  exact ⟨rfl, rest⟩

theorem joinRows_ne_nil {rows : List Text} (nonempty : rows ≠ []) : joinRows rows ≠ [] := by
  rw [joinRows_of_ne_nil nonempty]
  simp [rowsTerminator, text]

/-- A text of rows has the rows of no other text. -/
theorem joinRows_inj (leftEach : ∀ row ∈ left, IsRow row) (rightEach : ∀ row ∈ right, IsRow row)
    (same : joinRows left = joinRows right) : left = right := by
  by_cases leftNone : left = []
  · by_cases rightNone : right = []
    · rw [leftNone, rightNone]
    · rw [leftNone] at same
      exact absurd same.symm (joinRows_ne_nil rightNone)
  · by_cases rightNone : right = []
    · rw [rightNone] at same
      exact absurd same (joinRows_ne_nil leftNone)
    · rw [joinRows_of_ne_nil leftNone, joinRows_of_ne_nil rightNone] at same
      have parenthesis : ∀ row, IsRow row → ∃ first ∈ row.head?, first ≠ .char ';' := by
        rintro _ ⟨literals, -, rfl⟩
        exact ⟨.char '(', rfl, by decide⟩
      exact ((separable_isRow _).intercalate_inj (by decide) parenthesis leftEach rightEach
        same).1

end Rows

/-! ## Rows of values -/

/-- Whether two values have literals, and the same one. -/
def SameLiteral (left right : Value) : Prop :=
  ∃ literal, encode left = .ok literal ∧ encode right = .ok literal

theorem isLiteral_of_mem {values : List Value} {literals : List Text}
    (collected : values.mapM encode = .ok literals) : ∀ literal ∈ literals, IsLiteral literal := by
  intro literal member
  obtain ⟨value, -, made⟩ := exists_of_mem_of_mapM_eq_ok collected member
  exact ⟨value, made⟩

theorem isRow_of_mem {rows : List (List Value)} {encoded : List Text}
    (collected : rows.mapM encodeRow = .ok encoded) : ∀ row ∈ encoded, IsRow row := by
  intro row member
  obtain ⟨values, -, made⟩ := exists_of_mem_of_mapM_eq_ok collected member
  obtain ⟨literals, literalsMade, rfl⟩ := encodeRow_eq_ok made
  exact ⟨literals, isLiteral_of_mem literalsMade, rfl⟩

/-- A row is its literals, joined. -/
theorem encodeRow_eq (values : List Value) :
    encodeRow values = (values.mapM encode).map joinRow := by
  rw [encodeRow]
  cases values.mapM encode <;> rfl

theorem encodeRow_of_mapM {values : List Value} {literals : List Text}
    (collected : values.mapM encode = .ok literals) :
    encodeRow values = .ok (joinRow literals) := by
  rw [encodeRow_eq, collected]
  rfl

theorem encodeRows_eq_ok_iff {rows : List (List Value)} {written : Text} :
    encodeRows rows = .ok written ↔
      ∃ encoded, rows.mapM encodeRow = .ok encoded ∧ joinRows encoded = written := by
  simp only [encodeRows, bind_eq_ok_iff, pure, Except.pure, Except.ok.injEq]

/-- Two rows are written alike exactly where they have as many values, and the values at the
same places have the same literals. -/
theorem encodeRow_eq_iff (left right : List Value) :
    (∃ row, encodeRow left = .ok row ∧ encodeRow right = .ok row) ↔
      List.Forall₂ SameLiteral left right := by
  refine Iff.trans ?_ exists_mapM_eq_ok_iff
  constructor
  · rintro ⟨row, leftMade, rightMade⟩
    obtain ⟨literals, leftLiterals, rfl⟩ := encodeRow_eq_ok leftMade
    obtain ⟨others, rightLiterals, same⟩ := encodeRow_eq_ok rightMade
    obtain ⟨rfl, -⟩ := joinRow_append_inj (isLiteral_of_mem leftLiterals)
      (isLiteral_of_mem rightLiterals) (congrArg (· ++ []) same)
    exact ⟨literals, leftLiterals, rightLiterals⟩
  · rintro ⟨literals, leftLiterals, rightLiterals⟩
    exact ⟨_, encodeRow_of_mapM leftLiterals, encodeRow_of_mapM rightLiterals⟩

/-- Two texts of rows are the same exactly where there are as many rows in both, with as many
values, and the values at the same places have the same literals. -/
theorem encodeRows_eq_iff (left right : List (List Value)) :
    (∃ written, encodeRows left = .ok written ∧ encodeRows right = .ok written) ↔
      List.Forall₂ (List.Forall₂ SameLiteral) left right := by
  have rowwise : (∃ encoded, left.mapM encodeRow = .ok encoded ∧
      right.mapM encodeRow = .ok encoded) ↔ List.Forall₂ (List.Forall₂ SameLiteral) left right := by
    simp only [exists_mapM_eq_ok_iff, encodeRow_eq_iff]
  rw [← rowwise]
  constructor
  · rintro ⟨written, leftMade, rightMade⟩
    obtain ⟨encoded, leftRows, rfl⟩ := encodeRows_eq_ok_iff.mp leftMade
    obtain ⟨others, rightRows, same⟩ := encodeRows_eq_ok_iff.mp rightMade
    cases joinRows_inj (isRow_of_mem rightRows) (isRow_of_mem leftRows) same
    exact ⟨encoded, leftRows, rightRows⟩
  · rintro ⟨encoded, leftRows, rightRows⟩
    exact ⟨joinRows encoded, encodeRows_eq_ok_iff.mpr ⟨encoded, leftRows, rfl⟩,
      encodeRows_eq_ok_iff.mpr ⟨encoded, rightRows, rfl⟩⟩

/-- A value of two quotes around a separator, and two empty values. -/
example :
    encodeRows [[.bytes [0x27, 0x2C, 0x20, 0x27]]] = .ok (text "('\\', \\'');\n\n") ∧
      encodeRows [[.bytes [], .bytes []]] = .ok (text "('', '');\n\n") := by
  decide

end Literal

end SqlDump
