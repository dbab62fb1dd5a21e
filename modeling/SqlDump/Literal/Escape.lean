import SqlDump.Text.Encoding

/-!
# Escapes of string literals

Inside a single-quoted literal the backslash, the quote, the newline, the
carriage return, NUL and Ctrl-Z are written as a backslash and a second symbol.
A reader undoes these and the server's other escapes, takes a doubled quote for
one, and keeps the backslash in front of the pattern symbols `%` and `_`.
-/

namespace SqlDump.Literal

/-- The symbols that are escaped, each with the one that stands for it behind a
backslash. The backslash is replaced first, so that no later replacement meets the
backslashes that an earlier one has written. -/
def stringEscapes : List (Symbol × Symbol) :=
  [(.char '\\', .char '\\'), (.char '\'', .char '\''), (.char '\n', .char 'n'),
    (.char '\r', .char 'r'), (.char '\x00', .char '0'), (.char '\x1a', .char 'Z')]

/-- A text with another text in place of each occurrence of a symbol. -/
def replaceEach (target : Symbol) (replacement : Text) (content : Text) : Text :=
  content.flatMap fun symbol => if symbol = target then replacement else [symbol]

@[simp] theorem replaceEach_nil (target : Symbol) (replacement : Text) :
    replaceEach target replacement [] = [] := rfl

@[simp] theorem replaceEach_append (target : Symbol) (replacement left right : Text) :
    replaceEach target replacement (left ++ right) =
      replaceEach target replacement left ++ replaceEach target replacement right := by
  simp [replaceEach]

theorem replaceEach_singleton_of_ne {target symbol : Symbol} (replacement : Text)
    (different : symbol ≠ target) : replaceEach target replacement [symbol] = [symbol] := by
  simp [replaceEach, different]

/-- The written form of a text inside a single-quoted literal: one replacement after
another. -/
def escape (content : Text) : Text :=
  stringEscapes.foldl
    (fun content (target, mark) => replaceEach target [.char '\\', mark] content) content

@[simp] theorem escape_nil : escape [] = [] := rfl

@[simp] theorem escape_append (left right : Text) :
    escape (left ++ right) = escape left ++ escape right := by
  simp [escape, stringEscapes]

/-- The written form of a symbol inside a single-quoted literal. -/
def escapeSymbol (symbol : Symbol) : Text :=
  match stringEscapes.lookup symbol with
  | some mark => [.char '\\', mark]
  | none => [symbol]

theorem escapeSymbol_of_not_mem {symbol : Symbol}
    (unlisted : symbol ∉ stringEscapes.map Prod.fst) : escapeSymbol symbol = [symbol] := by
  have notFound : stringEscapes.lookup symbol = none := by
    rw [List.lookup_eq_none_iff]
    intro entry member
    rw [bne_iff_ne]
    rintro rfl
    exact unlisted (List.mem_map_of_mem member)
  rw [escapeSymbol, notFound]

/-- No replacement meets what an earlier one has written. -/
theorem escape_singleton (symbol : Symbol) : escape [symbol] = escapeSymbol symbol := by
  by_cases listed : symbol ∈ stringEscapes.map Prod.fst
  · simp only [stringEscapes, List.map_cons, List.map_nil, List.mem_cons, List.not_mem_nil,
      or_false] at listed
    rcases listed with rfl | rfl | rfl | rfl | rfl | rfl <;> decide
  · rw [escapeSymbol_of_not_mem listed]
    simp only [stringEscapes, List.map_cons, List.map_nil, List.mem_cons, List.not_mem_nil,
      or_false, not_or] at listed
    simp [escape, stringEscapes, replaceEach_singleton_of_ne, listed]

/-- Replacing one after another is replacing all at once. -/
theorem escape_eq_flatMap (content : Text) : escape content = content.flatMap escapeSymbol := by
  induction content with
  | nil => rfl
  | cons symbol rest hypothesis =>
      rw [← List.singleton_append, escape_append, escape_singleton, hypothesis,
        List.singleton_append, List.flatMap_cons]

def quote (content : Text) : Text :=
  .char '\'' :: escape content ++ [.char '\'']

/-- The literal of octets, read in an encoding. -/
def ofOctets (octets : Octets) (encoding : Encoding := .utf8) : Text :=
  quote (encoding.decode octets)

/-- Why the body of a literal cannot be undone. -/
inductive EscapeError where
  /-- The body ends with a backslash that escapes nothing. -/
  | danglingBackslash
  /-- A quote stands alone at an offset of the body. -/
  | bareQuote (offset : Nat)
  deriving DecidableEq, Repr

def EscapeError.message : EscapeError → Text
  | .danglingBackslash => text "Dangling backslash at end of string literal"
  | .bareQuote offset =>
      text "Unescaped quote inside string literal at offset " ++ Digit.text (digits offset)

/-- What a symbol after a backslash stands for. -/
def escapeMeaning (symbol : Symbol) : Text :=
  if symbol = .char '%' ∨ symbol = .char '_' then [.char '\\', symbol]
  else if symbol = .char '0' then [.char '\x00']
  else if symbol = .char 'b' then [.char '\x08']
  else if symbol = .char 'n' then [.char '\n']
  else if symbol = .char 'r' then [.char '\r']
  else if symbol = .char 't' then [.char '\t']
  else if symbol = .char 'Z' then [.char '\x1a']
  else [symbol]

/-- Undoes the escapes of a body in front of which `made` has been undone already,
newest symbol first. -/
def unescapeOnto (quote : Symbol) (made : Text) : (offset : Nat) → Text → Except EscapeError Text
  | _, [] => .ok made.reverse
  | offset, symbol :: rest =>
      if symbol = .char '\\' then
        match rest with
        | [] => .error .danglingBackslash
        | escaped :: rest =>
            unescapeOnto quote ((escapeMeaning escaped).reverse ++ made) (offset + 2) rest
      else if symbol = quote then
        match rest with
        | [] => .error (.bareQuote offset)
        | next :: rest =>
            if next = quote then unescapeOnto quote (quote :: made) (offset + 2) rest
            else .error (.bareQuote offset)
      else unescapeOnto quote (symbol :: made) (offset + 1) rest

/-- The text that the body of a literal stands for, between the given quotes. -/
def unescape (quote : Symbol) (body : Text) : Except EscapeError Text :=
  unescapeOnto quote [] 0 body

end SqlDump.Literal
