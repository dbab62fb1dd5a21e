import SqlDump.Script.Statements

/-!
# The tokens of a script

A script is cut from left to right into comments, quoted runs, delimiters and
single symbols. Each token is described by the symbols it takes, so that the
tokens of a script say without a machine which symbols its statements keep.
-/

namespace SqlDump.Script

/-- A piece of a script with its symbols. -/
inductive Token where
  | lineComment (symbols : Text)
  | blockComment (symbols : Text)
  | quoted (quote : Quote) (symbols : Text)
  | delimiter
  | symbol (value : Symbol)
  deriving DecidableEq, Repr

def Token.symbols : Token → Text
  | .lineComment symbols => symbols
  | .blockComment symbols => symbols
  | .quoted _ symbols => symbols
  | .delimiter => [.char ';']
  | .symbol value => [value]

/-- The symbols up to and with the first `*/`, or all of them. -/
def blockBody : Text → Text
  | [] => []
  | .char '*' :: .char '/' :: _ => [.char '*', .char '/']
  | symbol :: rest => symbol :: blockBody rest

/-- The symbols of a quoted run after its opening quote, the closing quote included. -/
def quotedBody (quote : Quote) : Text → Text
  | [] => []
  | [last] => [last]
  | symbol :: next :: rest =>
      if symbol = .char '\\' then symbol :: next :: quotedBody quote rest
      else if symbol = quote.symbol then
        if next = quote.symbol then symbol :: next :: quotedBody quote rest else [symbol]
      else symbol :: quotedBody quote (next :: rest)

/-- The token that a text with a first symbol starts with. -/
def firstToken (symbol : Symbol) (rest : Text) : Token :=
  if symbol = .char '#' ∨ (symbol = .char '-' ∧ rest.head? = some (.char '-')) then
    .lineComment (symbol :: rest.takeWhile (· ≠ .char '\n'))
  else if symbol = .char '/' ∧ rest.head? = some (.char '*') then
    .blockComment (symbol :: .char '*' :: blockBody rest.tail)
  else if symbol = .char ';' then .delimiter
  else
    match Quote.ofSymbol? symbol with
    | some quote => .quoted quote (symbol :: quotedBody quote rest)
    | none => .symbol symbol

/-- The tokens of a text whose first `skip` symbols belong to an earlier token. -/
def tokensAfter : (skip : Nat) → Text → List Token
  | _, [] => []
  | skip + 1, _ :: rest => tokensAfter skip rest
  | 0, symbol :: rest =>
      let token := firstToken symbol rest
      token :: tokensAfter (token.symbols.length - 1) rest

def tokens (script : Text) : List Token :=
  tokensAfter 0 script

def Token.isDelimiter : Token → Bool
  | .delimiter => true
  | _ => false

/-- The symbols of a token that a statement keeps: all but line comments. -/
def Token.kept : Token → Text
  | .lineComment _ => []
  | token => token.symbols

/-- The statements as the tokens tell them. -/
def tokenStatements (script : Text) : List Text :=
  statementsOf (((tokens script).splitOnP Token.isDelimiter).map (·.flatMap Token.kept))

end SqlDump.Script
