import SqlDump.Number.Numeral

/-!
# Grammars of command lines

A command line is a list of words. Some are options, which start with a dash and
may be cut short as long as it is clear what they stand for; the others are
operands. A double dash makes operands of all words behind it. A grammar names the
options with their arguments, and the operands.
-/

namespace SqlDump.Command

/-- What an option does with an argument. -/
inductive OptionForm where
  /-- The option is alone. -/
  | flag
  /-- The option has an argument of any form. -/
  | value
  /-- The option has a numeral as its argument. -/
  | number
  /-- The option has one of some texts as its argument. -/
  | choice (choices : List String)
  /-- The option asks for help. -/
  | help
  deriving DecidableEq, Repr

structure OptionRule where
  names : List String
  form : OptionForm
  deriving DecidableEq, Repr

/-- What the operands of a command line are. -/
inductive OperandRule where
  /-- Operands with the given names, all of which are required. -/
  | named (names : List String)
  /-- One of some commands, to which all words behind it belong. -/
  | command (name : String) (choices : List String)
  deriving DecidableEq, Repr

/-- The options and operands of a program or of one of its commands. -/
structure Grammar where
  program : String
  options : List OptionRule
  operands : OperandRule
  deriving DecidableEq, Repr

/-- How an error names an option. -/
def OptionRule.title (rule : OptionRule) : Text :=
  (text "/").intercalate (rule.names.map text)

/-- An argument that is joined to its option, with whether an equals sign joins it. -/
structure Joined where
  equals : Bool
  argument : Text
  deriving DecidableEq, Repr

/-- What a word of a command line is. -/
inductive Sense where
  | operand
  /-- The double dash behind which all words are operands. -/
  | separator
  | option (rule : OptionRule) (joined : Option Joined)
  /-- The word looks like an option and is none. -/
  | unknown
  deriving DecidableEq, Repr

/-- A word of a command line with what it is. -/
structure Word where
  content : Text
  sense : Sense
  deriving DecidableEq, Repr

/-- Why a command line cannot be read. -/
inductive Misuse where
  | ambiguous (word : Text) (candidates : List String)
  | missingArgument (title : Text)
  | unwantedArgument (title argument : Text)
  | notNumber (title argument : Text)
  | notChoice (title argument : Text) (choices : List String)
  | missing (names : List String)
  | unrecognized (words : List Text)
  deriving DecidableEq, Repr

namespace Misuse

def listed (choices : List String) : Text :=
  (text ", ").intercalate (choices.map fun choice => Quoted.ofText (text choice))

def message : Misuse → Text
  | .ambiguous word candidates =>
      text "ambiguous option: " ++ word ++ text " could match " ++
        (text ", ").intercalate (candidates.map text)
  | .missingArgument title => text "argument " ++ title ++ text ": expected one argument"
  | .unwantedArgument title argument =>
      text "argument " ++ title ++ text ": ignored explicit argument " ++ Quoted.ofText argument
  | .notNumber title argument =>
      text "argument " ++ title ++ text ": invalid int value: " ++ Quoted.ofText argument
  | .notChoice title argument choices =>
      text "argument " ++ title ++ text ": invalid choice: " ++ Quoted.ofText argument ++
        text " (choose from " ++ listed choices ++ text ")"
  | .missing names =>
      text "the following arguments are required: " ++ (text ", ").intercalate (names.map text)
  | .unrecognized words => text "unrecognized arguments: " ++ (text " ").intercalate words

end Misuse

/-! ## Reading one word -/

def dash : Symbol := .char '-'

/-- The word that makes operands of all words behind it. -/
def doubleDash : Text := text "--"

/-- What stands before and behind the first equals sign of a word. -/
def splitEquals (word : Text) : Text × Option Text :=
  match word.dropWhile (· ≠ .char '=') with
  | [] => (word, none)
  | _ :: behind => (word.takeWhile (· ≠ .char '='), some behind)

/-- Whether a word is a negative number: digits with an optional point between them. -/
def isNegativeNumber : Text → Bool
  | [] => false
  | symbol :: rest =>
      let isDigit (symbol : Symbol) : Bool := symbol.digit?.isSome
      let isLast (content : Text) : Bool := content = [] || content = [.char '\n']
      let whole := rest.takeWhile isDigit
      let behind := rest.dropWhile isDigit
      symbol = dash &&
        (!whole.isEmpty && isLast behind ||
          match behind with
          | .char '.' :: fraction =>
              !(fraction.takeWhile isDigit).isEmpty && isLast (fraction.dropWhile isDigit)
          | _ => false)

namespace Grammar

def namedOptions (grammar : Grammar) : List (String × OptionRule) :=
  grammar.options.flatMap fun rule => rule.names.map (·, rule)

def option? (grammar : Grammar) (name : Text) : Option OptionRule :=
  (grammar.namedOptions.find? fun entry => text entry.1 = name).map Prod.snd

/-- The options that a cut word can stand for. A word with two dashes is the
beginning of a name; one with a single dash is a short name with its argument. -/
def candidates (grammar : Grammar) (word : Text) :
    List (String × OptionRule × Option Joined) :=
  grammar.namedOptions.filterMap fun (name, rule) =>
    if doubleDash.isPrefixOf word then
      let (beginning, argument) := splitEquals word
      if beginning.isPrefixOf (text name) then
        some (name, rule, argument.map fun argument => { equals := true, argument })
      else none
    else if text name = word.take 2 then
      some (name, rule, some { equals := false, argument := word.drop 2 })
    else if word.isPrefixOf (text name) then some (name, rule, none)
    else none

/-- What a word is that starts with a dash, has more symbols, and is no full name
of an option. -/
def cutSense (grammar : Grammar) (word : Text) : Except Misuse Sense :=
  match grammar.candidates word with
  | [(_, rule, joined)] => .ok (.option rule joined)
  | _ :: _ :: _ =>
      .error (.ambiguous word ((grammar.candidates word).map fun candidate => candidate.1))
  | [] =>
      if isNegativeNumber word || word.contains (.char ' ') then .ok .operand
      else .ok .unknown

/-- What a word in front of a double dash is. -/
def senseOf (grammar : Grammar) (word : Text) : Except Misuse Sense :=
  if word.head? ≠ some dash then .ok .operand
  else
    match grammar.option? word with
    | some rule => .ok (.option rule none)
    | none =>
        if word.length = 1 then .ok .operand
        else
          match splitEquals word with
          | (name, some argument) =>
              match grammar.option? name with
              | some rule => .ok (.option rule (some { equals := true, argument }))
              | none => grammar.cutSense word
          | (_, none) => grammar.cutSense word

/-- What the words of a command line are. -/
def readWords (grammar : Grammar) : List Text → Except Misuse (List Word)
  | [] => .ok []
  | content :: rest =>
      if content = doubleDash then
        .ok ({ content, sense := .separator } :: rest.map ({ content := ·, sense := .operand }))
      else do
        let sense ← grammar.senseOf content
        return { content, sense } :: (← grammar.readWords rest)

end Grammar

/-! ## Reading the words in order -/

/-- Whether an argument is one that an option takes. -/
def OptionRule.check (rule : OptionRule) (argument : Text) : Except Misuse Unit :=
  match rule.form with
  | .number =>
      match Numeral.ofText argument with
      | .ok _ => .ok ()
      | .error _ => .error (.notNumber rule.title argument)
  | .choice choices =>
      if choices.any fun choice => text choice = argument then .ok ()
      else .error (.notChoice rule.title argument choices)
  | _ => .ok ()

/-- Whether the letters joined to the short option that asks for help are harmless.
Letters of unknown options are, an argument is not. -/
def checkHelpTail (rule : OptionRule) : (equals : Bool) → Text → Except Misuse Unit
  | true, argument => .error (.unwantedArgument rule.title argument)
  | false, [] => .ok ()
  | false, symbol :: rest =>
      if symbol = dash then .error (.unwantedArgument rule.title (symbol :: rest))
      else if symbol = .char 'h' then
        match rest with
        | [] => .ok ()
        | next :: behind =>
            if next = .char '=' then .error (.unwantedArgument rule.title behind)
            else checkHelpTail rule false (next :: behind)
      else .ok ()

/-- Why reading a command line ends early. -/
inductive Halt where
  | help
  | misuse (program : String) (misuse : Misuse)
  deriving DecidableEq, Repr

/-- What a command line says. -/
structure Reading where
  /-- The options in order, with their arguments. -/
  options : List (OptionRule × Option Text) := []
  /-- The operands. One that is a double dash is lost unless it is the first behind the
  double dash that makes operands of words. -/
  operands : List (Option Text) := []
  /-- The command, with the words that belong to it. -/
  command : Option (Text × List Text) := none
  /-- Words that are neither options nor expected operands. -/
  extras : List Text := []
  deriving Repr

namespace Reading

def withOption (rule : OptionRule) (argument : Option Text) (reading : Reading) : Reading :=
  { reading with options := (rule, argument) :: reading.options }

def withOperand (content : Option Text) (reading : Reading) : Reading :=
  { reading with operands := content :: reading.operands }

def withExtra (content : Text) (reading : Reading) : Reading :=
  { reading with extras := content :: reading.extras }

/-- The argument of the last option with a name. -/
def argument? (reading : Reading) (name : String) : Option Text :=
  (reading.options.reverse.find? fun option => option.1.names.contains name).bind Prod.snd

def has (reading : Reading) (name : String) : Bool :=
  reading.options.any fun option => option.1.names.contains name

end Reading

namespace Grammar

/-- Whether operands are a command with its words. -/
def isCommand (grammar : Grammar) : Bool :=
  match grammar.operands with
  | .named _ => false
  | .command _ _ => true

def operandNames (grammar : Grammar) : List String :=
  match grammar.operands with
  | .named names => names
  | .command name _ => [name]

def halt {α : Type} (grammar : Grammar) : Except Misuse α → Except Halt α
  | .ok value => .ok value
  | .error misuse => .error (.misuse grammar.program misuse)

/-- Reads words in order, with the number of operands that are still expected and
whether an operand stands directly in front. A separator next to an expected
operand is dropped. -/
def readOn (grammar : Grammar) : (left : Nat) → (behindOperand : Bool) → List Word →
    Except Halt Reading
  | _, _, [] => .ok {}
  | left, behindOperand, word :: rest =>
      match word.sense with
      | .operand =>
          if left = 0 then return (← grammar.readOn left false rest).withExtra word.content
          else if grammar.isCommand then
            .ok { command := some (word.content, rest.map Word.content) }
          else
            let content := if word.content = doubleDash then none else some word.content
            return (← grammar.readOn (left - 1) true rest).withOperand content
      | .separator =>
          if behindOperand then grammar.readOn left false rest
          else if left = 0 then
            return (← grammar.readOn left false rest).withExtra word.content
          else
            match rest with
            | [] => .ok { extras := [word.content] }
            | next :: behind =>
                if grammar.isCommand then
                  .ok { command := some (word.content, next.content :: behind.map Word.content) }
                else
                  return (← grammar.readOn (left - 1) true behind).withOperand (some next.content)
      | .unknown => return (← grammar.readOn left false rest).withExtra word.content
      | .option rule joined =>
          match rule.form, joined with
          | .help, none => .error .help
          | .help, some joined =>
              match checkHelpTail rule joined.equals joined.argument with
              | .ok _ => .error .help
              | .error misuse => .error (.misuse grammar.program misuse)
          | .flag, none => return (← grammar.readOn left false rest).withOption rule none
          | .flag, some joined =>
              .error (.misuse grammar.program (.unwantedArgument rule.title joined.argument))
          | _, some joined => do
              grammar.halt (rule.check joined.argument)
              return (← grammar.readOn left false rest).withOption rule (some joined.argument)
          | _, none =>
              match rest with
              | next :: behind =>
                  if next.sense = .operand then do
                    grammar.halt (rule.check next.content)
                    return (← grammar.readOn left false behind).withOption rule (some next.content)
                  else .error (.misuse grammar.program (.missingArgument rule.title))
              | [] => .error (.misuse grammar.program (.missingArgument rule.title))

/-- Reads a command line. All operands have to be there. -/
def read (grammar : Grammar) (arguments : List Text) : Except Halt Reading := do
  let words ← grammar.halt (grammar.readWords arguments)
  let reading ← grammar.readOn grammar.operandNames.length false words
  let found := if reading.command.isSome then 1 else reading.operands.length
  let missing := grammar.operandNames.drop found
  if missing.isEmpty then return reading
  else .error (.misuse grammar.program (.missing missing))

end Grammar

end SqlDump.Command
