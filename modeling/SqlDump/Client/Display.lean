import SqlDump.Client.Raw
import SqlDump.Number.Shortest

/-!
# Display of client values

A client may hand back a name in any type. Octets are read as UTF-8, and every
other value is shown as text. A value on its own is shown plainly; inside a list
or a mapping it is shown so that its type can be seen.
-/

namespace SqlDump.Client

def displayTruth (value : Bool) : Text :=
  text (if value then "True" else "False")

/-- A list of displays between brackets. -/
def enclose (opening closing : String) (shown : List Text) : Text :=
  text opening ++ (text ", ").intercalate shown ++ text closing

/-- Fields of a value with their names, after the name of its type. -/
def displayFields (typeName : String) (fields : List (String × Text)) : Text :=
  enclose (typeName ++ "(") ")" (fields.map fun (name, shown) => text name ++ text "=" ++ shown)

/-- The display of a stored value with its type. -/
def displayStored : Value → Text
  | .null => displayFields "Null" []
  | .integer wide => displayFields "Integer" [("value", Numeral.plain wide.number)]
  | .float number => displayFields "Float" [("value", number.display)]
  | .double number => displayFields "Double" [("value", number.display)]
  | .bytes octets => displayFields "ByteString" [("value", Quoted.ofOctets octets)]
  | .dateTime moment =>
      displayFields "DateTime"
        [("year", Numeral.plain moment.year), ("month", Numeral.plain moment.month),
          ("day", Numeral.plain moment.day), ("hour", Numeral.plain moment.hour),
          ("minute", Numeral.plain moment.minute), ("second", Numeral.plain moment.second),
          ("microsecond", Numeral.plain moment.microsecond)]
  | .time span =>
      displayFields "Time"
        [("negative", displayTruth span.negative), ("days", Numeral.plain span.days),
          ("hours", Numeral.plain span.hours), ("minutes", Numeral.plain span.minutes),
          ("seconds", Numeral.plain span.seconds),
          ("microseconds", Numeral.plain span.microseconds)]

/-- The text of an identifier: groups of 8, 4, 4, 4 and 12 hexadecimal digits. -/
def displayUuid (identifier : Octets) : Text :=
  let group (start count : Nat) : Text :=
    ((identifier.drop start).take count).flatMap fun octet => Quoted.hexadecimal 2 octet.toNat
  (text "-").intercalate [group 0 4, group 4 2, group 6 2, group 8 2, group 10 6]

/-- Fields up to the last one that has to be shown: the first `least` are, and
those behind them up to the last that is not zero. -/
def shownFields (least : Nat) (fields : List Int) : List Text :=
  let behind := ((fields.drop least).reverse.dropWhile (· = 0)).reverse
  (fields.take least ++ behind).map Numeral.plain

def displayDuration (duration : Duration) : Text :=
  let fields :=
    [("days", duration.days), ("seconds", duration.seconds),
      ("microseconds", duration.microseconds)].filter fun field => field.2 ≠ 0
  if fields.isEmpty then text "datetime.timedelta(0)"
  else
    displayFields "datetime.timedelta"
      (fields.map fun (name, size) => (name, Numeral.plain size))

/-- The display of a moment with its type and its offset from UTC. -/
def displayMoment (moment : Moment) (offset : Option Int) : Text :=
  let zone :=
    match offset with
    | none => []
    | some 0 => [text "tzinfo=datetime.timezone.utc"]
    | some seconds =>
        let ahead :=
          { days := seconds / 86400, seconds := seconds % 86400, microseconds := 0 : Duration }
        [text "tzinfo=datetime.timezone(" ++ displayDuration ahead ++ text ")"]
  enclose "datetime.datetime(" ")" (shownFields 5 moment.fields ++ zone)

mutual

/-- The display of a value inside another one. -/
def displayInside : Raw → Text
  | .nothing => text "None"
  | .truth value => displayTruth value
  | .integer number => Numeral.plain number
  | .real number => number.display
  | .text content => Quoted.ofText content
  | .octets .plain content => Quoted.ofOctets content
  | .octets .buffer content => text "bytearray(" ++ Quoted.ofOctets content ++ text ")"
  | .octets .view _ => text "<memory>"
  | .decimal number => text "Decimal('" ++ number.display ++ text "')"
  | .uuid content => text "UUID('" ++ displayUuid content ++ text "')"
  | .mapping false entries => text "\x7b" ++ displayEntries entries ++ text "\x7d"
  | .mapping true entries =>
      if entries.isEmpty then text "OrderedDict()"
      else text "OrderedDict([" ++ displayPairs entries ++ text "])"
  | .sequence items => text "[" ++ displayItems items ++ text "]"
  | .tuple [single] => text "(" ++ displayInside single ++ text ",)"
  | .tuple items => text "(" ++ displayItems items ++ text ")"
  | .set false members =>
      if members.isEmpty then text "set()" else text "\x7b" ++ displayItems members ++ text "\x7d"
  | .set true members =>
      if members.isEmpty then text "frozenset()"
      else text "frozenset(\x7b" ++ displayItems members ++ text "\x7d)"
  | .date date => enclose "datetime.date(" ")" ([date.year, date.month, date.day].map Numeral.plain)
  | .moment moment offset => displayMoment moment offset
  | .clock hour minute second microsecond =>
      enclose "datetime.time(" ")" (shownFields 2 [hour, minute, second, microsecond])
  | .duration duration => displayDuration duration
  | .stored value => displayStored value
  | .derived _ base => displayInside base
  | .named typeName name number =>
      text ("<" ++ typeName ++ "." ++ name ++ ": ") ++ Numeral.plain number ++ text ">"
  | .unknown name => text "<" ++ text name ++ text " object>"

/-- The displays of items with commas between them. -/
def displayItems : List Raw → Text
  | [] => []
  | [item] => displayInside item
  | item :: rest => displayInside item ++ text ", " ++ displayItems rest

/-- The displays of entries as keys and values with colons. -/
def displayEntries : List (Raw × Raw) → Text
  | [] => []
  | [(key, value)] => displayInside key ++ text ": " ++ displayInside value
  | (key, value) :: rest =>
      displayInside key ++ text ": " ++ displayInside value ++ text ", " ++ displayEntries rest

/-- The displays of entries as pairs. -/
def displayPairs : List (Raw × Raw) → Text
  | [] => []
  | [(key, value)] => text "(" ++ displayInside key ++ text ", " ++ displayInside value ++ text ")"
  | (key, value) :: rest =>
      text "(" ++ displayInside key ++ text ", " ++ displayInside value ++ text "), " ++
        displayPairs rest

end

def displayPlain (raw : Raw) : Text :=
  match raw.plain with
  | .text content => content
  | .decimal number => number.display
  | .uuid content => displayUuid content
  | .date date => Moment.displayDate date
  | .moment moment offset => moment.display offset
  | .clock hour minute second microsecond => Moment.displayClock hour minute second microsecond
  | .duration duration => duration.display
  | other => displayInside other

end SqlDump.Client
