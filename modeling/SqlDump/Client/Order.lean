import SqlDump.Client.Key

/-!
# Order of members

The members of a set are listed in ascending order where they have one: numbers
by their value, texts and octets symbol by symbol, tuples item by item, sets by
inclusion, and dates, moments, clock times and durations each among themselves.
Which two members a failing sort names depends on the comparisons that it makes,
so the sort is laid down exactly: it takes the run at the front, turned round if
it descends, and then puts each further member in its place by halving.
-/

namespace SqlDump.Client

/-- Why two values have no order. -/
inductive OrderError where
  | unordered (left right : String)
  /-- A moment has a clock time, and a date has none. -/
  | dateAndMoment
  /-- Only one of two moments has a UTC offset. -/
  | offsetMissing
  /-- A decimal number is compared with what is no number. -/
  | undefinedNumber
  deriving DecidableEq, Repr

def OrderError.message : OrderError → Text
  | .unordered left right =>
      text "'<' not supported between instances of '" ++ text left ++ text "' and '" ++
        text right ++ text "'"
  | .dateAndMoment => text "can't compare datetime.datetime to datetime.date"
  | .offsetMissing => text "can't compare offset-naive and offset-aware datetimes"
  | .undefinedNumber => text "[<class 'decimal.InvalidOperation'>]"

/-- Lexicographic order of octets; a sequence comes before its extensions. -/
def octetsBefore : Octets → Octets → Bool
  | [], right => !right.isEmpty
  | _ :: _, [] => false
  | left :: leftRest, right :: rightRest =>
      if left = right then octetsBefore leftRest rightRest else left < right

namespace Raw

def isDecimal (raw : Raw) : Bool :=
  match raw.plain with
  | .decimal _ => true
  | _ => false

/-- Whether a number is less than another one. Decimal numbers have no order with
what is no number. -/
def numberLess (left right : Raw) (leftQuantity rightQuantity : Quantity) :
    Except OrderError Bool :=
  if (left.isDecimal || right.isDecimal) &&
      (leftQuantity = .undefined || rightQuantity = .undefined) then
    .error .undefinedNumber
  else .ok (leftQuantity.lessThan rightQuantity)

/-- The microseconds since midnight of a clock time. -/
def clockTotal (hour minute second microsecond : Int) : Int :=
  ((hour * 60 + minute) * 60 + second) * Moment.perSecond + microsecond

/-- Whether a value without parts is less than another one. -/
def leafLess (left right : Raw) : Except OrderError Bool :=
  match left.plain, right.plain with
  | .text content, .text other => .ok (content.before other)
  | .octets .plain content, .octets .plain other => .ok (octetsBefore content other)
  | .uuid content, .uuid other => .ok (octetsBefore content other)
  | .date day, .date other => .ok (day.dayNumber < other.dayNumber)
  | .date _, .moment _ _ | .moment _ _, .date _ => .error .dateAndMoment
  | .moment time none, .moment other none => .ok (time.instant < other.instant)
  | .moment time (some offset), .moment other (some otherOffset) =>
      .ok (time.instantAt offset < other.instantAt otherOffset)
  | .moment _ _, .moment _ _ => .error .offsetMissing
  | .clock hour minute second microsecond, .clock hour' minute' second' microsecond' =>
      .ok (clockTotal hour minute second microsecond <
        clockTotal hour' minute' second' microsecond')
  | .duration span, .duration other => .ok (span.total < other.total)
  | _, _ =>
      match left.quantity?, right.quantity? with
      | some leftQuantity, some rightQuantity => left.numberLess right leftQuantity rightQuantity
      | _, _ => .error (.unordered left.fullTypeName right.fullTypeName)

mutual

def lessThan : Raw → Raw → Except OrderError Bool
  | .tuple items, right =>
      match right.plain with
      | .tuple others => itemsLess items others
      | _ => .error (.unordered ValueType.tuple.fullName right.fullTypeName)
  | .set frozen members, right =>
      match right.plain with
      | .set _ others => .ok (members.length < others.length && amongKeys members others)
      | _ => .error (.unordered (set frozen members).fullTypeName right.fullTypeName)
  | left, right => left.leafLess right

/-- Whether the first items that differ make a tuple less than another one. A tuple
is less than its extensions. -/
def itemsLess : List Raw → List Raw → Except OrderError Bool
  | [], others => .ok (!others.isEmpty)
  | _ :: _, [] => .ok false
  | left :: leftRest, right :: rightRest =>
      if left.sameKey right then itemsLess leftRest rightRest else left.lessThan right

end

end Raw

/-! ## Sorting -/

section Sorting

variable {ε α : Type} (less : α → α → Except ε Bool)

/-- The items that go on with a run after its last item, and those behind it. -/
def restOfRun (descending : Bool) (last : α) : List α → Except ε (List α × List α)
  | [] => .ok ([], [])
  | item :: rest => do
      if (← less item last) = descending then
        let (run, behind) ← restOfRun descending item rest
        return (item :: run, behind)
      else return ([], item :: rest)

/-- The run at the front in ascending order, and the items behind it. -/
def firstRun : List α → Except ε (List α × List α)
  | first :: second :: rest => do
      let descending ← less second first
      let (run, behind) ← restOfRun less descending second rest
      let run := first :: second :: run
      return (if descending then run.reverse else run, behind)
  | items => .ok (items, [])

/-- Puts an item behind all items of an ascending list that are not greater. Each
comparison leaves the half of the list before or behind the middle one. -/
def insertByHalves (item : α) : (fuel : Nat) → List α → Except ε (List α)
  | 0, sorted => .ok (sorted ++ [item])
  | fuel + 1, sorted =>
      let (front, back) := sorted.splitAt (sorted.length / 2)
      match back with
      | [] => .ok (front ++ [item])
      | middle :: behind => do
          if ← less item middle then return (← insertByHalves item fuel front) ++ back
          else return front ++ middle :: (← insertByHalves item fuel behind)

def sortBy (items : List α) : Except ε (List α) := do
  let (run, behind) ← firstRun less items
  behind.foldlM (fun sorted item => insertByHalves less item sorted.length sorted) run

end Sorting

/-- Members in ascending order. -/
def sortMembers (members : List Raw) : Except OrderError (List Raw) :=
  sortBy Raw.lessThan members

end SqlDump.Client
