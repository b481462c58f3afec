import ShellVet.Json.Error
import ShellVet.Text.Quoted

/-!
# Why a text is not a YAML document

Most texts that are refused are malformed: they break the syntax, or ask for a value that plain
documents cannot hold. The other faults come from single values that look like a number, a truth
value or a point in time and are none, and from texts that nest deeper than the stack goes.
-/

namespace ShellVet.Yaml

/-- A part of a point in time that is out of its range. -/
inductive CalendarFlaw where
  | year (value : Nat)
  | month
  | day
  | hour
  | minute
  | second
  /-- An offset of a day or more, in seconds. -/
  | offset (seconds : Int)
  deriving DecidableEq, Repr

/-- Why a document is refused. -/
inductive Fault where
  /-- The text breaks the syntax, or a tag does not fit its value. -/
  | malformed
  /-- A code point beyond the last one. -/
  | codePoint
  /-- A code point of more than 31 bits. -/
  | hugeCodePoint
  /-- A value tagged as a truth value that is none. -/
  | truth
  /-- A value tagged as a point in time that is none. -/
  | moment
  /-- A value tagged as a point in time that is no scalar. -/
  | momentOfMapping
  /-- A number without a character after its sign. -/
  | emptyNumber
  | integer (base : Nat) (text : List Char)
  | decimal (text : List Char)
  | tooManyDigits (count : Nat)
  | calendar (flaw : CalendarFlaw)
  /-- A number in base sixty with a part of a weight that double precision does not reach. -/
  | overlongSum
  /-- A scalar that stands for itself: its text is that of a collection it is in. -/
  | endless
  /-- Collections nested deeper than the stack goes. -/
  | tooDeep
  deriving DecidableEq, Repr

/-- Seconds of a day. -/
def daySeconds : Int := 86400

/-- The wording of an offset in days and seconds. -/
def spanText (seconds : Int) : String :=
  let days := seconds.fdiv daySeconds
  let rest := seconds.fmod daySeconds
  if rest = 0 then s!"datetime.timedelta(days={days})"
  else s!"datetime.timedelta(days={days}, seconds={rest})"

/-- The wording of a calendar flaw. -/
def CalendarFlaw.message : CalendarFlaw → String
  | .year value => s!"year {value} is out of range"
  | .month => "month must be in 1..12"
  | .day => "day is out of range for month"
  | .hour => "hour must be in 0..23"
  | .minute => "minute must be in 0..59"
  | .second => "second must be in 0..59"
  | .offset seconds =>
    "offset must be a timedelta strictly between -timedelta(hours=24) and timedelta(hours=24), " ++
      s!"not {spanText seconds}."

/-- The wording of a fault of a single value. -/
def Fault.message : Fault → String
  | .codePoint => "chr() arg not in range(0x110000)"
  | .integer base text =>
    let shown := (Text.quoted (String.ofList text)).toList.take 200
    s!"invalid literal for int() with base {base}: {String.ofList shown}"
  | .decimal text =>
    s!"could not convert string to float: {Text.quoted (String.ofList text)}"
  | .tooManyDigits count => (Json.Fault.tooManyDigits count).message []
  | .calendar flaw => flaw.message
  | .overlongSum => "int too large to convert to float"
  | .endless | .tooDeep => "maximum recursion depth exceeded"
  | _ => ""

end ShellVet.Yaml
