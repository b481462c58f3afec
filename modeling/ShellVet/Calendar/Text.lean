import ShellVet.Calendar.Basic

/-!
# Days and points in time as texts

The text of a day has its year, month and day with hyphens between them; that of a point in time
goes on with the time behind a `T`, with microseconds if there are any, and with the offset from
universal time if it is known.
-/

namespace ShellVet

/-- A number with zeros in front of it, if it has fewer digits than the width. -/
def padded (width number : Nat) : String :=
  let digits := toString number
  "".pushn '0' (width - digits.length) ++ digits

/-- The text of a day. -/
def Date.text (date : Date) : String :=
  s!"{padded 4 date.year}-{padded 2 date.month}-{padded 2 date.day}"

/-- The text of an offset, with seconds if there are any. -/
def offsetText (offset : Int) : String :=
  let size := offset.natAbs
  let seconds := if size % 60 = 0 then "" else ":" ++ padded 2 (size % 60)
  (if offset < 0 then "-" else "+") ++ padded 2 (size / 3600) ++ ":" ++ padded 2 (size / 60 % 60) ++
    seconds

/-- The text of a point in time. -/
def Moment.text (moment : Moment) : String :=
  let fraction := if moment.microsecond = 0 then "" else "." ++ padded 6 moment.microsecond
  let offset := match moment.offset with
    | some offset => offsetText offset
    | none => ""
  s!"{moment.date.text}T{padded 2 moment.hour}:{padded 2 moment.minute}:{padded 2 moment.second}" ++
    fraction ++ offset

end ShellVet
