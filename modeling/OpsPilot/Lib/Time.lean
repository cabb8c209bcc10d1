import OpsPilot.Lib.Json
/-!
# UTC instants and their ISO 8601 texts

An instant is a number of microseconds since the epoch; `civil` turns a day number into a
date of the proleptic Gregorian calendar.
-/

/-- An aware `datetime` in UTC, not before the epoch. -/
structure Time where
  micros : Nat
deriving DecidableEq

namespace Time

/-- Year, month and day of the `days`-th day since 1970-01-01, counted in 400-year eras that
start on a first of March. -/
def civil (days : Nat) : Nat × Nat × Nat :=
  let z := days + 719468
  let era := z / 146097
  let doe := z % 146097
  let yoe := (doe - doe / 1460 + doe / 36524 - doe / 146096) / 365
  let doy := doe - (365 * yoe + yoe / 4 - yoe / 100)
  let mp := (5 * doy + 2) / 153
  let month := if mp < 10 then mp + 3 else mp - 9
  (yoe + era * 400 + (if month ≤ 2 then 1 else 0), month, doy - (153 * mp + 2) / 5 + 1)

def pad (width n : Nat) : String :=
  let ds := Nat.toDigits 10 n
  String.ofList (List.replicate (width - ds.length) '0' ++ ds)

/-- Date and time with the given zone suffix; the fraction is left out when it is zero. -/
def format (zone : String) (t : Time) : String :=
  let secs := t.micros / 1000000
  let (y, m, d) := civil (secs / 86400)
  let s := secs % 86400
  let frac := t.micros % 1000000
  pad 4 y ++ "-" ++ pad 2 m ++ "-" ++ pad 2 d ++ "T" ++
    pad 2 (s / 3600) ++ ":" ++ pad 2 (s / 60 % 60) ++ ":" ++ pad 2 (s % 60) ++
    (if frac = 0 then "" else "." ++ pad 6 frac) ++ zone

/-- `datetime.isoformat()` -/
def isoformat : Time → String := format "+00:00"

/-- `strftime("%Y-%m-%d %H:%M:%S UTC")` -/
def stamp (t : Time) : String :=
  let secs := t.micros / 1000000
  let (y, m, d) := civil (secs / 86400)
  let s := secs % 86400
  pad 4 y ++ "-" ++ pad 2 m ++ "-" ++ pad 2 d ++ " " ++
    pad 2 (s / 3600) ++ ":" ++ pad 2 (s / 60 % 60) ++ ":" ++ pad 2 (s % 60) ++ " UTC"

/-- `int((t - s).total_seconds())` -/
def secondsSince (t s : Time) : Int := ((t.micros : Int) - s.micros).tdiv 1000000

/-- `t + timedelta(seconds=n)` -/
def addSeconds (t : Time) (n : Nat) : Time := ⟨t.micros + n * 1000000⟩

/-- `t - timedelta(seconds=n)`, as long as this is not before the epoch. -/
def subSeconds (t : Time) (n : Nat) : Time := ⟨t.micros - n * 1000000⟩

/-- `int(t.timestamp())` -/
def timestamp (t : Time) : Nat := t.micros / 1000000

/-- A datetime in `model_dump(mode="json")`. -/
def toJson (t : Time) : Json := .str (format "Z" t)

end Time
