import Sidecar.Ports.Python

/-!
# UTC timestamps as text

`datetime.fromtimestamp(ts, tz=UTC).isoformat()` on whole seconds, following
the arithmetic of CPython's `datetime` module on the proleptic Gregorian
calendar, and the exception it raises outside years 1 to 9999.
-/

namespace Sidecar.Ports.Calendar

open Sidecar.Ports.Python

/-- Days before month `m` (1-based) in a year that is not a leap year. -/
def daysBeforeMonth : Nat → Int
  | 1 => 0 | 2 => 31 | 3 => 59 | 4 => 90 | 5 => 120 | 6 => 151
  | 7 => 181 | 8 => 212 | 9 => 243 | 10 => 273 | 11 => 304 | 12 => 334
  | _ => 365

def daysInMonth : Nat → Int
  | 2 => 28
  | 4 | 6 | 9 | 11 => 30
  | _ => 31

/-- `_ord2ymd`: year, month and day of the proleptic Gregorian ordinal `n`,
where 1 January of year 1 is day 1. -/
def ord2ymd (n : Int) : Int × Nat × Int :=
  let n := n - 1
  let n400 := n / 146097
  let n := n % 146097
  let n100 := n / 36524
  let n := n % 36524
  let n4 := n / 1461
  let n := n % 1461
  let n1 := n / 365
  let n := n % 365
  let year := n400 * 400 + 1 + n100 * 100 + n4 * 4 + n1
  -- the last day of a 400-year or a 4-year cycle falls out of the division
  if n1 = 4 || n100 = 4 then (year - 1, 12, 31)
  else
    let leapYear := n1 = 3 && (n4 ≠ 24 || n100 = 3)
    let month := ((n + 50) / 32).toNat
    let preceding := daysBeforeMonth month + if month > 2 && leapYear then 1 else 0
    if preceding > n then
      let month := month - 1
      let preceding :=
        preceding - (daysInMonth month + if month = 2 && leapYear then 1 else 0)
      (year, month, n - preceding + 1)
    else (year, month, n - preceding + 1)

/-- The ordinal of 1970-01-01. -/
def epochOrdinal : Int := 719163

/-- `f"{n:0{width}d}"` for a number that is not negative. -/
def pad (width : Nat) (n : Int) : String :=
  let s := toString n
  String.ofList (List.replicate (width - s.length) '0') ++ s

/-- An integer as a C `int` of 32 bits holds it. -/
def wrapInt (n : Int) : Int := (n + 2 ^ 31) % 2 ^ 32 - 2 ^ 31

/-- The exception of `datetime.fromtimestamp` outside years 1 to 9999: the
timestamp does not fit `time_t`, or its year since 1900 does not fit `gmtime`'s
`int`, or `datetime` refuses the year, which it has computed as an `int`. -/
def fromtimestampError (ts : Int) : PyExc :=
  if ts < -2 ^ 63 || 2 ^ 63 ≤ ts then
    .overflowError "timestamp out of range for platform time_t"
  else if ts < -67768040609740800 || 67768036191676799 < ts then
    .osError "[Errno 75] Value too large for defined data type"
  else
    .valueError s!"year {wrapInt (ord2ymd (ts / 86400 + epochOrdinal)).1} is out of range"

/-- `datetime.fromtimestamp(ts_unix, tz=UTC).isoformat()`. -/
def unixToIsoUtc (tsUnix : Int) : Except PyExc String :=
  if tsUnix < -62135596800 || 253402300800 ≤ tsUnix then
    .error (fromtimestampError tsUnix)
  else
    let (year, month, day) := ord2ymd (tsUnix / 86400 + epochOrdinal)
    let second := tsUnix % 86400
    .ok (pad 4 year ++ "-" ++ pad 2 month ++ "-" ++ pad 2 day ++ "T" ++
      pad 2 (second / 3600) ++ ":" ++ pad 2 (second / 60 % 60) ++ ":" ++
      pad 2 (second % 60) ++ "+00:00")

example : unixToIsoUtc 1767225600 = .ok "2026-01-01T00:00:00+00:00" := by decide
example : unixToIsoUtc (-62135596800) = .ok "0001-01-01T00:00:00+00:00" := by
  decide
example : unixToIsoUtc 951782400 = .ok "2000-02-29T00:00:00+00:00" := by decide

end Sidecar.Ports.Calendar
