import ResourceQuery.Number.Integer
import ResourceQuery.Time.Calendar

namespace ResourceQuery.Time

/-- Seconds from 1970-01-01T00:00:00Z and nanoseconds into the second. From 10^9 nanoseconds on
the point lies in a leap second behind that second. -/
structure Instant where
  seconds : Int
  nanos : Nat
  deriving DecidableEq, Repr

def nanosPerSecond : Nat := 1000000000
def secondsPerDay : Int := 86400

/-- Four digits for the years 0 to 9999, a sign and four digits at least for the others. -/
def printYear (y : Int) : String :=
  if 0 ≤ y ∧ y ≤ 9999 then Number.padded 4 y.toNat
  else (if y < 0 then "-" else "+") ++ Number.padded 4 y.natAbs

/-- No fraction, or as few of 3, 6 or 9 digits as lose nothing. -/
def printFraction (nanos : Nat) : String :=
  if nanos = 0 then ""
  else if nanos % 1000000 = 0 then "." ++ Number.padded 3 (nanos / 1000000)
  else if nanos % 1000 = 0 then "." ++ Number.padded 6 (nanos / 1000)
  else "." ++ Number.padded 9 nanos

def printDate (d : Date) : String :=
  printYear d.year ++ "-" ++ Number.padded 2 d.month ++ "-" ++ Number.padded 2 d.day

/-- A leap second is written as second 60. -/
def Instant.print (t : Instant) : String :=
  let ofDay := (t.seconds % secondsPerDay).toNat
  let leap := t.nanos / nanosPerSecond
  printDate (.ofDays (t.seconds / secondsPerDay)) ++ "T" ++
    Number.padded 2 (ofDay / 3600) ++ ":" ++ Number.padded 2 (ofDay / 60 % 60) ++ ":" ++
    Number.padded 2 (ofDay % 60 + leap) ++ printFraction (t.nanos % nanosPerSecond) ++ "Z"

/-- As a log has it: six digits of a fraction, and no leap second. -/
def Instant.stamp (t : Instant) : String :=
  let ofDay := (t.seconds % secondsPerDay).toNat
  printDate (.ofDays (t.seconds / secondsPerDay)) ++ "T" ++
    Number.padded 2 (ofDay / 3600) ++ ":" ++ Number.padded 2 (ofDay / 60 % 60) ++ ":" ++
    Number.padded 2 (ofDay % 60) ++ "." ++ Number.padded 6 (t.nanos / 1000) ++ "Z"

end ResourceQuery.Time
