import ResourceQuery.Number.Power
import ResourceQuery.Text.Blank
import ResourceQuery.Time.Instant

namespace ResourceQuery.Time

/-- A number of `least` to `most` digits and of 64 bits, and the rest. -/
def number? (least most : Nat) (cs : List Char) : Option (Nat × List Char) :=
  let ds := (cs.take most).takeWhile Char.isDigit
  if ds.length < least then none
  else (Number.digitsUpTo? Number.maxNat64 ds).map fun n => (n, cs.drop ds.length)

/-- As `number?`, within bounds. -/
def ranged? (least most low high : Nat) (cs : List Char) : Option (Nat × List Char) :=
  match number? least most cs with
  | some (n, r) => if low ≤ n ∧ n ≤ high then some (n, r) else none
  | none => none

def literal? (c : Char) : List Char → Option (List Char)
  | d :: r => if d = c then some r else none
  | [] => none

/-- Digits of a second behind the point; those from the tenth on are dropped. -/
def nanos? (cs : List Char) : Option (Nat × List Char) :=
  match number? 1 9 cs with
  | some (n, r) =>
    let count := ((cs.take 9).takeWhile Char.isDigit).length
    some (n * Number.tenTo (9 - count), r.dropWhile Char.isDigit)
  | none => none

/-- A fraction of a second, if there is one. -/
def fraction? : List Char → Option (Nat × List Char)
  | '.' :: r => nanos? r
  | cs => some (0, cs)

def sign? : List Char → Option (Bool × List Char)
  | c :: r =>
    if c = '+' then some (false, r)
    else if c = '-' ∨ c = '\u2212' then some (true, r)
    else none
  | [] => none

structure Clock where
  hour : Nat
  minute : Nat
  second : Nat
  nanos : Nat
  deriving DecidableEq, Repr

/-- The instant that a date and a clock show `offset` seconds east of UTC. Second 60 is the leap
second behind second 59. -/
def instant? (d : Date) (c : Clock) (offset : Int) : Option Instant :=
  let (second, leap) := if c.second = 60 then (59, nanosPerSecond) else (c.second, 0)
  let seconds := d.toDays * secondsPerDay + (c.hour * 3600 + c.minute * 60 + second : Nat) - offset
  if d.valid && (Date.ofDays (seconds / secondsPerDay)).valid then some ⟨seconds, leap + c.nanos⟩
  else none

/-- `Z`, or a sign, hours, a colon and minutes, less than a day. -/
def strictOffset? (cs : List Char) : Option (Int × List Char) := do
  match cs with
  | 'Z' :: r | 'z' :: r => some (0, r)
  | _ =>
    let (west, r) ← sign? cs
    let (h, r) ← ranged? 2 2 0 23 r
    let r ← literal? ':' r
    let (m, r) ← ranged? 2 2 0 59 r
    some (Number.signed west (h * 3600 + m * 60), r)

/-- RFC 3339: every part has its full width, and a blank may stand for the `T`. -/
def rfc3339? (cs : List Char) : Option Instant := do
  let (y, r) ← number? 4 4 cs
  let r ← literal? '-' r
  let (mo, r) ← ranged? 2 2 1 12 r
  let r ← literal? '-' r
  let (d, r) ← ranged? 2 2 1 31 r
  let r ← literal? 'T' r <|> literal? 't' r <|> literal? ' ' r
  let (h, r) ← ranged? 2 2 0 23 r
  let r ← literal? ':' r
  let (mi, r) ← ranged? 2 2 0 59 r
  let r ← literal? ':' r
  let (s, r) ← ranged? 2 2 0 60 r
  let (n, r) ← fraction? r
  let (offset, r) ← strictOffset? r
  if r.isEmpty then instant? ⟨y, mo, d⟩ ⟨h, mi, s, n⟩ offset else none

/-- A year of one to four digits, or a sign and any number of digits. Blanks may stand before it. -/
def looseYear? (cs : List Char) : Option (Int × List Char) :=
  match Text.trimStart cs with
  | '-' :: r => (number? 1 r.length r).map fun (n, r) => (-(n : Int), r)
  | '+' :: r => (number? 1 r.length r).map fun (n, r) => ((n : Int), r)
  | r => (number? 1 4 r).map fun (n, r) => ((n : Int), r)

/-- A part of one or two digits. Blanks may stand before it. -/
def loosePart? (low high : Nat) (cs : List Char) : Option (Nat × List Char) :=
  ranged? 1 2 low high (Text.trimStart cs)

def looseDate? (cs : List Char) : Option (Date × List Char) := do
  let (y, r) ← looseYear? cs
  let r ← literal? '-' r
  let (m, r) ← loosePart? 1 12 r
  let r ← literal? '-' r
  let (d, r) ← loosePart? 1 31 r
  some (⟨y, m, d⟩, r)

/-- Between date and time: a `T`, or blanks, of which there may be none. -/
inductive Separator where
  | letter
  | blanks
  deriving DecidableEq, Repr

def Separator.take? : Separator → List Char → Option (List Char)
  | .letter, cs => literal? 'T' cs
  | .blanks, cs => some (Text.trimStart cs)

def looseMinutes? (cs : List Char) : Option (Nat × Nat × List Char) := do
  let (h, r) ← loosePart? 0 23 cs
  let r ← literal? ':' r
  let (m, r) ← loosePart? 0 59 r
  some (h, m, r)

/-- `Z`, or a sign, two digits of hours and perhaps minutes; colons and blanks may stand between. -/
def looseOffset? (cs : List Char) : Option Int := do
  match Text.trimStart cs with
  | ['Z'] | ['z'] => some 0
  | r =>
    let (west, r) ← sign? r
    let (h, r) ← ranged? 2 2 0 23 r
    let r := r.dropWhile fun c => c == ':' || Text.isBlank c
    if r.isEmpty then some (Number.signed west (h * 3600))
    else
      let (m, r) ← ranged? 2 2 0 59 r
      if r.isEmpty then some (Number.signed west (h * 3600 + m * 60)) else none

/-- A date, a time to the minute and an offset. -/
def minuteWithOffset? (sep : Separator) (cs : List Char) : Option Instant := do
  let (d, r) ← looseDate? cs
  let r ← sep.take? r
  let (h, m, r) ← looseMinutes? r
  let offset ← looseOffset? r
  instant? d ⟨h, m, 0, 0⟩ offset

/-- A date and a time to the second, perhaps with a fraction. -/
def secondInUtc? (sep : Separator) (cs : List Char) : Option Instant := do
  let (d, r) ← looseDate? cs
  let r ← sep.take? r
  let (h, m, r) ← looseMinutes? r
  let r ← literal? ':' r
  let (s, r) ← loosePart? 0 60 r
  let (n, r) ← fraction? r
  if r.isEmpty then instant? d ⟨h, m, s, n⟩ 0 else none

/-- A date and a time to the minute. -/
def minuteInUtc? (sep : Separator) (cs : List Char) : Option Instant := do
  let (d, r) ← looseDate? cs
  let r ← sep.take? r
  let (h, m, r) ← looseMinutes? r
  if r.isEmpty then instant? d ⟨h, m, 0, 0⟩ 0 else none

def midnight? (cs : List Char) : Option Instant := do
  let (d, r) ← looseDate? cs
  if r.isEmpty then instant? d ⟨0, 0, 0, 0⟩ 0 else none

/-- A closing `Z` written as the offset `+0000`. -/
def spellZulu (cs : List Char) : List Char :=
  match cs.getLast? with
  | some c => if c = 'Z' ∨ c = 'z' then cs.dropLast ++ "+0000".toList else cs
  | none => cs

/-- The forms in the order in which they are tried. -/
def forms : List (List Char → Option Instant) :=
  [rfc3339?,
   fun cs => minuteWithOffset? .letter (spellZulu cs),
   fun cs => minuteWithOffset? .blanks (spellZulu cs),
   secondInUtc? .letter, secondInUtc? .blanks, minuteInUtc? .letter, minuteInUtc? .blanks,
   midnight?]

/-- Blanks around the text are allowed. -/
def parse? (cs : List Char) : Option Instant :=
  forms.findSome? fun form => form (Text.trim cs)

end ResourceQuery.Time
