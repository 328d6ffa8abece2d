import ResourceQuery.Json.Draft

namespace ResourceQuery.Json

open Number (Binary64)

/-- A significand and the power of ten to scale it by. -/
structure Scaled where
  significand : Nat
  exponent : Int
  deriving DecidableEq, Repr

/-- Digits before the point: once one does not fit, the rest only counts. -/
def gatherWhole (acc : Nat) : List Char → Scaled
  | [] => ⟨acc, 0⟩
  | c :: cs =>
    if Number.maxNat64 < 10 * acc + Number.digitValue c then ⟨acc, (c :: cs).length⟩
    else gatherWhole (10 * acc + Number.digitValue c) cs

/-- Digits behind the point: once one does not fit, the rest is dropped. -/
def gatherFraction (s : Scaled) : List Char → Scaled
  | [] => s
  | c :: cs =>
    if Number.maxNat64 < 10 * s.significand + Number.digitValue c then s
    else gatherFraction ⟨10 * s.significand + Number.digitValue c, s.exponent - 1⟩ cs

def powerOfTen (e : Nat) : Binary64 :=
  .ofRatio false (Number.tenTo e) 1

def scaleDownTimes : Nat → Binary64 → Binary64
  | 0, x => x
  | n + 1, x => if x.isZero then x else scaleDownTimes n (x.div (powerOfTen 308))

/-- Scales down by `10 ^ 308` as long as more than that is left, then by the rest. -/
def scaleDown (x : Binary64) (e : Nat) : Binary64 :=
  let n := (e - 1) / 308
  (scaleDownTimes n x).div (powerOfTen (e - 308 * n))

/-- Nothing is scaled up by more than `10 ^ 308`, zero excepted. -/
def Scaled.toBinary (s : Scaled) : Except SyntaxError Binary64 :=
  let x := Binary64.ofNat s.significand
  if s.exponent < 0 then .ok (scaleDown x s.exponent.natAbs)
  else if s.exponent ≤ 308 then
    let y := x.mul (powerOfTen s.exponent.toNat)
    if y.isFinite then .ok y else .error .numberOutOfRange
  else if x.isZero then .ok x
  else .error .numberOutOfRange

/-- The parts of a number as they are written. -/
structure Written where
  negative : Bool
  whole : List Char
  fraction : Option (List Char)
  exponent : Option (Bool × List Char)
  deriving DecidableEq, Repr

def maxInt32 : Nat := 2147483647

/-- An integer that fits 64 bits stays one; `-0` does not, for it has a sign. -/
def integerOr (negative : Bool) (n : Nat) : Numeral :=
  if !negative then .integer n
  else if n ≠ 0 ∧ n ≤ Number.twoTo 63 then .integer (-(n : Int))
  else .real (.neg (.ofNat n))

/-- A number with a point, an exponent or too many digits is its significand times or divided by one
power of ten, each step rounded; so it need not be the nearest binary number. -/
def Written.value (w : Written) : Except SyntaxError Numeral :=
  let whole := gatherWhole 0 w.whole
  if w.fraction.isNone && w.exponent.isNone && whole.exponent == 0 then
    .ok (integerOr w.negative whole.significand)
  else
    let s := gatherFraction whole (w.fraction.getD [])
    let real : Except SyntaxError Binary64 :=
      match w.exponent with
      | none => s.toBinary
      | some (down, ds) =>
        match Number.digitsUpTo? maxInt32 ds with
        | some e => Scaled.toBinary ⟨s.significand, s.exponent + Number.signed down e⟩
        | none =>
          if s.significand ≠ 0 ∧ !down then .error .numberOutOfRange else .ok (.zero false)
    real.map fun x => .real (if w.negative then x.neg else x)

/-- A number that ends with the text looks different to a reader who only skips it. -/
def missingDigit (r : List Char) : Fault :=
  if r.isEmpty then ⟨.endOfValue, .invalidNumber⟩ else .same .invalidNumber

def readDigits (cs : List Char) : Except Fault (List Char × List Char) :=
  let ds := cs.takeWhile Char.isDigit
  if ds.isEmpty then .error (missingDigit cs) else .ok (ds, cs.dropWhile Char.isDigit)

/-- No zero stands in front of another digit. -/
def readWhole (cs : List Char) : Except Fault (List Char × List Char) := do
  let (ds, r) ← readDigits cs
  if ds.head? = some '0' ∧ ds.length ≠ 1 then .error (.same .invalidNumber) else .ok (ds, r)

def readFraction : List Char → Except Fault (Option (List Char) × List Char)
  | '.' :: r => do
    let (ds, r) ← readDigits r
    return (some ds, r)
  | r => .ok (none, r)

def readExponent : List Char → Except Fault (Option (Bool × List Char) × List Char)
  | c :: r =>
    if c = 'e' ∨ c = 'E' then do
      let (down, r) := Number.takeSign r
      let (ds, r) ← readDigits r
      return (some (down, ds), r)
    else .ok (none, c :: r)
  | [] => .ok (none, [])

/-- Reads a number that begins with a digit or a minus. -/
def readNumber (cs : List Char) : Except Fault (Written × List Char) := do
  let (negative, r) := match cs with
    | '-' :: r => (true, r)
    | r => (false, r)
  let (whole, r) ← readWhole r
  let (fraction, r) ← readFraction r
  let (exponent, r) ← readExponent r
  return (⟨negative, whole, fraction, exponent⟩, r)

end ResourceQuery.Json
