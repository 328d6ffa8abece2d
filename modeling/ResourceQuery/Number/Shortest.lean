import ResourceQuery.Number.Binary64
import ResourceQuery.Number.Integer

namespace ResourceQuery.Number

namespace Binary64

/-- An interval around a value, all three as numerators over one denominator. -/
structure Rounding where
  low : Nat
  value : Nat
  high : Nat
  den : Nat
  closed : Bool
  deriving Repr

/-- Below a power of two the neighbours lie half as far apart as above it. -/
def rounding (m : Nat) (q : Int) : Rounding :=
  let up := if 0 ≤ q then twoTo q.toNat else 1
  let down := if 0 ≤ q then 1 else twoTo q.natAbs
  let below := if m = twoTo 52 ∧ -1074 < q then 1 else 2
  ⟨(4 * m - below) * up, 4 * m * up, (4 * m + 2) * up, 4 * down, m % 2 == 0⟩

/-- Whether `num / den` rounds to the value. -/
def Rounding.contains (r : Rounding) (num den : Nat) : Bool :=
  if r.closed then r.low * den ≤ num * r.den && num * r.den ≤ r.high * den
  else r.low * den < num * r.den && num * r.den < r.high * den

/-- The least `j` with `den ≤ num * tenTo j`, sought from `j` on. -/
def leadingZeros (num den : Nat) : Nat → Nat → Nat
  | 0, j => j
  | fuel + 1, j => if den ≤ num * tenTo j then j else leadingZeros num den fuel (j + 1)

/-- The exponent of the first decimal digit of `num / den`. -/
def leadingExponent (num den : Nat) : Int :=
  if den ≤ num then ((decimalDigits (num / den)).length : Int) - 1
  else -(leadingZeros num den 330 1 : Int)

/-- The neighbour of the value on the grid of step `10 ^ e` that lies in the interval, the nearer
of two, the even one of two equally near. -/
def Rounding.onGrid? (r : Rounding) (e : Int) : Option Nat :=
  let up := if 0 ≤ e then tenTo e.toNat else 1
  let down := if 0 ≤ e then 1 else tenTo e.natAbs
  let step := r.den * up
  let scaled := r.value * down
  let d := scaled / step
  let rest := scaled % step
  match r.contains (d * up) down, r.contains ((d + 1) * up) down with
  | true, true =>
    if 2 * rest < step then some d
    else if step < 2 * rest then some (d + 1)
    else if d % 2 = 0 then some d else some (d + 1)
  | true, false => some d
  | false, true => some (d + 1)
  | false, false => none

/-- Tries `count` digits, then one more, until a grid has a hit. -/
def Rounding.firstGrid (r : Rounding) (lead : Int) : Nat → Nat → Nat × Int
  | 0, _ => (0, 0)
  | fuel + 1, count =>
    let e := lead - count + 1
    match r.onGrid? e with
    | some d => (d, e)
    | none => r.firstGrid lead fuel (count + 1)

/-- Digits `d` and exponent `e` of the shortest decimal `d * 10 ^ e` that reads back as `m * 2 ^ q`. -/
def shortest (m : Nat) (q : Int) : Nat × Int :=
  let r := rounding m q
  r.firstGrid (leadingExponent r.value r.den) 18 1

end Binary64

/-- How a finite number is laid out in text. -/
structure FloatLayout where
  /-- Exponents of the first digit from here … -/
  leastPositional : Int
  /-- … up to below here are written without an exponent. -/
  endPositional : Int
  deriving Repr

/-- Trailing zeros go to the exponent. -/
def stripZeros : Nat → List Char → List Char
  | 0, ds => ds
  | fuel + 1, ds => if ds.getLast? = some '0' then stripZeros fuel ds.dropLast else ds

/-- Digits with a point behind the first `n`, a zero on a side that would be empty. -/
def withPoint (ds : List Char) (e : Int) : String :=
  if 0 ≤ e then
    let n := e.toNat + 1
    let whole := ds.take n ++ List.replicate (n - ds.length) '0'
    let fraction := ds.drop n
    String.ofList (whole ++ '.' :: (if fraction.isEmpty then ['0'] else fraction))
  else String.ofList ('0' :: '.' :: (List.replicate (e.natAbs - 1) '0' ++ ds))

/-- One digit before the point, and a signed exponent. -/
def withExponent (ds : List Char) (e : Int) : String :=
  let fraction := ds.drop 1
  let mantissa := ds.take 1 ++ (if fraction.isEmpty then [] else '.' :: fraction)
  String.ofList mantissa ++ (if e < 0 then "e-" else "e+") ++ printNat e.natAbs

/-- The text of `m * 2 ^ q` by the layout, without a sign. -/
def FloatLayout.print (layout : FloatLayout) (m : Nat) (q : Int) : String :=
  if m = 0 then "0.0"
  else
    let (d, e) := Binary64.shortest m q
    let all := decimalDigits d
    let lead := e + all.length - 1
    let ds := stripZeros all.length all
    if layout.leastPositional ≤ lead ∧ lead < layout.endPositional then withPoint ds lead
    else withExponent ds lead

end ResourceQuery.Number
