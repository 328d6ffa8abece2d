import ResourceQuery.Number.Binary64
import ResourceQuery.Number.Integer

namespace ResourceQuery.Number

/-- The rational number `digits * 10 ^ exponent`, with a sign. -/
structure Decimal where
  negative : Bool
  digits : Nat
  exponent : Int
  deriving DecidableEq, Repr

namespace Decimal

/-- The exponent behind `e` or `E`, zero when there is none. -/
def exponent? : List Char → Option Int
  | [] => some 0
  | c :: r =>
    if c = 'e' ∨ c = 'E' then
      let (negative, ds) := takeSign r
      if isDigits ds then some (signed negative (digitsValue ds)) else none
    else none

/-- The digits before a point and those behind it, and the text after them. -/
def takeMantissa (cs : List Char) : List Char × List Char × List Char :=
  let whole := cs.takeWhile Char.isDigit
  match cs.dropWhile Char.isDigit with
  | '.' :: r => (whole, r.takeWhile Char.isDigit, r.dropWhile Char.isDigit)
  | r => (whole, [], r)

/-- A sign, digits, a point and digits, with a digit on one side of the point at least. -/
def parse? (cs : List Char) : Option Decimal :=
  let (negative, r) := takeSign cs
  let (whole, fraction, r) := takeMantissa r
  if whole.isEmpty && fraction.isEmpty then none
  else (exponent? r).map fun e =>
    ⟨negative, digitsValue (whole ++ fraction), e - fraction.length⟩

def toBinary64 (d : Decimal) : Binary64 :=
  .ofDecimal d.negative d.digits d.exponent

end Decimal

/-- The decimal numbers and, in any case of letters, `inf`, `infinity` and `nan`. -/
def parseExtended? (cs : List Char) : Option Binary64 :=
  match Decimal.parse? cs with
  | some d => some d.toBinary64
  | none =>
    let (negative, r) := takeSign cs
    let word := String.ofList (Text.lowerAscii r)
    if word = "nan" then some .nan
    else if word = "inf" ∨ word = "infinity" then some (.infinite negative)
    else none

/-- A finite number with blanks around it or without. -/
def parseFloat? (cs : List Char) : Option Binary64 :=
  (parseExtended? (Text.trim cs)).filter Binary64.isFinite

end ResourceQuery.Number
