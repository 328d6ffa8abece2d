import ResourceQuery.Text.Blank

namespace ResourceQuery.Number

def digitValue (c : Char) : Nat :=
  c.toNat - '0'.toNat

/-- The number that a run of decimal digits writes. -/
def digitsValue (cs : List Char) : Nat :=
  cs.foldl (fun n c => 10 * n + digitValue c) 0

/-- The number that digits write, if it is `limit` at most. -/
def digitsUpTo? (limit : Nat) (cs : List Char) : Option Nat :=
  cs.foldlM (fun n c =>
    let m := 10 * n + digitValue c
    if m ≤ limit then some m else none) 0

def isDigits (cs : List Char) : Bool :=
  !cs.isEmpty && cs.all Char.isDigit

/-- Whether a sign is negative, and the text behind it. -/
def takeSign : List Char → Bool × List Char
  | '-' :: r => (true, r)
  | '+' :: r => (false, r)
  | cs => (false, cs)

def minInt64 : Int := -9223372036854775808
def maxInt64 : Int := 9223372036854775807
def maxNat64 : Nat := 18446744073709551615

def signed (negative : Bool) (n : Nat) : Int :=
  if negative then -(n : Int) else n

/-- Blanks around the number are allowed, anything outside 64 bits is not. -/
def parseInteger? (cs : List Char) : Option Int :=
  let (negative, ds) := takeSign (Text.trim cs)
  if isDigits ds then
    (digitsUpTo? maxNat64 ds).bind fun m =>
      let n := signed negative m
      if minInt64 ≤ n ∧ n ≤ maxInt64 then some n else none
  else none

/-- Decimal digits of a natural number. -/
def decimalDigits (n : Nat) : List Char :=
  Nat.toDigits 10 n

def printNat (n : Nat) : String :=
  String.ofList (decimalDigits n)

def printInt (n : Int) : String :=
  if n < 0 then "-" ++ printNat n.natAbs else printNat n.natAbs

/-- Digits with zeros in front up to the given width. -/
def padded (width n : Nat) : String :=
  let ds := decimalDigits n
  String.ofList (List.replicate (width - ds.length) '0' ++ ds)

end ResourceQuery.Number
