import ResourceQuery.Number.Power

namespace ResourceQuery.Number

/-- In a finite number `m < 2 ^ 53` and `-1074 ≤ q ≤ 971`, and `q = -1074` unless `2 ^ 52 ≤ m`. -/
inductive Binary64 where
  | nan
  | infinite (negative : Bool)
  | finite (negative : Bool) (m : Nat) (q : Int)
  deriving DecidableEq, Repr

namespace Binary64

def zero (negative : Bool) : Binary64 :=
  .finite negative 0 (-1074)

/-- The quotient rounded to nearest, ties to even. -/
def roundQuotient (num den : Nat) : Nat :=
  let d := num / den
  let r := num % den
  if 2 * r < den then d
  else if den < 2 * r then d + 1
  else if d % 2 = 0 then d else d + 1

/-- Numerator and denominator of `num / den / 2 ^ q`. -/
def rescale (num den : Nat) (q : Int) : Nat × Nat :=
  if q < 0 then (num * twoTo q.natAbs, den) else (num, den * twoTo q.toNat)

/-- The exponent at which `num / den` has 53 bits before the point, or the least one. -/
def exponentFor (num den : Nat) : Int :=
  let q := max (-1074) ((num.log2 : Int) - den.log2 - 53)
  let (n, d) := rescale num den q
  if twoTo 53 * d ≤ n then q + 1 else q

/-- The number next to `num / den`; from `2 ^ 1024 - 2 ^ 970` on there is none but infinity. -/
def ofRatio (negative : Bool) (num den : Nat) : Binary64 :=
  if num = 0 then zero negative
  else
    let q := exponentFor num den
    let (n, d) := rescale num den q
    let m := roundQuotient n d
    let (m, q) := if m = twoTo 53 then (twoTo 52, q + 1) else (m, q)
    if 971 < q then .infinite negative else .finite negative m q

/-- `num / den * 2 ^ q`, rounded. -/
def ofScaledRatio (negative : Bool) (num den : Nat) (q : Int) : Binary64 :=
  let (n, d) := rescale num den (-q)
  ofRatio negative n d

def ofNat (n : Nat) : Binary64 :=
  ofRatio false n 1

/-- `n * 10 ^ e`, rounded once. From `10 ^ 310` on all is infinite, and below `10 ^ -324` all is zero,
so the powers of ten that are computed are no greater than that and `n` ask for. -/
def ofDecimal (negative : Bool) (n : Nat) (e : Int) : Binary64 :=
  if n = 0 then zero negative
  else if 310 ≤ e then .infinite negative
  else if e + n.log2 + 1 < -324 then zero negative
  else if 0 ≤ e then ofRatio negative (n * tenTo e.toNat) 1
  else ofRatio negative n (tenTo e.natAbs)

def isFinite : Binary64 → Bool
  | .finite .. => true
  | _ => false

def isZero : Binary64 → Bool
  | .finite _ m _ => m == 0
  | _ => false

def neg : Binary64 → Binary64
  | .nan => .nan
  | .infinite s => .infinite (!s)
  | .finite s m q => .finite (!s) m q

/-- Product of two finite numbers. -/
def mul : Binary64 → Binary64 → Binary64
  | .finite s m q, .finite t n p => ofScaledRatio (s != t) (m * n) 1 (q + p)
  | _, _ => .nan

/-- Quotient of two finite numbers, the second not zero. -/
def div : Binary64 → Binary64 → Binary64
  | .finite s m q, .finite t n p =>
    if n = 0 then .nan else ofScaledRatio (s != t) m n (q - p)
  | _, _ => .nan

end Binary64

end ResourceQuery.Number
