import ResourceQuery.Number.Decimal
import ResourceQuery.Number.Shortest
import ResourceQuery.Text.Quoted
import ResourceQuery.Yaml.Event

namespace ResourceQuery.Yaml

inductive Meaning where
  | null
  | boolean (b : Bool)
  | integer (n : Int)
  | real (x : Number.Binary64)
  | text (s : String)
  deriving DecidableEq, Repr

def isNull (s : String) : Bool :=
  ["null", "Null", "NULL", "~"].contains s

def truth? (s : String) : Option Bool :=
  if ["true", "True", "TRUE"].contains s then some true
  else if ["false", "False", "FALSE"].contains s then some false
  else none

def maxNat128 : Nat :=
  Number.twoTo 128 - 1

def minInt128 : Int :=
  -(Number.twoTo 127 : Int)

/-- The number that digits of a base write, if it has 128 bits at most. -/
def digitsIn? (base : Nat) (cs : List Char) : Option Nat :=
  if cs.isEmpty then none
  else cs.foldlM (fun n c => (Json.hexValue? c).bind fun d =>
    if d < base ∧ base * n + d ≤ maxNat128 then some (base * n + d) else none) 0

/-- The base that a letter behind a zero stands for. -/
def base? : Char → Option Nat
  | 'x' => some 16
  | 'o' => some 8
  | 'b' => some 2
  | _ => none

/-- Digits behind a zero and the letter of their base, or decimal digits. -/
def magnitude? (cs : List Char) : Option Nat :=
  match cs with
  | '0' :: c :: ds =>
    match base? c with
    | some base => digitsIn? base ds
    | none => none
  | ds => digitsIn? 10 ds

/-- Whether a zero stands in front of further digits, and nothing else: no number is written so. -/
def isZeroPadded (cs : List Char) : Bool :=
  let ds := (Number.takeSign cs).2
  1 < ds.length && ds.head? == some '0' && ds.all Char.isDigit

/-- An integer of at most 128 bits, with a sign or without. -/
def integer? (s : String) : Option Int :=
  let (negative, ds) := Number.takeSign s.toList
  (magnitude? ds).bind fun n =>
    let i := Number.signed negative n
    if minInt128 ≤ i then some i else none

/-- A finite decimal number, or the names of what is none. -/
def real? (s : String) : Option Number.Binary64 :=
  if [".inf", ".Inf", ".INF", "+.inf", "+.Inf", "+.INF"].contains s then some (.infinite false)
  else if ["-.inf", "-.Inf", "-.INF"].contains s then some (.infinite true)
  else if [".nan", ".NaN", ".NAN"].contains s then some .nan
  else
    (Number.Decimal.parse? s.toList).bind fun d =>
      if d.toBinary64.isFinite then some d.toBinary64 else none

/-- The meaning of a plain text. -/
def Meaning.ofPlain (s : String) : Meaning :=
  if s.isEmpty || isNull s then .null
  else
    match truth? s, integer? s with
    | some b, _ => .boolean b
    | none, some n => .integer n
    | none, none =>
      if isZeroPadded s.toList then .text s
      else
        match real? s with
        | some x => .real x
        | none => .text s

/-- The tags that name a meaning. -/
inductive CoreTag where
  | null
  | boolean
  | integer
  | real
  deriving DecidableEq, Repr

def CoreTag.ofName? (tag : String) : Option CoreTag :=
  if tag = "tag:yaml.org,2002:null" then some .null
  else if tag = "tag:yaml.org,2002:bool" then some .boolean
  else if tag = "tag:yaml.org,2002:int" then some .integer
  else if tag = "tag:yaml.org,2002:float" then some .real
  else none

/-- What a tag asks for. -/
def CoreTag.title : CoreTag → String
  | null => "null"
  | boolean => "a boolean"
  | integer => "an integer"
  | real => "a float"

/-- The meaning that a tag gives to a text. -/
def CoreTag.read? (t : CoreTag) (s : String) : Option Meaning :=
  match t with
  | null => if isNull s then some .null else none
  | boolean => (truth? s).map .boolean
  | integer => (integer? s).map .integer
  | real => (real? s).map .real

def Scalar.coreTag? (s : Scalar) : Option CoreTag :=
  s.tag.bind CoreTag.ofName?

/-- The meaning of a scalar, or the tag that its text does not go with. A plain scalar means what it
looks like, if its tag is a private one or it has none. -/
def Scalar.meaning (s : Scalar) : Except CoreTag Meaning :=
  match s.coreTag? with
  | some t =>
    match t.read? s.text with
    | some m => .ok m
    | none => .error t
  | none =>
    let looks := s.style = .plain ∧ s.tag.all (·.startsWith "!")
    .ok (if looks then .ofPlain s.text else .text s.text)

/-- The shortest digits that read back, all of them before and behind a point. -/
def printReal : Number.Binary64 → String
  | .nan => "NaN"
  | .infinite negative => if negative then "-inf" else "inf"
  | .finite negative m q =>
    (if negative then "-" else "") ++ Number.FloatLayout.print ⟨-400, 400⟩ m q

def Meaning.describe : Meaning → String
  | null => "unit value"
  | boolean b => "boolean `" ++ (if b then "true" else "false") ++ "`"
  | integer n =>
    let wide :=
      if (Number.maxNat64 : Int) < n then " as u128"
      else if n < Number.minInt64 then " as i128"
      else ""
    "integer `" ++ Number.printInt n ++ "`" ++ wide
  | real x => "floating point `" ++ printReal x ++ "`"
  | text s => "string " ++ Text.quoted s

end ResourceQuery.Yaml
