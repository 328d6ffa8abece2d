import ResourceQuery.Json.QuotedText
import ResourceQuery.Yaml.Cell

namespace ResourceQuery.Yaml

/-- The name behind `&` or `*`. -/
def readName (activity : Activity) (cs : List Cell) : Except SyntaxError (String × List Cell) :=
  let (name, r) := spanChars isNameChar cs
  if name.isEmpty || !(atBlank r || "?:,]\x7d%@`".contains (peek r)) then
    activity.refuseAt r .expectedName
  else .ok (String.ofList name, r)

/-- The characters of a tag. Between angles the marks of a sequence may stand in it, too. -/
def isUriChar (verbatim : Bool) (c : Char) : Bool :=
  isNameChar c || ";/?:@&=+$.%!~*'()".contains c || (verbatim && ",[]".contains c)

/-- How many octets follow the first one of a character. -/
def trailingOctets? (octet : Nat) : Option Nat :=
  if octet < 0x80 then some 0
  else if octet < 0xC0 then none
  else if octet < 0xE0 then some 1
  else if octet < 0xF0 then some 2
  else if octet < 0xF8 then some 3
  else none

/-- The octet that two digits write. -/
def octet? (high low : Char) : Option Nat := do
  return 16 * (← Json.hexValue? high) + (← Json.hexValue? low)

/-- Octets behind `acc`, which is backwards; `%` and two digits are one of any value. `trailing`
octets of a character are still to come. -/
def readUriChars (activity : Activity) (verbatim : Bool) (trailing : Nat) (acc : List Char) :
    List Cell → Except SyntaxError (List Char × List Cell)
  | [] => if 0 < trailing then activity.refuse .expectedOctet else .ok (acc, [])
  | a :: cs =>
    if 0 < trailing ∨ a.char = '%' then
      match cs with
      | b :: c :: r =>
        match (if a.char = '%' then octet? b.char c.char else none) with
        | none => activity.refuse .expectedOctet
        | some octet =>
          let acc := Char.ofNat octet :: acc
          if 0 < trailing then
            if 0x80 ≤ octet ∧ octet < 0xC0 then readUriChars activity verbatim (trailing - 1) acc r
            else activity.refuse .badTrailingOctet
          else
            match trailingOctets? octet with
            | none => activity.refuse .badLeadingOctet
            | some n => readUriChars activity verbatim n acc r
      | _ => activity.refuseAt (a :: cs) .expectedOctet
    else if isUriChar verbatim a.char then
      readUriChars activity verbatim 0 (a.char :: acc) cs
    else .ok (acc, a :: cs)

/-- The rest of a tag that begins with `start`. It may only be empty if something stands before it. -/
def readUri (activity : Activity) (verbatim mayBeEmpty : Bool) (start : List Char) (cs : List Cell) :
    Except SyntaxError (String × List Cell) := do
  let (acc, r) ← readUriChars activity verbatim 0 start.reverse cs
  if acc.isEmpty && !mayBeEmpty then activity.refuseAt r .expectedTagUri
  else return (String.ofList (acc.reverse.takeWhile (· != endMark)), r)

/-- `!`, a name and perhaps another `!`. -/
def readHandle (activity : Activity) (cs : List Cell) : Except SyntaxError (List Char × List Cell) :=
  if peek cs = '!' then
    let (name, r) := spanChars isNameChar (cs.drop 1)
    if peek r = '!' then .ok ('!' :: (name ++ ['!']), r.drop 1) else .ok ('!' :: name, r)
  else activity.refuseAt cs .expectedHandle

/-- A tag before its handle is looked up. Without a handle the rest is the tag. -/
structure TagText where
  handle : String
  rest : String
  deriving DecidableEq, Repr

/-- A tag in angles, one with a handle, or one behind a single `!`; that sign alone is a tag. -/
def readTagText (cs : List Cell) : Except SyntaxError (TagText × List Cell) := do
  if peek (cs.drop 1) = '<' then
    let (rest, r) ← readUri .tagValue true false [] (cs.drop 2)
    if peek r = '>' then return (⟨"", rest⟩, r.drop 1)
    else Activity.tag.refuseAt r .expectedTagClose
  else
    let (handle, r) ← readHandle .tag cs
    if 1 < handle.length && handle.getLast? = some '!' then
      let (rest, r) ← readUri .tagValue false false [] r
      return (⟨String.ofList handle, rest⟩, r)
    else
      let (rest, r) ← readUri .tagValue false true (handle.drop 1) r
      return (if rest.isEmpty then ⟨"", "!"⟩ else ⟨"!", rest⟩, r)

/-- A tag, with something behind it that is none of it. -/
def readTag (flow : Bool) (cs : List Cell) : Except SyntaxError (TagText × List Cell) := do
  let (tag, r) ← readTagText cs
  if atBlank r || (flow && peek r == ',') then return (tag, r)
  else Activity.tag.refuse .expectedBlankOrLineEnd

inductive Directive where
  | version (major minor : Nat)
  /-- What a handle stands for. -/
  | handle (name stem : String)
  deriving DecidableEq, Repr

/-- Up to nine digits. -/
def readVersionNumber (cs : List Cell) : Except SyntaxError (Nat × List Cell) :=
  let (digits, r) := spanChars Char.isDigit cs
  if 9 < digits.length then Activity.versionDirective.refuse .longVersion
  else if digits.isEmpty then Activity.versionDirective.refuseAt r .expectedVersion
  else .ok (Number.digitsValue digits, r)

def readVersion (cs : List Cell) : Except SyntaxError (Directive × List Cell) := do
  let (major, r) ← readVersionNumber (skipSpaces cs)
  if peek r = '.' then
    let (minor, r) ← readVersionNumber (r.drop 1)
    return (.version major minor, r)
  else Activity.versionDirective.refuseAt r .expectedVersionPoint

def readHandleDirective (cs : List Cell) : Except SyntaxError (Directive × List Cell) := do
  let (name, r) ← readHandle .directiveHandle (skipSpaces cs)
  if 1 < name.length && name.getLast? != some '!' then
    Activity.directiveHandleEnd.refuseAt r .expectedHandle
  else if !isSpace (peek r) then Activity.tagDirective.refuseAt r .expectedBlank
  else
    let (stem, r) ← readUri .tagDirectiveValue true false [] (skipSpaces r)
    if atBlank r then return (.handle (String.ofList name) stem, r)
    else Activity.tagDirective.refuse .expectedBlankOrLineEnd

/-- A directive from behind its `%` on, to the end of its line. -/
def readDirective (cs : List Cell) : Except SyntaxError (Directive × List Cell) := do
  let (name, r) := spanChars isNameChar cs
  if name.isEmpty then Activity.directive.refuseAt r .expectedDirectiveName
  else if !atBlank r then Activity.directive.refuse .directiveNameEnd
  else
    let (d, r) ←
      if name = "YAML".toList then readVersion r
      else if name = "TAG".toList then readHandleDirective r
      else Activity.directive.refuseAt r .unknownDirective
    let r := skipComment r
    if isLineEndOrEnd (peek r) then return (d, skipLineEnd r)
    else Activity.directive.refuse .expectedLineEnd

end ResourceQuery.Yaml
