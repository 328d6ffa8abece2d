import ResourceQuery.Json.QuotedText
import ResourceQuery.Yaml.Cell

namespace ResourceQuery.Yaml

/-- What stands between two words: blanks, or line ends with the blanks around them dropped. -/
inductive Gap where
  | spaces (backwards : List Char)
  /-- The first line end, none if it was taken back, and those behind it. -/
  | lines (first : Option Char) (backwards : List Char)
  deriving DecidableEq, Repr

namespace Gap

def empty : Gap :=
  .spaces []

def isEmpty : Gap → Bool
  | .spaces [] => true
  | _ => false

def isLines : Gap → Bool
  | .lines .. => true
  | .spaces _ => false

/-- The gap with one more blank or line end. -/
def push (g : Gap) (c : Char) : Gap :=
  match g, isLineEnd c with
  | .spaces cs, false => .spaces (c :: cs)
  | .spaces _, true => .lines (some c) []
  | .lines first more, false => .lines first more
  | .lines first more, true => .lines first (c :: more)

/-- The text so far with the gap behind it. One line end is written as a space, and of several the
first is dropped; the two other ends of a line stay. -/
def onto (g : Gap) (acc : List Char) : List Char :=
  match g with
  | .spaces cs => cs ++ acc
  | .lines (some '\n') [] => ' ' :: acc
  | .lines (some '\n') more => more ++ acc
  | .lines (some c) more => more ++ c :: acc
  | .lines none more => more ++ acc

end Gap

/-- Text is gathered backwards, the last character first. -/
def forwards (acc : List Char) : String :=
  String.ofList acc.reverse

/-- Up to the closing quote; a doubled quote is one quote. -/
def readSingle (acc : List Char) (gap : Gap) : List Cell → Except SyntaxError (String × List Cell)
  | [] => Activity.quotedScalar.refuse .endInQuotes
  | c :: cs =>
    if atDocumentMarker (c :: cs) then Activity.quotedScalar.refuse .markerInQuotes
    else if isEnd c.char then Activity.quotedScalar.refuseAt (c :: cs) .endInQuotes
    else if isBlank c.char then readSingle acc (gap.push c.char) cs
    else if c.char = '\'' then
      match cs with
      | d :: ds =>
        if d.char = '\'' then readSingle ('\'' :: gap.onto acc) .empty ds
        else .ok (forwards (gap.onto acc), d :: ds)
      | [] => .ok (forwards (gap.onto acc), [])
    else readSingle (c.char :: gap.onto acc) .empty cs

def namedEscape? : Char → Option Char
  | '0' => some '\x00'
  | 'a' => some '\x07'
  | 'b' => some '\x08'
  | 't' => some '\t'
  | '\t' => some '\t'
  | 'n' => some '\n'
  | 'v' => some '\x0b'
  | 'f' => some '\x0c'
  | 'r' => some '\r'
  | 'e' => some '\x1b'
  | ' ' => some ' '
  | '"' => some '"'
  | '/' => some '/'
  | '\\' => some '\\'
  | 'N' => some '\x85'
  | '_' => some '\xa0'
  | 'L' => some '\u2028'
  | 'P' => some '\u2029'
  | _ => none

/-- How many digits an escape by number has. -/
def escapeDigits : Char → Nat
  | 'x' => 2
  | 'u' => 4
  | 'U' => 8
  | _ => 0

/-- Up to the closing quote. `digits` of an escape by number are still to come; those before them
write `code`. -/
def readDouble (digits code : Nat) (acc : List Char) (gap : Gap) :
    List Cell → Except SyntaxError (String × List Cell)
  | [] => Activity.quotedScalar.refuse .endInQuotes
  | c :: cs =>
    match digits with
    | n + 1 =>
      match Json.hexValue? c.char with
      | none => Activity.escape.refuseAt (c :: cs) .expectedHexNumber
      | some d =>
        let code := 16 * code + d
        if 0 < n then readDouble n code acc gap cs
        else if code.isValidChar then readDouble 0 0 (Char.ofNat code :: acc) gap cs
        else Activity.escape.refuse .invalidCodePoint
    | 0 =>
      if atDocumentMarker (c :: cs) then Activity.quotedScalar.refuse .markerInQuotes
      else if isEnd c.char then Activity.quotedScalar.refuseAt (c :: cs) .endInQuotes
      else if isBlank c.char then readDouble 0 0 acc (gap.push c.char) cs
      else if c.char = '"' then .ok (forwards (gap.onto acc), cs)
      else if c.char = '\\' then
        match cs with
        | [] => Activity.escape.refuse .unknownEscape
        | d :: ds =>
          if isLineEnd d.char then readDouble 0 0 (gap.onto acc) (.lines none []) ds
          else
            match namedEscape? d.char with
            | some e => readDouble 0 0 (e :: gap.onto acc) .empty ds
            | none =>
              if escapeDigits d.char = 0 then Activity.escape.refuseAt (d :: ds) .unknownEscape
              else readDouble (escapeDigits d.char) 0 (gap.onto acc) .empty ds
      else readDouble 0 0 (c.char :: gap.onto acc) .empty cs

/-- A colon that ends a key. -/
def atColon (cs : List Cell) : Bool :=
  peek cs == ':' && atBlank (cs.drop 1)

/-- A colon before a mark, which no word may end in. -/
def atStuckColon (cs : List Cell) : Bool :=
  let next := peek (cs.drop 1)
  peek cs == ':' && (isFlowMark next || next == '?')

/-- A plain scalar ends at a colon, before a comment, at a line that is not indented and, inside
brackets, at their marks. What follows it stands behind its last gap, and in a new line if that gap
holds a line end. -/
def readPlain (flow : Bool) (indent : Nat) (acc : List Char) (gap : Gap) :
    List Cell → Except SyntaxError (String × Bool × List Cell)
  | [] => .ok (forwards acc, gap.isLines, [])
  | c :: cs =>
    let atWord := !gap.isEmpty
    if isEnd c.char then .ok (forwards acc, gap.isLines, c :: cs)
    else if isBlank c.char then
      if c.char = '\t' ∧ gap.isLines ∧ c.column < indent then
        Activity.plainScalar.refuse .tabInIndent
      else readPlain flow indent acc (gap.push c.char) cs
    else if atWord &&
        ((!flow && c.column < indent) || c.char == '#' || atDocumentMarker (c :: cs)) then
      .ok (forwards acc, gap.isLines, c :: cs)
    else if flow && atStuckColon (c :: cs) then Activity.plainScalar.refuse .unexpectedColon
    else if atColon (c :: cs) || (flow && isFlowMark c.char) then
      .ok (forwards acc, gap.isLines, c :: cs)
    else readPlain flow indent (c.char :: gap.onto acc) .empty cs

/-- Whether a plain scalar can begin here. -/
def startsPlain (flow : Bool) (cs : List Cell) : Bool :=
  let c := peek cs
  let next := peek (cs.drop 1)
  if isBlank c then false
  else if c == '-' then !isSpace next
  else if c == '?' || c == ':' then !flow && !isBlank next
  else !isFlowMark c && !"#&*!|>'\"%@`".contains c

end ResourceQuery.Yaml
