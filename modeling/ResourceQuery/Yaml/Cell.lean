import ResourceQuery.Yaml.Basic

namespace ResourceQuery.Yaml

/-- A character that knows its place, so that indentation is a property of a cell. -/
structure Cell where
  char : Char
  line : Nat
  column : Nat
  /-- The bytes before the cell. -/
  offset : Nat
  deriving DecidableEq, Repr

/-- What stands at the end of a text. No text that can be read holds this character. -/
def endMark : Char := '\x00'

/-- What stands where a text cannot be read any further; no text that can be read holds it, either. -/
def faultMark : Char := '\x01'

def isEnd (c : Char) : Bool :=
  c == endMark || c == faultMark

def isSpace (c : Char) : Bool :=
  c == ' ' || c == '\t'

/-- The ends of a line in a text of cells, where the other ones are written as the first. -/
def isLineEnd (c : Char) : Bool :=
  c == '\n' || c == '\u2028' || c == '\u2029'

def isLineEndOrEnd (c : Char) : Bool :=
  isLineEnd c || isEnd c

def isBlank (c : Char) : Bool :=
  isSpace c || isLineEndOrEnd c

/-- The characters of anchors and of the names of directives and handles. -/
def isNameChar (c : Char) : Bool :=
  c.isAlphanum || c == '_' || c == '-'

def isFlowMark (c : Char) : Bool :=
  c == ',' || c == '[' || c == ']' || c == '\x7b' || c == '\x7d'

/-- Cells of a text that goes on at the given place. -/
def cellsFrom (line column offset : Nat) : List Char → List Cell
  | [] => [⟨endMark, line, column, offset⟩]
  | '\r' :: '\n' :: cs => ⟨'\n', line, column, offset⟩ :: cellsFrom (line + 1) 0 (offset + 2) cs
  | c :: cs =>
    if c = '\r' ∨ c = '\x85' then
      ⟨'\n', line, column, offset⟩ :: cellsFrom (line + 1) 0 (offset + c.utf8Size) cs
    else if isLineEnd c then
      ⟨c, line, column, offset⟩ :: cellsFrom (line + 1) 0 (offset + c.utf8Size) cs
    else ⟨c, line, column, offset⟩ :: cellsFrom line (column + 1) (offset + c.utf8Size) cs

/-- Whether a character may stand in a text: no control character but tabs and line ends. -/
def isReadable (c : Char) : Bool :=
  let n := c.toNat
  c == '\t' || c == '\n' || c == '\r' || (0x20 ≤ n && n ≤ 0x7e) || n == 0x85 ||
    (0xa0 ≤ n && n ≤ 0xfffd) || 0x10000 ≤ n

/-- A text is taken in by blocks of that many bytes, without the part of a character at their end. -/
def blockBytes : Nat := 16384

/-- Where a text cannot be read: how many bytes stand before the block with the first character that
may not stand in it, and before that character. The block so far begins at `start`. -/
def unreadableFrom (start offset : Nat) : List Char → Option (Nat × Nat)
  | [] => none
  | c :: cs =>
    let next := offset + c.utf8Size
    let start := if start + blockBytes < next then offset else start
    if isReadable c then unreadableFrom start next cs else some (start, offset)

/-- The cells of a text. A block that cannot be read is one cell, in the place of what is wrong. -/
def cells (s : String) : List Cell :=
  let all := cellsFrom 0 0 0 s.toList
  match unreadableFrom 0 0 s.toList with
  | none => all
  | some (start, offset) =>
    all.takeWhile (fun c => c.offset < start) ++ [⟨faultMark, 0, 0, offset⟩]

/-- The fault of a text that cannot be read any further. -/
def unreadable? : List Cell → Option SyntaxError
  | c :: _ => if c.char = faultMark then some ⟨.controlCharacter c.offset, none⟩ else none
  | [] => none

/-- A fault met while something was being read, at the given cells. -/
def Activity.refuseAt {α : Type} (a : Activity) (cs : List Cell) (p : Problem) :
    Except SyntaxError α :=
  .error ((unreadable? cs).getD ⟨p, some a⟩)

def peek : List Cell → Char
  | c :: _ => c.char
  | [] => endMark

/-- Whether a blank, a line end or the end comes next. -/
def atBlank (cs : List Cell) : Bool :=
  isBlank (peek cs)

def atEnd (cs : List Cell) : Bool :=
  peek cs == endMark

/-- Three of a mark at the start of a line, with nothing attached. -/
def atMarker (mark : Char) : List Cell → Bool
  | a :: b :: c :: cs =>
    a.column == 0 && a.char == mark && b.char == mark && c.char == mark && atBlank cs
  | _ => false

/-- `---` or `...` at the start of a line. -/
def atDocumentMarker (cs : List Cell) : Bool :=
  atMarker '-' cs || atMarker '.' cs

def skipSpaces (cs : List Cell) : List Cell :=
  cs.dropWhile fun c => isSpace c.char

/-- Passes over the rest of the line, but not over its end. -/
def skipToLineEnd (cs : List Cell) : List Cell :=
  cs.dropWhile fun c => !isLineEndOrEnd c.char

/-- Passes over blanks and a comment, but not over the end of the line. -/
def skipComment (cs : List Cell) : List Cell :=
  let r := skipSpaces cs
  if peek r = '#' then skipToLineEnd r else r

/-- Passes over the end of a line, if one comes next. -/
def skipLineEnd (cs : List Cell) : List Cell :=
  if isLineEnd (peek cs) then cs.drop 1 else cs

/-- The characters from here on for which the test holds, and what follows them. -/
def spanChars (p : Char → Bool) (cs : List Cell) : List Char × List Cell :=
  let (run, rest) := cs.span fun c => p c.char
  (run.map Cell.char, rest)

end ResourceQuery.Yaml
