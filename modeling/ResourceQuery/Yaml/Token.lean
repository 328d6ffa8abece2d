import ResourceQuery.Yaml.BlockScalar
import ResourceQuery.Yaml.Tag

namespace ResourceQuery.Yaml

inductive Style where
  | plain
  | quoted
  | literal
  | folded
  deriving DecidableEq, Repr

inductive Token where
  | directive (d : Directive)
  | documentStart
  | documentEnd
  | streamEnd
  | blockSequenceStart
  | blockMappingStart
  | blockEnd
  | flowSequenceStart
  | flowSequenceEnd
  | flowMappingStart
  | flowMappingEnd
  | blockEntry
  | flowEntry
  | key
  | value
  | reference (name : String)
  | anchor (name : String)
  | tag (text : TagText)
  | scalar (style : Style) (text : String)
  deriving DecidableEq, Repr

/-- A place where a simple key may have begun. It ends in its line, within 1024 bytes. -/
structure PossibleKey where
  /-- A block of entries stands here, so nothing but a key may. -/
  required : Bool
  /-- The tokens before it. -/
  before : Nat
  line : Nat
  column : Nat
  offset : Nat
  deriving DecidableEq, Repr

/-- A text that is read up to some place. -/
structure Lexer where
  rest : List Cell
  /-- Columns of the open blocks, the innermost first. -/
  blocks : List Nat
  keyAllowed : Bool
  key : Option PossibleKey
  /-- The possible keys outside of the open brackets, the innermost first. Some may be past. -/
  outerKeys : List (Option PossibleKey)
  /-- The possible key outside of all open brackets, the only one of them that may be required. -/
  lineKey : Option PossibleKey
  /-- The tokens so far, backwards. -/
  tokens : List Token
  count : Nat
  deriving Repr

namespace Lexer

def start (cs : List Cell) : Lexer :=
  ⟨cs, [], true, none, [], none, [], 0⟩

def column (l : Lexer) : Nat :=
  (l.rest.head?.map Cell.column).getD 0

def line (l : Lexer) : Nat :=
  (l.rest.head?.map Cell.line).getD 0

def offset (l : Lexer) : Nat :=
  (l.rest.head?.map Cell.offset).getD 0

/-- Whether brackets are open. -/
def inFlow (l : Lexer) : Bool :=
  !l.outerKeys.isEmpty

/-- The least column of a line that belongs to the innermost block. -/
def leastColumn (l : Lexer) : Nat :=
  match l.blocks with
  | [] => 0
  | column :: _ => column + 1

def push (l : Lexer) (t : Token) : Lexer :=
  { l with tokens := t :: l.tokens, count := l.count + 1 }

/-- Puts a token in behind the first `before` ones. -/
def insert (l : Lexer) (before : Nat) (t : Token) : Lexer :=
  let (late, early) := l.tokens.splitAt (l.count - before)
  { l with tokens := late ++ t :: early, count := l.count + 1 }

def PossibleKey.isPast (k : PossibleKey) (l : Lexer) : Bool :=
  k.line < l.line || k.offset + 1024 < l.offset

/-- Gives up a possible key. -/
def dropKey? : Option PossibleKey → Except SyntaxError (Option PossibleKey)
  | none => .ok none
  | some k => if k.required then Activity.simpleKey.refuse .expectedColon else .ok none

def dropKey (l : Lexer) : Except SyntaxError Lexer := do
  return { l with key := ← dropKey? l.key }

/-- Gives up the possible keys that the text has left behind. Those between the innermost and the
outermost are left to be given up when their brackets are closed. -/
def dropPastKeys (l : Lexer) : Except SyntaxError Lexer := do
  let check (k : Option PossibleKey) : Except SyntaxError (Option PossibleKey) :=
    if k.any (PossibleKey.isPast · l) then dropKey? k else .ok k
  return { l with key := ← check l.key, lineKey := ← check l.lineKey }

/-- A simple key may begin here. -/
def saveKey (l : Lexer) : Except SyntaxError Lexer := do
  if l.keyAllowed then
    let l ← l.dropKey
    let required := !l.inFlow && l.blocks.head? == some l.column
    return { l with key := some ⟨required, l.count, l.line, l.column, l.offset⟩ }
  else return l

/-- The blocks with columns below `least`, and how many others there are. -/
def closeTo (least : Nat) : List Nat → List Nat × Nat
  | [] => ([], 0)
  | column :: outer =>
    if least ≤ column then
      let (kept, n) := closeTo least outer
      (kept, n + 1)
    else (column :: outer, 0)

def pushEnds (l : Lexer) : Nat → Lexer
  | 0 => l
  | n + 1 => pushEnds (l.push .blockEnd) n

/-- Ends the blocks with columns from `least` on; inside brackets there are none. -/
def closeBlocks (l : Lexer) (least : Nat) : Lexer :=
  if l.inFlow then l
  else
    let (blocks, n) := closeTo least l.blocks
    ({ l with blocks := blocks } : Lexer).pushEnds n

/-- Opens a block in a column, if it stands deeper than the innermost one. Its token goes behind the
first `before` ones. -/
def openBlock (l : Lexer) (column before : Nat) (t : Token) : Lexer :=
  if !l.inFlow && l.leastColumn ≤ column then
    ({ l with blocks := column :: l.blocks } : Lexer).insert before t
  else l

/-- Passes over blanks, line ends and comments. Where a key may begin a tab is no blank. -/
def skip (flow : Bool) : Bool → Bool → List Cell → Bool × List Cell
  | allowed, _, [] => (allowed, [])
  | allowed, comment, c :: cs =>
    if isLineEnd c.char then skip flow (allowed || !flow) false cs
    else if isEnd c.char then (allowed, c :: cs)
    else if comment then skip flow allowed true cs
    else if c.char = '\ufeff' ∧ c.column = 0 then skip flow allowed false cs
    else if c.char = ' ' ∨ (c.char = '\t' ∧ (flow ∨ !allowed)) then skip flow allowed false cs
    else if c.char = '#' then skip flow allowed true cs
    else (allowed, c :: cs)

def skipToToken (l : Lexer) : Lexer :=
  let (allowed, rest) := skip l.inFlow l.keyAllowed false l.rest
  { l with rest := rest, keyAllowed := allowed }

/-- A token of `n` characters. -/
def take (l : Lexer) (n : Nat) (t : Token) : Lexer :=
  ({ l with rest := l.rest.drop n } : Lexer).push t

/-- Something that ends all blocks, and is none of them. -/
def leaveBlocks (l : Lexer) : Except SyntaxError Lexer := do
  let l ← (l.closeBlocks 0).dropKey
  return { l with keyAllowed := false }

def readStreamEnd (l : Lexer) : Except SyntaxError Lexer := do
  return (← l.leaveBlocks).push .streamEnd

def readDirectiveLine (l : Lexer) : Except SyntaxError Lexer := do
  let l ← l.leaveBlocks
  let (d, rest) ← readDirective (l.rest.drop 1)
  return ({ l with rest := rest } : Lexer).push (.directive d)

def readMarker (l : Lexer) (t : Token) : Except SyntaxError Lexer := do
  return (← l.leaveBlocks).take 3 t

def readOpening (l : Lexer) (t : Token) : Except SyntaxError Lexer := do
  let l ← l.saveKey
  let lineKey := if l.inFlow then l.lineKey else l.key
  let outerKeys := l.key :: l.outerKeys
  let l := { l with outerKeys := outerKeys, lineKey := lineKey, key := none, keyAllowed := true }
  return l.take 1 t

def readClosing (l : Lexer) (t : Token) : Except SyntaxError Lexer := do
  let l ← l.dropKey
  let l := match l.outerKeys with
    | [] => l
    | key :: outer =>
      { l with key := key, outerKeys := outer, lineKey := if outer.isEmpty then none else l.lineKey }
  return ({ l with keyAllowed := false } : Lexer).take 1 t

def readComma (l : Lexer) : Except SyntaxError Lexer := do
  let l ← l.dropKey
  return ({ l with keyAllowed := true } : Lexer).take 1 .flowEntry

def readDash (l : Lexer) : Except SyntaxError Lexer := do
  if !l.inFlow && !l.keyAllowed then Problem.sequenceNotAllowed.refuse
  let l ← (l.openBlock l.column l.count .blockSequenceStart).dropKey
  return ({ l with keyAllowed := true } : Lexer).take 1 .blockEntry

def readQuestionMark (l : Lexer) : Except SyntaxError Lexer := do
  if !l.inFlow && !l.keyAllowed then Problem.keyNotAllowed.refuse
  let l ← (l.openBlock l.column l.count .blockMappingStart).dropKey
  return ({ l with keyAllowed := !l.inFlow } : Lexer).take 1 .key

/-- A colon makes a key of what was read since the possible one. -/
def readColon (l : Lexer) : Except SyntaxError Lexer := do
  match l.key with
  | some k =>
    let l := (l.insert k.before .key).openBlock k.column k.before .blockMappingStart
    return ({ l with key := none, keyAllowed := false } : Lexer).take 1 .value
  | none =>
    if !l.inFlow && !l.keyAllowed then Problem.mappingNotAllowed.refuse
    let l := l.openBlock l.column l.count .blockMappingStart
    return ({ l with keyAllowed := !l.inFlow } : Lexer).take 1 .value

/-- Something that may begin a key, but behind which no key begins. -/
def readKeyPart (l : Lexer) (read : List Cell → Except SyntaxError (Token × List Cell)) :
    Except SyntaxError Lexer := do
  let l ← l.saveKey
  let (t, rest) ← read l.rest
  return ({ l with rest := rest, keyAllowed := false } : Lexer).push t

def readPlainScalar (l : Lexer) : Except SyntaxError Lexer := do
  let l ← l.saveKey
  let (text, newLine, rest) ← readPlain l.inFlow l.leastColumn [] .empty l.rest
  return ({ l with rest := rest, keyAllowed := newLine } : Lexer).push (.scalar .plain text)

def readBlock (l : Lexer) (style : Style) : Except SyntaxError Lexer := do
  let l ← l.dropKey
  let (text, rest) ← readBlockScalar (style = .folded) l.leastColumn (l.rest.drop 1)
  return ({ l with rest := rest, keyAllowed := true } : Lexer).push (.scalar style text)

/-- The token that begins here. -/
def readToken (l : Lexer) : Except SyntaxError Lexer :=
  let cs := l.rest
  let c := peek cs
  let flow := l.inFlow
  let attached := !atBlank (cs.drop 1)
  if atEnd cs then l.readStreamEnd
  else if l.column == 0 && c == '%' then l.readDirectiveLine
  else if atMarker '-' cs then l.readMarker .documentStart
  else if atMarker '.' cs then l.readMarker .documentEnd
  else if c = '[' then l.readOpening .flowSequenceStart
  else if c = '\x7b' then l.readOpening .flowMappingStart
  else if c = ']' then l.readClosing .flowSequenceEnd
  else if c = '\x7d' then l.readClosing .flowMappingEnd
  else if c = ',' then l.readComma
  else if c == '-' && !attached then l.readDash
  else if c == '?' && (flow || !attached) then l.readQuestionMark
  else if c == ':' && (flow || !attached) then l.readColon
  else if c = '*' then l.readKeyPart fun cs => do
    let (name, r) ← readName .reference (cs.drop 1)
    return (.reference name, r)
  else if c = '&' then l.readKeyPart fun cs => do
    let (name, r) ← readName .anchor (cs.drop 1)
    return (.anchor name, r)
  else if c = '!' then l.readKeyPart fun cs => do
    let (text, r) ← readTag flow cs
    return (.tag text, r)
  else if c == '|' && !flow then l.readBlock .literal
  else if c == '>' && !flow then l.readBlock .folded
  else if c = '\'' then l.readKeyPart fun cs => do
    let (text, r) ← readSingle [] .empty (cs.drop 1)
    return (.scalar .quoted text, r)
  else if c = '"' then l.readKeyPart fun cs => do
    let (text, r) ← readDouble 0 0 [] .empty (cs.drop 1)
    return (.scalar .quoted text, r)
  else if startsPlain flow cs then l.readPlainScalar
  else Activity.nextToken.refuse .badStart

/-- Fails where the text cannot be read any further. -/
def checkReadable (l : Lexer) : Except SyntaxError Lexer :=
  match unreadable? l.rest with
  | some e => .error e
  | none => .ok l

def step (l : Lexer) : Except SyntaxError Lexer := do
  let l ← (← l.skipToToken.checkReadable).dropPastKeys
  let l ← (← (l.closeBlocks (l.column + 1)).readToken).checkReadable
  l.dropPastKeys

/-- How many tokens are settled: nothing will be put in front of them. -/
def settled (l : Lexer) : Nat :=
  let keys := (l.key :: l.outerKeys).filterMap id
  (keys.filter fun k => !PossibleKey.isPast k l).foldl (fun n k => min n k.before) l.count

/-- Every token has a character of its own but the last, so as many steps as cells are enough. -/
def run : Nat → Lexer → Reading Token
  | 0, l => ⟨l.tokens.reverse, none⟩
  | fuel + 1, l =>
    match l.step with
    | .ok next =>
      if next.tokens.head? = some .streamEnd then ⟨next.tokens.reverse, none⟩ else run fuel next
    | .error e => ⟨l.tokens.reverse.take l.settled, some e⟩

end Lexer

/-- The tokens of a text. Those behind which a fault follows before they are settled are lost. -/
def Token.ofText (s : String) : Reading Token :=
  let cs := cells s
  (Lexer.start cs).run cs.length

end ResourceQuery.Yaml
