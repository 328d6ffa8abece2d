import ResourceQuery.Json.QuotedText
import ResourceQuery.Text.Alphanumeric

namespace ResourceQuery.Log.Pattern

structure Modes where
  /-- Characters are code points, and not bytes. -/
  unicode : Bool
  caseless : Bool
  /-- Blanks and comments stand between the parts. -/
  spaced : Bool
  deriving DecidableEq, Repr

def Modes.initial : Modes :=
  ⟨true, false, false⟩

/-- The modes with the one of a letter set; the others do not bear on validity. -/
def Modes.set (m : Modes) (letter : Char) (on : Bool) : Modes :=
  if letter = 'u' then { m with unicode := on }
  else if letter = 'i' then { m with caseless := on }
  else if letter = 'x' then { m with spaced := on }
  else m

/-- A part of a pattern that holds no other. -/
inductive Atom where
  | literal (c : Char)
  | any
  /-- A class that a letter names. -/
  | named (negated : Bool)
  | wordBoundary
  | edge
  deriving DecidableEq, Repr

/-- Whether an atom needs no table, and matches no part of a character. -/
def Modes.allows (m : Modes) : Atom → Bool
  | .literal c => if m.unicode then !m.caseless else c.toNat < 0x80
  | .any => m.unicode
  | .named negated => !m.unicode && !negated
  | .wordBoundary => !m.unicode
  | .edge => true

def skipFrom (comment : Bool) : List Char → List Char
  | [] => []
  | c :: cs =>
    if comment then skipFrom (c != '\n') cs
    else if Text.isBlank c then skipFrom false cs
    else if c = '#' then skipFrom true cs
    else c :: cs

def Modes.skip (m : Modes) (cs : List Char) : List Char :=
  if m.spaced then skipFrom false cs else cs

/-- A code point by its digits, `n` of which are to come. -/
def readHex? (m : Modes) : Nat → Nat → List Char → Option (Atom × List Char)
  | 0, code, cs => if code.isValidChar then some (.literal (Char.ofNat code), cs) else none
  | n + 1, code, cs =>
    match m.skip cs with
    | c :: r => (Json.hexValue? c).bind fun d => readHex? m n (16 * code + d) r
    | [] => none

/-- Marks of ASCII stand for themselves behind a backslash. -/
def isEscapable (c : Char) : Bool :=
  c.toNat < 0x80 && !c.isAlphanum && c != '<' && c != '>'

/-- What stands behind a backslash. -/
def readEscape? (m : Modes) : List Char → Option (Atom × List Char)
  | [] => none
  | c :: r =>
    if c = 'x' then readHex? m 2 0 r
    else if c = 'u' then readHex? m 4 0 r
    else if c = 'U' then readHex? m 8 0 r
    else if "dsw".contains c then some (.named false, r)
    else if "DSW".contains c then some (.named true, r)
    else if isEscapable c || "aftnrv".contains c then some (.literal c, r)
    else if "Az".contains c then some (.edge, r)
    else if "bB<>".contains c then some (.wordBoundary, r)
    else none

def asciiClasses : List String :=
  ["alnum", "alpha", "ascii", "blank", "cntrl", "digit", "graph", "lower", "print", "punct", "space",
   "upper", "word", "xdigit"]

/-- A class such as `[:alpha:]` from behind its bracket on: whether it is negated, and the rest. -/
def readAsciiClass? : List Char → Option (Bool × List Char)
  | ':' :: r =>
    let (negated, r) := match r with
      | '^' :: r => (true, r)
      | r => (false, r)
    match r.dropWhile (· != ':') with
    | ':' :: ']' :: rest =>
      if asciiClasses.contains (String.ofList (r.takeWhile (· != ':'))) then some (negated, rest)
      else none
    | _ => none
  | _ => none

/-- A character of a class, or a class inside it. -/
def readClassAtom? (m : Modes) : List Char → Option (Atom × List Char)
  | [] => none
  | '\\' :: r => readEscape? m r
  | c :: r => some (.literal c, r)

/-- A character, a class by name, or a range of characters. -/
def readClassItem? (m : Modes) (cs : List Char) : Option (List Char) := do
  let (low, r) ← readClassAtom? m cs
  let r := m.skip r
  let isRange := match r with
    | '-' :: t => match m.skip t with
      | ']' :: _ | '-' :: _ => false
      | _ => true
    | _ => false
  if isRange then
    let (high, r) ← readClassAtom? m (m.skip (r.drop 1))
    match low, high with
    | .literal a, .literal b => if a ≤ b && m.allows low && m.allows high then some r else none
    | _, _ => none
  else
    match low with
    | .literal _ | .named _ => if m.allows low then some r else none
    | _ => none

/-- How deep the parts of a class are nested, as far as it is read. -/
structure ClassDepth where
  /-- The depth of what stands before the last operator. -/
  left : Option Nat
  items : Nat
  deepest : Nat
  deriving DecidableEq, Repr

namespace ClassDepth

def empty : ClassDepth :=
  ⟨none, 0, 0⟩

def push (d : ClassDepth) (depth : Nat) : ClassDepth :=
  { d with items := d.items + 1, deepest := max d.deepest depth }

def union (d : ClassDepth) : Nat :=
  if 2 ≤ d.items then d.deepest + 1 else d.deepest

def whole (d : ClassDepth) : Nat :=
  match d.left with
  | none => d.union
  | some left => max left d.union + 1

/-- An operator between two classes binds to the left. -/
def operator (d : ClassDepth) : ClassDepth :=
  ⟨some d.whole, 0, 0⟩

end ClassDepth

/-- The marks at the start of a class: a negation, dashes, or a bracket that stands for itself. -/
def openClass? (m : Modes) (cs : List Char) : Option (ClassDepth × List Char) :=
  let r := m.skip cs
  let (negated, r) := match r with
    | '^' :: r => (true, m.skip r)
    | r => (false, r)
  let dashes := r.takeWhile fun c => c == '-' || (m.spaced && Text.isBlank c)
  let d := ClassDepth.empty
  if negated && !m.unicode then none
  else
    match r with
    | [] => none
    | '-' :: _ =>
      if m.allows (.literal '-') then some (⟨none, dashes.count '-', 0⟩, r.drop dashes.length)
      else none
    | ']' :: r => if m.allows (.literal ']') then some (d.push 0, r) else none
    | r => some (d, r)

/-- The rest of a class behind its first marks: how deep it is, and what follows it. `outer` are the
classes around it. Each step takes a character, so as many steps as characters are enough. -/
def readClass? (m : Modes) :
    Nat → List ClassDepth → ClassDepth → List Char → Option (Nat × List Char)
  | 0, _, _, _ => none
  | fuel + 1, outer, d, cs =>
    match m.skip cs with
    | [] => none
    | '[' :: r =>
      match readAsciiClass? r with
      | some (negated, rest) =>
        if if m.unicode then m.caseless else negated then none
        else readClass? m fuel outer (d.push 0) rest
      | none => (openClass? m r).bind fun (d', r) => readClass? m fuel (d :: outer) d' r
    | ']' :: r =>
      match outer with
      | [] => some (d.whole + 1, r)
      | around :: outer => readClass? m fuel outer (around.push (d.whole + 1)) r
    | '&' :: '&' :: r | '-' :: '-' :: r | '~' :: '~' :: r => readClass? m fuel outer d.operator r
    | r => (readClassItem? m r).bind (readClass? m fuel outer (d.push 0))

inductive Opening where
  /-- A group in the given modes. -/
  | group (m : Modes) (name : Option String)
  /-- The modes of what follows. -/
  | modes (m : Modes)

/-- Letters of modes up to a colon or bracket, each once; behind a dash they are switched off. -/
def readModes? (m : Modes) (seen : List Char) : List Char → Option (Opening × List Char)
  | [] => none
  | c :: r =>
    if c = ':' ∨ c = ')' then
      if seen.head? = some '-' ∨ (seen = [] ∧ c = ')') then none
      else some (if c = ':' then .group m none else .modes m, r)
    else if seen.contains c then none
    else if c = '-' then readModes? m (c :: seen) r
    else if "imsUuRx".contains c then readModes? (m.set c (!seen.contains '-')) (c :: seen) r
    else none

def isNameStart (c : Char) : Bool :=
  c == '_' || (Text.isAlphanumeric c && !c.isDigit)

def isNameChar (c : Char) : Bool :=
  c == '_' || c == '.' || c == '[' || c == ']' || Text.isAlphanumeric c

/-- The name of a group, up to its angle. -/
def readName? (m : Modes) (cs : List Char) : Option (Opening × List Char) :=
  let name := cs.takeWhile (· != '>')
  match cs.dropWhile (· != '>') with
  | '>' :: r =>
    if name.head?.any isNameStart && name.all isNameChar then
      some (.group m (some (String.ofList name)), r)
    else none
  | _ => none

/-- What stands behind the bracket of a group. Nothing looks ahead or behind. -/
def readOpening? (m : Modes) (cs : List Char) : Option (Opening × List Char) :=
  match m.skip cs with
  | '?' :: 'P' :: '<' :: r => readName? m r
  | '?' :: '<' :: '=' :: _ | '?' :: '<' :: '!' :: _ | '?' :: '=' :: _ | '?' :: '!' :: _ => none
  | '?' :: '<' :: r => readName? m r
  | '?' :: r => readModes? m [] r
  | r => some (.group m none, r)

/-- What is read of a group, or of a pattern as a whole. -/
structure Frame where
  modes : Modes
  /-- How deep each part since the last bar is nested, the last one first; a change of modes is a part,
  but one that cannot be repeated. -/
  parts : List (Option Nat)
  /-- How deep each alternative before is nested. -/
  alternatives : List Nat
  deriving DecidableEq, Repr

namespace Frame

/-- A row of parts is nested one deeper than its deepest part, unless it is but one. -/
def depthOf : List Nat → Nat
  | [] => 0
  | [d] => d
  | ds => ds.foldl max 0 + 1

def row (f : Frame) : Nat :=
  depthOf (f.parts.map (·.getD 0))

def depth (f : Frame) : Nat :=
  depthOf (f.row :: f.alternatives)

def push (f : Frame) (depth : Nat) : Frame :=
  { f with parts := some depth :: f.parts }

def setModes (f : Frame) (m : Modes) : Frame :=
  { f with modes := m, parts := none :: f.parts }

def bar (f : Frame) : Frame :=
  { f with parts := [], alternatives := f.row :: f.alternatives }

/-- Repeats the last part. -/
def repeat? (f : Frame) : Option Frame :=
  match f.parts with
  | some d :: ds => some { f with parts := some (d + 1) :: ds }
  | _ => none

end Frame

/-- How deep the parts of a pattern may be nested. -/
def deepest : Nat := 250

/-- Whether the rest of a pattern is well-formed. `outer` are the groups around it, and `names` those
of groups so far. Each step takes a character. -/
def isRest : Nat → List Frame → List String → Frame → List Char → Bool
  | 0, _, _, _, _ => false
  | fuel + 1, outer, names, f, cs =>
    match f.modes.skip cs with
    | [] => outer.isEmpty && f.depth ≤ deepest
    | '(' :: r =>
      match readOpening? f.modes r with
      | none => false
      | some (.modes m, r) => isRest fuel outer names (f.setModes m) r
      | some (.group m name, r) =>
        !name.any names.contains && isRest fuel (f :: outer) (name.toList ++ names) ⟨m, [], []⟩ r
    | ')' :: r =>
      match outer with
      | [] => false
      | around :: outer => isRest fuel outer names (around.push (f.depth + 1)) r
    | '|' :: r => isRest fuel outer names f.bar r
    | '[' :: r =>
      match (openClass? f.modes r).bind fun (d, r) => readClass? f.modes (r.length + 1) [] d r with
      | none => false
      | some (depth, r) => isRest fuel outer names (f.push depth) r
    | '?' :: r | '*' :: r | '+' :: r =>
      match f.repeat? with
      | none => false
      | some f => isRest fuel outer names f (if r.head? = some '?' then r.drop 1 else r)
    | '\x7b' :: _ => false
    | c :: r =>
      let atom := match c with
        | '\\' => readEscape? f.modes r
        | '.' => some (.any, r)
        | '^' | '$' => some (.edge, r)
        | c => some (.literal c, r)
      match atom with
      | none => false
      | some (a, r) => f.modes.allows a && isRest fuel outer names (f.push 0) r

end ResourceQuery.Log.Pattern

namespace ResourceQuery.Log

/-- No tables of characters are at hand, so what needs one (case folding, classes by name, word
boundaries) exists for ASCII alone, in the mode that is chosen by `(?-u)`. -/
def isPattern (cs : List Char) : Bool :=
  Pattern.isRest (cs.length + 1) [] [] ⟨.initial, [], []⟩ cs

end ResourceQuery.Log
