import ResourceQuery.Yaml.Scalar

namespace ResourceQuery.Yaml

/-- What happens to the line ends at the end of a block scalar. -/
inductive Chomping where
  | strip
  | clip
  | keep
  deriving DecidableEq, Repr

/-- The marks behind `|` or `>`. -/
structure BlockHeader where
  chomping : Chomping
  /-- How much deeper the lines stand; zero if the first of them is to tell. -/
  indent : Nat
  deriving DecidableEq, Repr

def chomping? : Char → Option Chomping
  | '-' => some .strip
  | '+' => some .keep
  | _ => none

/-- A digit for the indentation, if one comes next. -/
def readIndentMark (cs : List Cell) : Except SyntaxError (Nat × List Cell) :=
  let c := peek cs
  if c = '0' then Activity.blockScalar.refuse .zeroIndent
  else if c.isDigit then .ok (Number.digitValue c, cs.drop 1)
  else .ok (0, cs)

/-- The two marks in either order, then the end of the line. -/
def readBlockHeader (cs : List Cell) : Except SyntaxError (BlockHeader × List Cell) := do
  let (header, r) ← match chomping? (peek cs) with
    | some chomping => do
      let (indent, r) ← readIndentMark (cs.drop 1)
      pure (BlockHeader.mk chomping indent, r)
    | none => do
      let (indent, r) ← readIndentMark cs
      match (if 0 < indent then chomping? (peek r) else none) with
      | some chomping => pure (BlockHeader.mk chomping indent, r.drop 1)
      | none => pure (BlockHeader.mk .clip indent, r)
  let r := skipComment r
  if isLineEndOrEnd (peek r) then return (header, skipLineEnd r)
  else Activity.blockScalar.refuseAt r .expectedLineEnd

/-- Indentation and empty lines. The indentation is zero while it is not known; `deepest` is then
the deepest column so far. Returns the line ends backwards, and the deepest column. -/
def readIndentation (indent deepest : Nat) (ends : List Char) :
    List Cell → Except SyntaxError (List Char × Nat × List Cell)
  | [] => .ok (ends, deepest, [])
  | c :: cs =>
    let outside := indent == 0 || c.column < indent
    if outside && c.char == ' ' then readIndentation indent deepest ends cs
    else if outside && c.char == '\t' then Activity.blockScalar.refuse .tabAsIndent
    else if isLineEnd c.char then readIndentation indent (max deepest c.column) (c.char :: ends) cs
    else .ok (ends, max deepest c.column, c :: cs)

/-- The lines of a block scalar before its end: text backwards, the last line end and the ends of
the empty lines behind it. -/
structure BlockText where
  acc : List Char
  lineEnd : Option Char
  emptyLines : List Char
  deriving Repr

/-- The text with all the line ends that stand before a further line. A folded line end becomes a
space, or nothing before empty lines, unless a line beside it begins with a blank. -/
def BlockText.joined (t : BlockText) (folded : Bool) : List Char :=
  if folded && t.lineEnd == some '\n' then
    if t.emptyLines.isEmpty then ' ' :: t.acc else t.emptyLines ++ t.acc
  else t.emptyLines ++ (t.lineEnd.toList ++ t.acc)

def BlockText.chomped (t : BlockText) (c : Chomping) : String :=
  forwards <| match c with
    | .strip => t.acc
    | .clip => t.lineEnd.toList ++ t.acc
    | .keep => t.emptyLines ++ (t.lineEnd.toList ++ t.acc)

/-- Lines as long as they are indented. `spaced` says that the line before begins with a blank. -/
def readBlockLines (folds : Bool) (indent : Nat) : Nat → Bool → BlockText → List Cell →
    Except SyntaxError (BlockText × List Cell)
  | 0, _, t, cs => .ok (t, cs)
  | fuel + 1, spaced, t, cs =>
    match cs with
    | [] => .ok (t, [])
    | c :: _ =>
      if c.column ≠ indent ∨ isEnd c.char then .ok (t, cs)
      else do
        let blank := isSpace c.char
        let (line, r) := spanChars (!isLineEndOrEnd ·) cs
        let acc := line.reverse ++ t.joined (folds && !spaced && !blank)
        let lineEnd := if isLineEnd (peek r) then some (peek r) else none
        let (ends, _, r) ← readIndentation indent 0 [] (skipLineEnd r)
        readBlockLines folds indent fuel blank ⟨acc, lineEnd, ends⟩ r

/-- A block scalar from behind its first mark on. The lines of what holds it are indented by less
than `least`. -/
def readBlockScalar (folds : Bool) (least : Nat) (cs : List Cell) :
    Except SyntaxError (String × List Cell) := do
  let (header, r) ← readBlockHeader cs
  let given := if header.indent = 0 then 0 else least - 1 + header.indent
  let (ends, deepest, r) ← readIndentation given 0 [] r
  let indent := if given = 0 then max deepest (max least 1) else given
  let (t, r) ← readBlockLines folds indent r.length false ⟨[], none, ends⟩ r
  return (t.chomped header.chomping, r)

end ResourceQuery.Yaml
