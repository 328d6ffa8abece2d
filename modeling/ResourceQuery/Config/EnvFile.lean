import ResourceQuery.Config.Basic
import ResourceQuery.Text.Alphanumeric

namespace ResourceQuery.EnvFile

/-- Where a line of text ends inside quotes. -/
inductive Inside where
  | bare
  | escape
  | blank
  | strong
  | strongEscape
  | weak
  | weakEscape
  | comment
  deriving DecidableEq, Repr

def Inside.next (s : Inside) (c : Char) : Inside :=
  match s with
  | .blank =>
    if c = '#' then .comment
    else if c = '\\' then .escape
    else if c = '"' then .weak
    else if c = '\'' then .strong
    else .bare
  | .bare =>
    if Text.isBlank c && c != '\n' && c != '\r' then .blank
    else if c = '\\' then .escape
    else if c = '"' then .weak
    else if c = '\'' then .strong
    else .bare
  | .escape => .bare
  | .weak => if c = '\\' then .weakEscape else if c = '"' then .bare else .weak
  | .weakEscape => .weak
  | .strong => if c = '\\' then .strongEscape else if c = '\'' then .bare else .strong
  | .strongEscape => .strong
  | .comment => .comment

/-- A physical line with its line end, and the rest. -/
def splitLine (cs : List Char) : List Char × List Char :=
  (cs.takeWhile (· != '\n') ++ (cs.dropWhile (· != '\n')).take 1, (cs.dropWhile (· != '\n')).drop 1)

/-- The part of a line before a comment, and the state at its end. -/
def scanLine (s : Inside) : List Char → List Char × Inside
  | [] => ([], s)
  | c :: cs =>
    match s.next c with
    | .comment => ([], .comment)
    | next =>
      let (line, last) := scanLine next cs
      (c :: line, last)

def chomp (line : List Char) : List Char :=
  match line.reverse with
  | '\n' :: '\r' :: r => r.reverse
  | '\n' :: r => r.reverse
  | _ => line

/-- Logical lines, joined while quotes are open. `none` marks a text that ends inside one. -/
def logicalLines : Nat → List Char → Inside → List Char → List (Option (List Char))
  | 0, _, _, _ => []
  | fuel + 1, sofar, s, cs =>
    if cs.isEmpty then
      if s = .bare then [] else [none]
    else
      let (line, rest) := splitLine cs
      if (Text.trimStart (sofar ++ line)).head? = some '#' then
        some [] :: logicalLines fuel [] .bare rest
      else
        let (kept, last) := scanLine s line
        match last with
        | .bare => some (chomp (sofar ++ kept)) :: logicalLines fuel [] .bare rest
        | .comment => some (sofar ++ kept) :: logicalLines fuel [] .bare rest
        | last => logicalLines fuel (sofar ++ kept) last rest

/-- Where the reader of a value stands. A substitution gathers its name backwards. -/
inductive Mode where
  | plain
  | escaped
  | ended
  /-- Behind `$`. -/
  | name (sofar : List Char)
  /-- Inside `$\x7b`. -/
  | block (sofar : List Char)
  deriving DecidableEq, Repr

structure ValueState where
  mode : Mode
  strong : Bool
  weak : Bool
  /-- The value so far, backwards. -/
  out : List Char
  deriving DecidableEq, Repr

def unescape? (c : Char) : Option Char :=
  if c = 'n' then some '\n'
  else if ['\\', '\'', '"', '$', ' '].contains c then some c
  else none

def ValueState.push (s : ValueState) (c : Char) : ValueState :=
  { s with mode := .plain, out := c :: s.out }

/-- The value with that of a variable behind it. -/
def ValueState.substitute (env : Environment) (s : ValueState) (name : List Char) : ValueState :=
  let value := (env (String.ofList name.reverse)).getD ""
  { s with mode := .plain, out := value.toList.reverse ++ s.out }

/-- One character of a value; `none` if it cannot stand there. -/
def ValueState.step (env : Environment) (s : ValueState) (c : Char) : Option ValueState :=
  match s.mode with
  | .ended => if c = ' ' ∨ c = '\t' then some s else none
  | .escaped => (unescape? c).map s.push
  | .name sofar =>
    if Text.isAlphanumeric c then some { s with mode := .name (c :: sofar) }
    else if c = '\x7b' ∧ sofar.isEmpty then some { s with mode := .block [] }
    else if c = '$' then some { s.substitute env sofar with mode := .name [] }
    else some ((s.substitute env sofar).push c)
  | .block sofar =>
    if c = '\x7d' then some (s.substitute env sofar)
    else some { s with mode := .block (c :: sofar) }
  | .plain =>
    if s.strong then
      if c = '\'' then some { s with strong := false } else some (s.push c)
    else if c = '$' then some { s with mode := .name [] }
    else if s.weak then
      if c = '"' then some { s with weak := false }
      else if c = '\\' then some { s with mode := .escaped }
      else some (s.push c)
    else if c = '\'' then some { s with strong := true }
    else if c = '"' then some { s with weak := true }
    else if c = '\\' then some { s with mode := .escaped }
    else if c = ' ' ∨ c = '\t' then some { s with mode := .ended }
    else some (s.push c)

/-- A value up to its end, or up to a comment behind a blank. -/
def readValue? (env : Environment) (s : ValueState) : List Char → Option (List Char)
  | [] =>
    if s.strong || s.weak then none
    else
      match s.mode with
      | .block _ => none
      | .name sofar => some (s.substitute env sofar).out.reverse
      | _ => some s.out.reverse
  | c :: cs =>
    if s.mode = .ended ∧ c = '#' then readValue? env s []
    else (s.step env c).bind fun s => readValue? env s cs

def isKeyStart (c : Char) : Bool :=
  c.isAlpha || c == '_'

def isKeyChar (c : Char) : Bool :=
  c.isAlphanum || c == '_' || c == '.'

def readKey? (cs : List Char) : Option (List Char × List Char) :=
  match cs with
  | c :: _ => if isKeyStart c then some (cs.takeWhile isKeyChar, cs.dropWhile isKeyChar) else none
  | [] => none

def afterEqual? : List Char → Option (List Char)
  | '=' :: r => some r
  | _ => none

/-- The key before an equal sign; the word `export` may stand before it. -/
def readAssigned? (cs : List Char) : Option (List Char × List Char) := do
  let (key, r) ← readKey? cs
  let r := Text.trimStart r
  match afterEqual? r with
  | some r => some (key, r)
  | none =>
    if key = "export".toList then
      let (key, r) ← readKey? r
      let r ← afterEqual? (Text.trimStart r)
      some (key, r)
    else none

/-- What a line says: nothing, an assignment, or `none` if it cannot be read. -/
def readLine? (env : Environment) (line : List Char) : Option (Option (String × String)) := do
  let cs := Text.trim line
  if cs.isEmpty || cs.head? == some '#' then return none
  let (key, r) ← readAssigned? cs
  let r := Text.trimStart r
  if r.isEmpty || r.head? == some '#' then return some (String.ofList key, "")
  let value ← readValue? env ⟨.plain, false, false, []⟩ r
  return some (String.ofList key, String.ofList value)

/-- A variable that is not set gets its value from the file. No variable can hold a zero; the program
aborts where one should. -/
def assign? (env : Environment) (key value : String) : Option Environment :=
  if (env key).isSome then some env
  else if value.toList.contains '\x00' then none
  else some fun name => if name = key then some value else env name

/-- Line by line; `$NAME` sees what is set and what earlier lines said. A line that cannot be read ends
the file. -/
def readLines (env : Environment) (assigned : List (String × String)) :
    List (Option (List Char)) → Option Environment
  | [] => some env
  | none :: _ => some env
  | some line :: lines =>
    let seen : Environment := fun name => (env name).or (assigned.lookup name)
    match readLine? seen line with
    | none => some env
    | some none => readLines env assigned lines
    | some (some (key, value)) =>
      (assign? env key value).bind fun env => readLines env ((key, value) :: assigned) lines

/-- The variables that are set, and behind them those of the file; `none` if the program aborts. -/
def read (env : Environment) (text : String) : Option Environment :=
  let cs := match text.toList with
    | '\ufeff' :: cs => cs
    | cs => cs
  readLines env [] (logicalLines (cs.length + 1) [] .bare cs)

/-- Lines with their line ends. -/
def linesOf : List UInt8 → List (List UInt8)
  | [] => []
  | b :: bs =>
    match linesOf bs with
    | [] => [[b]]
    | line :: lines => if b = 10 then [b] :: line :: lines else (b :: line) :: lines

/-- The lines before the first one that is no UTF-8. -/
def readable : List (List UInt8) → String
  | [] => ""
  | line :: lines =>
    match String.fromUTF8? ⟨line.toArray⟩ with
    | some text => text ++ readable lines
    | none => ""

/-- What a directory holds under the name of the file. -/
inductive Candidate where
  /-- Nothing, or no file. -/
  | missing
  | file (bytes : List UInt8)
  /-- Something that cannot be looked at or read. -/
  | barred
  deriving DecidableEq, Repr

/-- The text of the file that is found first, from the working directory upwards. -/
def find : List Candidate → String
  | .file bytes :: _ => readable (linesOf bytes)
  | .missing :: above => find above
  | .barred :: _ => ""
  | [] => ""

end ResourceQuery.EnvFile
