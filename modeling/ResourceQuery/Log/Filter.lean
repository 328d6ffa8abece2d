import ResourceQuery.Log.Event
import ResourceQuery.Log.Pattern

namespace ResourceQuery.Log

/-- An event passes a directive of its level's rank or a higher one; rank 0 lets nothing pass. -/
structure Directive where
  target : Option String
  /-- A field that an event must have. -/
  field : Option String
  /-- Whether it applies inside a span only, or to a field with a certain value. -/
  spanned : Bool
  rank : Nat
  deriving DecidableEq, Repr

def levelNames : List (String × Nat) :=
  [("", 1), ("error", 1), ("warn", 2), ("info", 3), ("debug", 4), ("trace", 5), ("off", 0)]

/-- A level by its name, in any case of letters, or by its number. -/
def rankOf? (s : List Char) : Option Nat :=
  let digits := match s with
    | '+' :: ds => ds
    | ds => ds
  if Number.isDigits digits then Number.digitsUpTo? 5 digits
  else levelNames.lookup (String.ofList (Text.lowerAscii s))

/-- A level, or a target of which everything passes. -/
def levelOrTarget (s : List Char) : Directive :=
  match rankOf? s with
  | some rank => ⟨none, none, false, rank⟩
  | none => ⟨some (String.ofList s), none, false, 5⟩

/-- Why a directive is not read. -/
inductive Refusal where
  | invalid
  /-- A part would begin or end inside a character, and the program aborts. -/
  | torn
  deriving DecidableEq, Repr

def orInvalid {α : Type} : Option α → Except Refusal α
  | some a => .ok a
  | none => .error .invalid

/-- The level behind an equal sign; without a name everything passes. -/
def levelAfter (d : Directive) (s : List Char) : Except Refusal Directive :=
  if s.isEmpty then .ok { d with rank := 5 }
  else orInvalid ((rankOf? s).map fun rank => { d with rank := rank })

/-- A number or a pattern. -/
def isFieldValue (s : List Char) : Bool :=
  (Number.parseExtended? s).isSome || isPattern s

/-- The field between braces; with a value behind its name the directive depends on that. -/
def withField (d : Directive) (s : List Char) : Except Refusal Directive :=
  if s.isEmpty then .error .invalid
  else
    match Text.splitAt '=' s with
    | name :: value :: _ =>
      if isFieldValue value then .ok { d with field := some (String.ofList name), spanned := true }
      else .error .invalid
    | _ => .ok { d with field := some (String.ofList s) }

def byteLength (cs : List Char) : Nat :=
  cs.foldl (fun n c => n + c.utf8Size) 0

/-- So many bytes of a text, and the rest. -/
def splitBytes (n : Nat) : List Char → Except Refusal (List Char × List Char)
  | [] => if n = 0 then .ok ([], []) else .error .torn
  | c :: cs =>
    if n = 0 then .ok ([], c :: cs)
    else if n < c.utf8Size then .error .torn
    else (splitBytes (n - c.utf8Size) cs).map fun (front, rest) => (c :: front, rest)

/-- The part of a text between two of its bytes. -/
def cut (s : List Char) (start stop : Nat) : Except Refusal (List Char) := do
  let (front, _) ← splitBytes stop s
  let (_, part) ← splitBytes start front
  return part

/-- What stands behind the bracket of a span, at the given byte: nothing, or a level. -/
def afterSpan (d : Directive) (s : List Char) (place : Nat) : List Char → Except Refusal Directive
  | [] => .ok d
  | '=' :: _ => do
    let (_, level) ← splitBytes (place + 1) s
    levelAfter d level
  | _ => .error .invalid

/-- A span's name and field from the given byte on, up to the bracket. -/
def inSpan (d : Directive) (s : List Char) (start : Nat) (r : List Char) : Except Refusal Directive :=
  let name := r.takeWhile fun c => c != ']' && c != '\x7b'
  let stop := start + byteLength name
  match r.drop name.length with
  | ']' :: r => do
    let _ ← cut s start stop
    afterSpan { d with spanned := true } s (stop + 1) r
  | '\x7b' :: r => do
    let _ ← cut s start stop
    let field := r.takeWhile (· != '\x7d')
    let fieldStop := stop + 1 + byteLength field
    match r.drop field.length with
    | '\x7d' :: r =>
      let d ← withField { d with spanned := !name.isEmpty } (← cut s (stop + 1) fieldStop)
      match r with
      | ']' :: r => afterSpan d s (fieldStop + 2) r
      | _ => .error .invalid
    | _ => .error .invalid
  | _ => .error .invalid

def startsTarget (c : Char) : Bool :=
  c == '-' || c == ':' || c == '_' || Text.isAlphanumeric c

/-- A directive. Its marks are sought without the blanks around it, but its parts are taken from the
text with them, at the same bytes; so blanks in front shift every part. -/
def Directive.parse (s : List Char) : Except Refusal Directive :=
  match Text.trim s with
  | [] => .error .invalid
  | '[' :: r => inSpan ⟨none, none, false, 5⟩ s 1 r
  | c :: r =>
    if !startsTarget c then .error .invalid
    else
      let target := (c :: r).takeWhile fun c => c != '=' && c != '['
      let stop := byteLength target
      match (c :: r).drop target.length with
      | '=' :: _ => do
        let target ← cut s 0 stop
        let (_, level) ← splitBytes (stop + 1) s
        levelAfter ⟨some (String.ofList target), none, false, 5⟩ level
      | '[' :: r => do
        let target ← cut s 0 stop
        inSpan ⟨some (String.ofList target), none, false, 5⟩ s (stop + 1) r
      | _ => .ok (levelOrTarget s)

def warnings : Directive :=
  ⟨none, none, false, 2⟩

/-- Directives of a text. A text that is not a filter lets warnings pass; without any directive
errors pass. `none` if the program aborts. -/
def directives? (s : String) : Option (List Directive) :=
  match ((Text.splitAt ',' s.toList).filter fun p => !p.isEmpty).mapM Directive.parse with
  | .error .invalid => some [warnings]
  | .error .torn => none
  | .ok [] => some [⟨none, none, false, 1⟩]
  | .ok ds => some ds

def Directive.appliesTo (d : Directive) (e : Event) : Bool :=
  !d.spanned && d.target.all (fun t => t.toList.isPrefixOf e.target.toList) &&
    d.field.all fun f => f == "message" || (e.fields.lookup f).isSome

/-- How much of an event's target a directive names. -/
def Directive.reach (d : Directive) : Nat :=
  (d.target.map fun t => t.utf8ByteSize + 1).getD 0

/-- Whether a field is at least as late in the alphabet as another; none comes before all. -/
def notBefore : Option String → Option String → Bool
  | _, none => true
  | none, some _ => false
  | some f, some g => g ≤ f

/-- The directive with the longer target, then the one with a field, and of two fields the later in
the alphabet; of equals the one given last. -/
def heavier (a b : Directive) : Directive :=
  if a.reach < b.reach || (a.reach == b.reach && notBefore b.field a.field) then b else a

/-- The directive that decides on an event. -/
def decisive? (ds : List Directive) (e : Event) : Option Directive :=
  match ds.filter fun d => d.appliesTo e with
  | [] => none
  | d :: ds => some (ds.foldl heavier d)

def passes (ds : List Directive) (e : Event) : Bool :=
  match decisive? ds e with
  | some d => e.level.rank ≤ d.rank
  | none => false

end ResourceQuery.Log
