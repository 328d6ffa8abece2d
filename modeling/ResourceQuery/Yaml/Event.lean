import ResourceQuery.Yaml.Token

namespace ResourceQuery.Yaml

structure Scalar where
  tag : Option String
  style : Style
  text : String
  deriving DecidableEq, Repr

inductive Event where
  | reference (name : String)
  | scalar (anchor : Option String) (s : Scalar)
  | sequenceStart (anchor : Option String)
  | sequenceEnd
  | mappingStart (anchor : Option String)
  | mappingEnd
  deriving DecidableEq, Repr

/-- Nothing where a value could stand. -/
def Event.empty : Event :=
  .scalar none ⟨none, .plain, ""⟩

/-- What is to be read. Goals are kept as a stack, so nesting may be of any depth. -/
inductive Goal where
  /-- A value. In a block that may be a block itself, and items may stand undented behind a key. -/
  | node (block undented : Bool)
  | blockItems
  | undentedItems
  | blockKey
  | blockValue
  | flowItems (first : Bool)
  /-- One entry among the items of a sequence in brackets. -/
  | pairKey
  | pairValue
  | pairEnd
  | flowKey (first : Bool)
  | flowValue
  /-- The value of a key that is no marked one: nothing. -/
  | flowNoValue
  deriving DecidableEq, Repr

/-- What handles stand for, the first entry of a name counting. -/
abbrev Handles := List (String × String)

def Handles.standard : Handles :=
  [("!", "!"), ("!!", "tag:yaml.org,2002:")]

def TagText.resolve (t : TagText) (handles : Handles) : Except SyntaxError String :=
  if t.handle.isEmpty then .ok t.rest
  else
    match handles.lookup t.handle with
    | some stem => .ok (stem ++ t.rest)
    | none => Activity.node.refuse .undefinedHandle

/-- Why the events end: a fault, or none but that the tokens end. -/
abbrev Stop := Option SyntaxError

/-- What a goal comes to: events, the goals that take its place, and the tokens behind it. -/
structure Advance where
  events : List Event
  goals : List Goal
  rest : List Token

namespace Goal

def refuse {α : Type} (a : Activity) (p : Problem) : Except Stop α :=
  .error (some ⟨p, some a⟩)

/-- An anchor and a tag in either order, each once at most. -/
def properties : List Token → Option String × Option TagText × List Token
  | .anchor a :: .tag t :: ts => (some a, some t, ts)
  | .tag t :: .anchor a :: ts => (some a, some t, ts)
  | .anchor a :: ts => (some a, none, ts)
  | .tag t :: ts => (none, some t, ts)
  | ts => (none, none, ts)

/-- The tag `!` says no more than that there is none. -/
def scalarOf (tag : Option String) (style : Style) (text : String) : Scalar :=
  ⟨if tag = some "!" then none else tag, style, text⟩

/-- A value with its anchor and tag read. -/
def content (block undented : Bool) (anchor tag : Option String) (ts : List Token) :
    Except Stop Advance :=
  let empty : Except Stop Advance :=
    if anchor.isSome || tag.isSome then .ok ⟨[.scalar anchor ⟨tag, .plain, ""⟩], [], ts⟩
    else refuse (if block then .blockNode else .flowNode) .expectedContent
  match ts with
  | [] => .error none
  | .scalar style text :: r => .ok ⟨[.scalar anchor (scalarOf tag style text)], [], r⟩
  | .flowSequenceStart :: r => .ok ⟨[.sequenceStart anchor], [.flowItems true], r⟩
  | .flowMappingStart :: r => .ok ⟨[.mappingStart anchor], [.flowKey true], r⟩
  | .blockEntry :: _ =>
    if undented then .ok ⟨[.sequenceStart anchor], [.undentedItems], ts⟩ else empty
  | .blockSequenceStart :: r =>
    if block then .ok ⟨[.sequenceStart anchor], [.blockItems], r⟩ else empty
  | .blockMappingStart :: r =>
    if block then .ok ⟨[.mappingStart anchor], [.blockKey], r⟩ else empty
  | _ => empty

def readNode (handles : Handles) (block undented : Bool) : List Token → Except Stop Advance
  | .reference name :: r => .ok ⟨[.reference name], [], r⟩
  | ts => do
    let (anchor, tag, r) := properties ts
    if r.isEmpty then .error none
    let tag ← (tag.mapM (TagText.resolve · handles)).mapError some
    content block undented anchor tag r

/-- A value, or nothing if one of the tokens that end it comes next. -/
def nodeUnless (stops : List Token) (node next : Goal) (ts : List Token) : Except Stop Advance :=
  match ts with
  | [] => .error none
  | t :: _ => .ok (if stops.contains t then ⟨[.empty], [next], ts⟩ else ⟨[], [node, next], ts⟩)

def advance (handles : Handles) (goal : Goal) (ts : List Token) : Except Stop Advance :=
  match goal, ts with
  | _, [] => .error none
  | .node block undented, ts => readNode handles block undented ts
  | .blockItems, .blockEntry :: r =>
    nodeUnless [.blockEntry, .blockEnd] (.node true false) .blockItems r
  | .blockItems, .blockEnd :: r => .ok ⟨[.sequenceEnd], [], r⟩
  | .blockItems, _ => refuse .blockCollection .expectedDash
  | .undentedItems, .blockEntry :: r =>
    nodeUnless [.blockEntry, .key, .value, .blockEnd] (.node true false) .undentedItems r
  | .undentedItems, ts => .ok ⟨[.sequenceEnd], [], ts⟩
  | .blockKey, .key :: r => nodeUnless [.key, .value, .blockEnd] (.node true true) .blockValue r
  | .blockKey, .blockEnd :: r => .ok ⟨[.mappingEnd], [], r⟩
  | .blockKey, _ => refuse .blockMapping .expectedKey
  | .blockValue, .value :: r => nodeUnless [.key, .value, .blockEnd] (.node true true) .blockKey r
  | .blockValue, ts => .ok ⟨[.empty], [.blockKey], ts⟩
  | .flowItems _, .flowSequenceEnd :: r => .ok ⟨[.sequenceEnd], [], r⟩
  | .flowItems first, t :: r =>
    if !first && t != .flowEntry then refuse .flowSequence .expectedSequenceEnd
    else
      match if first then t :: r else r with
      | [] => .error none
      | .key :: r => .ok ⟨[.mappingStart none], [.pairKey], r⟩
      | .flowSequenceEnd :: r => .ok ⟨[.sequenceEnd], [], r⟩
      | ts => .ok ⟨[], [.node false false, .flowItems false], ts⟩
  | .pairKey, t :: r =>
    if [Token.value, .flowEntry, .flowSequenceEnd].contains t then .ok ⟨[.empty], [.pairValue], r⟩
    else .ok ⟨[], [.node false false, .pairValue], t :: r⟩
  | .pairValue, .value :: r => nodeUnless [.flowEntry, .flowSequenceEnd] (.node false false) .pairEnd r
  | .pairValue, ts => .ok ⟨[.empty], [.pairEnd], ts⟩
  | .pairEnd, ts => .ok ⟨[.mappingEnd], [.flowItems false], ts⟩
  | .flowKey _, .flowMappingEnd :: r => .ok ⟨[.mappingEnd], [], r⟩
  | .flowKey first, t :: r =>
    if !first && t != .flowEntry then refuse .flowMapping .expectedMappingEnd
    else
      match if first then t :: r else r with
      | [] => .error none
      | .key :: r =>
        nodeUnless [.value, .flowEntry, .flowMappingEnd] (.node false false) .flowValue r
      | .flowMappingEnd :: r => .ok ⟨[.mappingEnd], [], r⟩
      | ts => .ok ⟨[], [.node false false, .flowNoValue], ts⟩
  | .flowValue, .value :: r =>
    nodeUnless [.flowEntry, .flowMappingEnd] (.node false false) (.flowKey false) r
  | .flowValue, ts => .ok ⟨[.empty], [.flowKey false], ts⟩
  | .flowNoValue, ts => .ok ⟨[.empty], [.flowKey false], ts⟩

/-- Events of the goals in order, behind `acc`, which is backwards. -/
def run (handles : Handles) : Nat → List Goal → List Token → List Event →
    List Event × Except Stop (List Token)
  | 0, _, _, acc => (acc.reverse, .error none)
  | _, [], ts, acc => (acc.reverse, .ok ts)
  | fuel + 1, goal :: goals, ts, acc =>
    match goal.advance handles ts with
    | .ok a => run handles fuel (a.goals ++ goals) a.rest (a.events.reverse ++ acc)
    | .error stop => (acc.reverse, .error stop)

end Goal

end ResourceQuery.Yaml
