import ResourceQuery.Yaml.Event

namespace ResourceQuery.Yaml

/-- What a document holds, in order. -/
inductive Item where
  /-- What stands at the anchor of that number. -/
  | reference (number : Nat)
  | scalar (s : Scalar)
  | sequenceStart
  | sequenceEnd
  | mappingStart
  | mappingEnd
  deriving DecidableEq, Repr

/-- The anchors of a document. -/
structure Anchors where
  /-- The number that each name has last. -/
  numbers : List (String × Nat)
  /-- How many items stand before the anchor of a number, the last one first. -/
  places : List (Nat × Nat)
  deriving Repr

/-- A fault of form is part of the document: it counts only for those who read that far. -/
structure Document where
  items : List Item
  anchors : Anchors
  fault : Option SyntaxError
  /-- Whether the text goes on behind the document. -/
  hasMore : Bool
  deriving Repr

/-- A number is the count of names so far, so a name that comes again may share the one of the next
new name; the later anchor then counts for both. -/
def Anchors.add (a : Anchors) (anchor : Option String) (place : Nat) : Anchors :=
  match anchor with
  | none => a
  | some name =>
    let n := a.numbers.length
    ⟨(name, n) :: a.numbers.filter (·.1 != name), (n, place) :: a.places⟩

/-- The items of events, up to an alias of no anchor before it. Those so far are `acc`, backwards. -/
def Item.ofEvents (a : Anchors) (place : Nat) (acc : List Item) :
    List Event → Reading Item × Anchors
  | [] => (⟨acc.reverse, none⟩, a)
  | .reference name :: es =>
    match a.numbers.lookup name with
    | some n => Item.ofEvents a (place + 1) (.reference n :: acc) es
    | none => (⟨acc.reverse, some ⟨.unknownAnchor, none⟩⟩, a)
  | .scalar anchor s :: es => Item.ofEvents (a.add anchor place) (place + 1) (.scalar s :: acc) es
  | .sequenceStart anchor :: es =>
    Item.ofEvents (a.add anchor place) (place + 1) (.sequenceStart :: acc) es
  | .sequenceEnd :: es => Item.ofEvents a (place + 1) (.sequenceEnd :: acc) es
  | .mappingStart anchor :: es =>
    Item.ofEvents (a.add anchor place) (place + 1) (.mappingStart :: acc) es
  | .mappingEnd :: es => Item.ofEvents a (place + 1) (.mappingEnd :: acc) es

namespace Document

/-- What the directives say. -/
structure Head where
  versioned : Bool
  handles : Handles

/-- Takes the directives in. One version at most is given, 1.1 or 1.2, and no handle twice. -/
def readHead (h : Head) : List Token → Except SyntaxError (Head × List Token)
  | .directive (.version major minor) :: ts =>
    if h.versioned then Problem.repeatedVersion.refuse
    else if major = 1 ∧ (minor = 1 ∨ minor = 2) then readHead { h with versioned := true } ts
    else Problem.incompatibleVersion.refuse
  | .directive (.handle name stem) :: ts =>
    if (h.handles.lookup name).isSome then Problem.repeatedHandle.refuse
    else readHead { h with handles := h.handles ++ [(name, stem)] } ts
  | ts => .ok (h, ts)

/-- Whether anything but marks of the end follows a document. -/
def goesOn : List Token → Bool
  | .documentEnd :: ts => goesOn ts
  | .streamEnd :: _ => false
  | _ => true

/-- A document of the events, of which none are lost unless there is a fault. -/
def ofEvents (events : List Event) (fault : Option SyntaxError) (hasMore : Bool) : Document :=
  let (r, anchors) := Item.ofEvents ⟨[], []⟩ 0 [] events
  ⟨r.items, anchors, r.fault.or fault, hasMore⟩

/-- What stands behind a value: `fault` if the tokens end there. -/
def ofValue (fault : Option SyntaxError) (events : List Event) (rest : List Token) : Document :=
  if rest.isEmpty then ofEvents events fault false else ofEvents events none (goesOn rest)

/-- A document that is one value. Between two tokens there are three steps at most. -/
def readValue (fault : Option SyntaxError) (handles : Handles) (ts : List Token) : Document :=
  match Goal.run handles (6 * ts.length + 6) [.node true false] ts [] with
  | (events, .error stop) => ofEvents events (stop.or fault) false
  | (events, .ok rest) => ofValue fault events rest

/-- A document behind its `---`; it may be left out. -/
def readMarked (fault : Option SyntaxError) (handles : Handles) (ts : List Token) : Document :=
  match ts with
  | [] => ofEvents [] fault false
  | .directive _ :: _ | .documentStart :: _ | .documentEnd :: _ | .streamEnd :: _ =>
    ofValue fault [.empty] ts
  | ts => readValue fault handles ts

/-- The first document of a text, none if there is nothing in it. -/
def ofText? (s : String) : Option Document :=
  let ⟨ts, fault⟩ := Token.ofText s
  match ts with
  | .streamEnd :: _ => none
  | .documentStart :: ts => some (readMarked fault .standard ts)
  | .directive _ :: _ => some <|
    match readHead ⟨false, []⟩ ts with
    | .error e => ofEvents [] (some e) false
    | .ok (_, []) => ofEvents [] fault false
    | .ok (head, .documentStart :: ts) => readMarked fault (head.handles ++ .standard) ts
    | .ok _ => ofEvents [] (some ⟨.expectedDocument, none⟩) false
  | ts => some (readValue fault .standard ts)

/-- The items from an anchor on. -/
def itemsAt (d : Document) (number : Nat) : List Item :=
  d.items.drop ((d.anchors.places.lookup number).getD 0)

end Document

end ResourceQuery.Yaml
