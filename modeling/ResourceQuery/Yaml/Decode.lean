import ResourceQuery.Yaml.Document
import ResourceQuery.Yaml.Meaning

namespace ResourceQuery.Yaml

/-- A fault of shape, and the keys that lead to it. -/
structure ShapeError where
  path : List String
  message : String
  deriving DecidableEq, Repr

def ShapeError.text (e : ShapeError) : String :=
  (if e.path.isEmpty then "" else Text.joinWith "." e.path ++ ": ") ++ e.message

/-- A reader fails at a fault of shape, or without one where the items end. -/
abbrev Reader (α : Type) := List Item → Except (Option ShapeError) (α × List Item)

/-- The fault of an item where something else was expected. -/
def Item.misfit (item : Item) (expected : String) : String :=
  match item with
  | .scalar s =>
    match s.meaning with
    | .ok m => "invalid type: " ++ m.describe ++ ", expected " ++ expected
    | .error t => "invalid value: string " ++ Text.quoted s.text ++ ", expected " ++ t.title
  | .sequenceStart | .sequenceEnd => "invalid type: sequence, expected " ++ expected
  | .mappingStart | .mappingEnd | .reference _ => "invalid type: map, expected " ++ expected

namespace Reader

def refuse {α : Type} (path : List String) (expected : String) : Reader α
  | [] => .error none
  | item :: _ => .error (some ⟨path, item.misfit expected⟩)

/-- Reads what an alias stands for in its place. -/
def following {α : Type} (d : Document) (r : Reader α) : Reader α
  | .reference number :: rest => do
    let (a, _) ← r (d.itemsAt number)
    return (a, rest)
  | items => r items

/-- Any scalar, as it is written. -/
def scalarText (expected : String) (path : List String) : Reader String
  | .scalar s :: rest => .ok (s.text, rest)
  | items => refuse path expected items

def text (d : Document) (path : List String) : Reader String :=
  following d (scalarText "a string" path)

/-- Whether a scalar may be a truth value: if it is plain, or literal and tagged as one. -/
def mayBeTruth (s : Scalar) : Bool :=
  s.style == .plain || (s.style == .literal && s.coreTag? == some .boolean)

def boolean (d : Document) (path : List String) : Reader Bool :=
  following d fun
    | .scalar s :: rest =>
      match if mayBeTruth s then truth? s.text else none with
      | some b => .ok (b, rest)
      | none => refuse path "a boolean" (.scalar s :: rest)
    | items => refuse path "a boolean" items

/-- Passes over one value in `depth` open ones, following no alias. -/
def skip : Nat → Reader Unit
  | _, [] => .error none
  | depth, item :: rest =>
    match item with
    | .sequenceStart | .mappingStart => skip (depth + 1) rest
    | .sequenceEnd | .mappingEnd => if depth ≤ 1 then .ok ((), rest) else skip (depth - 1) rest
    | _ => if depth = 0 then .ok ((), rest) else skip depth rest

/-- A field of a mapping that is being gathered in `σ`. -/
structure Slot (σ : Type) where
  name : String
  take : Document → List String → σ → Reader σ

/-- The name of a key in a path; that of an alias is not told. -/
def stepTo (name : String) : List Item → String
  | .reference _ :: _ => "?"
  | _ => name

/-- Entries in the order of the text. Unknown ones are passed over, known ones come once. As many
steps as items are enough. -/
def takeEntries {σ : Type} (d : Document) (path : List String) (slots : List (Slot σ)) :
    Nat → List String → σ → Reader σ
  | 0, _, _, _ => .error none
  | _, _, s, .mappingEnd :: rest => .ok (s, rest)
  | fuel + 1, seen, s, items => do
    let (name, rest) ← following d (scalarText "field identifier" path) items
    match slots.find? (·.name = name) with
    | none =>
      let (_, rest) ← skip 0 rest
      takeEntries d path slots fuel seen s rest
    | some slot =>
      if seen.contains name then
        .error (some ⟨path, "duplicate field `" ++ name ++ "`"⟩)
      else
        let (s, rest) ← slot.take d (path ++ [stepTo name items]) s rest
        takeEntries d path slots fuel (name :: seen) s rest

/-- A mapping; nothing at all is an empty one. -/
def gather {σ : Type} (title : String) (slots : List (Slot σ)) (d : Document) (path : List String)
    (s : σ) : Reader σ :=
  following d fun
    | .mappingStart :: rest => takeEntries d path slots (rest.length + 1) [] s rest
    | .scalar v :: rest =>
      if v.style = .plain ∧ v.text = "" then .ok (s, rest)
      else refuse path title (.scalar v :: rest)
    | items => refuse path title items

end Reader

inductive Error where
  | malformed (e : SyntaxError)
  | misshapen (e : ShapeError)
  deriving DecidableEq, Repr

def Error.message : Error → String
  | malformed e => e.message
  | misshapen e => e.text

/-- Reads the value of a document that stands alone in its text. A fault of shape is told first, if
the reader comes to it before the text goes wrong. -/
def Document.read {α : Type} (d : Document) (r : Reader α) : Except Error α :=
  match r d.items, d.fault with
  | .error (some e), _ => .error (.misshapen e)
  | .ok (a, _), none => if d.hasMore then .error (.malformed ⟨.moreDocuments, none⟩) else .ok a
  | .ok _, some e => .error (.malformed e)
  | .error none, e => .error (.malformed (e.getD ⟨.expectedContent, none⟩))

end ResourceQuery.Yaml
