import ResourceQuery.Json.Reader

namespace ResourceQuery.Json

/-- Where a value is read from. The members of a choice are held back, whole, until its tag is known;
they are decoded by slightly other rules than values read off the text. -/
inductive Source where
  | text
  | held
  deriving DecidableEq, Repr

/-- How many containers may be opened one inside another. -/
def nestingLimit : Nat := 127

def malformed {α : Type} (e : SyntaxError) : Except Error α :=
  .error (.malformed e)

def misshapen {α : Type} (e : ShapeError) : Except Error α :=
  .error (.misshapen e)

def orMalformed {α : Type} (x : Except SyntaxError α) : Except Error α :=
  x.mapError .malformed

@[simp]
theorem orMalformed_ok {α : Type} (a : α) : orMalformed (.ok a) = .ok a :=
  rfl

namespace Draft

/-- The fault of a value of another type than the expected one. A container is refused unseen, a
scalar only once it has been read. -/
def mismatch (d : Draft) (expected : String) : Error :=
  match d with
  | .fault _ f => .malformed f.wanted
  | .null => .misshapen (.invalidType .null expected)
  | .bool b => .misshapen (.invalidType (.bool b) expected)
  | .number (.ok n) => .misshapen (.invalidType (.number n) expected)
  | .number (.error e) => .malformed e
  | .string (.ok s) => .misshapen (.invalidType (.string s) expected)
  | .string (.error e) => .malformed e
  | .array .. => .misshapen (.invalidType .sequence expected)
  | .object .. => .misshapen (.invalidType .map expected)

def refuse {α : Type} (d : Draft) (expected : String) : Except Error α :=
  .error (d.mismatch expected)

def text (d : Draft) : Except Error String :=
  match d with
  | .string (.ok s) => .ok s
  | d => d.refuse "a string"

def boolean (d : Draft) : Except Error Bool :=
  match d with
  | .bool b => .ok b
  | d => d.refuse "a boolean"

/-- A natural number of at most `bits` bits. -/
def natural (bits : Nat) (d : Draft) : Except Error Nat :=
  let expected := "u" ++ Number.printNat bits
  match d with
  | .number (.ok (.integer n)) =>
    if 0 ≤ n ∧ n < Number.twoTo bits then .ok n.toNat
    else misshapen (.invalidValue (.number (.integer n)) expected)
  | d => d.refuse expected

def optional {α : Type} (decode : Draft → Except Error α) (d : Draft) : Except Error (Option α) :=
  match d with
  | .null => .ok none
  | d => (decode d).map some

/-- Any value at all. -/
def value (room : Nat) (d : Draft) : Except Error Json :=
  orMalformed (d.toJson room)

/-- The items of an array one by one, and then its end. -/
def items {α : Type} (decode : Draft → Except Error α) (ds : List Draft) (broken : Option Fault) :
    Except Error (List α) := do
  let vs ← ds.mapM decode
  orMalformed (intact broken)
  return vs

/-- A list; `decode` is told how much room is left inside it. -/
def list {α : Type} (decode : Nat → Draft → Except Error α) (room : Nat) (d : Draft) :
    Except Error (List α) :=
  match room, d with
  | room + 1, .array ds broken => items (decode room) ds broken
  | 0, .array .. => malformed .nestedTooDeep
  | _, d => d.refuse "a sequence"

end Draft

/-- A field of a record that is being gathered in `σ`. -/
structure Slot (σ : Type) where
  name : String
  /-- Whether an array may end before this field. -/
  mayEnd : Bool
  given : σ → Bool
  take : Draft → σ → Except Error σ

/-- A field with a decoder, and the way to its place in `σ`. -/
def Slot.of {σ α : Type} (name : String) (mayEnd : Bool) (get : σ → Option α)
    (put : σ → Option α → σ) (decode : Draft → Except Error α) : Slot σ :=
  ⟨name, mayEnd, fun s => (get s).isSome, fun d s => (decode d).map fun v => put s (some v)⟩

def countOf (n : Nat) (thing : String) : String :=
  Number.printNat n ++ " " ++ thing ++ (if n = 1 then "" else "s")

/-- Members in the order of the text. Unknown ones are passed over, known ones come once. -/
def takeMembers {σ : Type} (fields : List (Slot σ)) :
    List (Except SyntaxError String × Draft) → σ → Except Error σ
  | [], s => .ok s
  | (key, d) :: ms, s => do
    let name ← orMalformed key
    match fields.find? (·.name = name) with
    | none =>
      orMalformed d.skip
      takeMembers fields ms s
    | some field =>
      if field.given s then misshapen (.duplicateField name)
      else takeMembers fields ms (← field.take d s)

/-- An array with `more` items behind the `taken` ones that have a place. -/
def tooLong (taken more : Nat) : Error :=
  .misshapen (.invalidLength (taken + more) (countOf taken "element" ++ " in sequence"))

/-- Behind the last field an array has to end. -/
def noMore (source : Source) (taken : Nat) (rest : List Draft) (broken : Option Fault) :
    Except Error Unit :=
  match source, rest, broken with
  | _, [], none => .ok ()
  | .held, [], some _ => .ok ()
  | .held, _ :: _, _ => .error (tooLong taken rest.length)
  | .text, _ :: _, _ => malformed .trailingCharacters
  | .text, [], some f =>
    if f.wanted = .endOfList ∨ f.wanted = .trailingComma then malformed f.wanted
    else malformed .trailingCharacters

/-- Items in the order of the fields; `index` fields are taken. -/
def takeItems {σ : Type} (source : Source) (title : String) (count : Nat) (broken : Option Fault) :
    Nat → List (Slot σ) → List Draft → σ → Except Error σ
  | index, [], ds, s => do
    noMore source index ds broken
    return s
  | index, field :: fields, d :: ds, s => do
    takeItems source title count broken (index + 1) fields ds (← field.take d s)
  | index, field :: fields, [], s => do
    orMalformed (Draft.intact broken)
    if field.mayEnd then takeItems source title count broken index fields [] s
    else misshapen (.invalidLength index (title ++ " with " ++ countOf count "element"))

/-- Gathers a record; `fields` are told how much room is left inside it. -/
def Draft.record {σ : Type} (source : Source) (title : String) (fields : Nat → List (Slot σ))
    (empty : σ) (room : Nat) (d : Draft) : Except Error σ :=
  match room, d with
  | room + 1, .object members broken => do
    let s ← takeMembers (fields room) members empty
    orMalformed (Draft.intact broken)
    return s
  | room + 1, .array ds broken =>
    takeItems source title (fields room).length broken 0 (fields room) ds empty
  | 0, .object .. => malformed .nestedTooDeep
  | 0, .array .. => malformed .nestedTooDeep
  | _, d => d.refuse title

def need {α : Type} (name : String) : Option α → Except Error α
  | some v => .ok v
  | none => misshapen (.missingField name)

/-- The name of a choice. A held value may give its place among the names instead. -/
def Draft.choiceName (source : Source) (names : List String) (d : Draft) : Except Error String :=
  match source, d with
  | _, .string (.ok s) => if names.contains s then .ok s else misshapen (.unknownVariant s names)
  | .held, .number (.ok (.integer n)) =>
    if n < 0 then d.refuse "variant identifier"
    else
      match names[n.toNat]? with
      | some s => .ok s
      | none =>
        misshapen (.invalidValue (.number (.integer n))
          ("variant index 0 <= i < " ++ Number.printNat names.length))
  | _, d => d.refuse "variant identifier"

/-- Holds a value back, which takes reading all of it. -/
def Draft.hold (source : Source) (room : Nat) (d : Draft) : Except Error Unit :=
  match source with
  | .text => orMalformed (d.check room)
  | .held => .ok ()

/-- Members but for the tag, and the tag. -/
def takeTag (source : Source) (tag : String) (names : List String) (room : Nat) :
    List (Except SyntaxError String × Draft) → Option String →
    Except Error (Option String × List (Except SyntaxError String × Draft))
  | [], found => .ok (found, [])
  | (key, d) :: ms, found => do
    let name ← orMalformed key
    if name = tag then
      if found.isSome then misshapen (.duplicateField tag)
      else takeTag source tag names room ms (some (← d.choiceName source names))
    else
      d.hold source room
      let (found, rest) ← takeTag source tag names room ms found
      return (found, (key, d) :: rest)

/-- The name of a tagged choice, and the held rest of it: an object or an array again. -/
def Draft.tagged (source : Source) (title tag : String) (names : List String) (room : Nat)
    (d : Draft) : Except Error (String × Draft) :=
  match room, d with
  | room + 1, .object members broken => do
    let (found, rest) ← takeTag source tag names room members none
    orMalformed (Draft.intact broken)
    return (← need tag found, .object rest none)
  | room + 1, .array (d :: ds) broken => do
    let name ← d.choiceName source names
    ds.forM (Draft.hold source room)
    orMalformed (Draft.intact broken)
    return (name, .array ds none)
  | _ + 1, .array [] broken => do
    orMalformed (Draft.intact broken)
    misshapen (.missingField tag)
  | 0, .object .. => malformed .nestedTooDeep
  | 0, .array .. => malformed .nestedTooDeep
  | _, d => d.refuse title

/-- A choice without fields behind its tag: members are passed over, items are not. -/
def Draft.unitRest (d : Draft) : Except Error Unit :=
  match d with
  | .array (d :: ds) _ => .error (tooLong 0 (d :: ds).length)
  | _ => .ok ()

def known (names : List String) (name : String) : Except Error String :=
  if names.contains name then .ok name else misshapen (.unknownVariant name names)

/-- The end of an object that holds one choice. -/
def oneMember (rest : List (Except SyntaxError String × Draft)) (broken : Option Fault) :
    Except Error Unit :=
  match rest, broken with
  | [], none => .ok ()
  | [], some f => if f.wanted = .endOfObject then malformed .endOfObject else malformed .expectedValue
  | _ :: _, _ => malformed .expectedValue

def Draft.unit (d : Draft) : Except Error Unit :=
  match d with
  | .null => .ok ()
  | d => d.refuse "unit"

/-- A name on its own in an object read off the text, with null behind it. -/
def Draft.unitMember (names : List String) (d : Draft) : Except Error String :=
  match d with
  | .object ((key, v) :: rest) broken => do
    let name ← known names (← orMalformed key)
    v.unit
    oneMember rest broken
    return name
  | .object [] none => malformed .expectedValue
  | .object [] (some f) => malformed f.wanted
  | _ => malformed .expectedValue

/-- A choice without fields: its name, or an object of its name and null. -/
def Draft.unitChoice (source : Source) (names : List String) (room : Nat) (d : Draft) :
    Except Error String :=
  match source, d with
  | _, .string (.ok s) => known names s
  | .text, .string (.error e) => malformed e
  | .text, .fault .word _ => malformed .expectedValue
  | .text, .fault _ f => malformed f.wanted
  | .text, .object .. => if room = 0 then malformed .nestedTooDeep else d.unitMember names
  | .text, _ => malformed .expectedValue
  | .held, .object [(key, v)] _ => do
    let name ← known names (← orMalformed key)
    match v with
    | .object [] _ => return name
    | v =>
      v.unit
      return name
  | .held, .object .. => misshapen (.invalidValue .map "map with a single key")
  | .held, d => d.refuse "string or map"

/-- Decodes the one value of a text. -/
def decodeText {α : Type} (decode : Nat → Draft → Except Error α) (s : String) : Except Error α := do
  let sketch := readText s.toList
  let v ← decode nestingLimit sketch.draft
  orMalformed (atEnd sketch)
  return v

end ResourceQuery.Json
