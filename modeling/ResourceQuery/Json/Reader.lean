import ResourceQuery.Json.Numeral
import ResourceQuery.Json.QuotedText

namespace ResourceQuery.Json

def isSpace (c : Char) : Bool :=
  c == ' ' || c == '\t' || c == '\n' || c == '\r'

def skipSpace (cs : List Char) : List Char :=
  cs.dropWhile isSpace

/-- A draft and the text behind it, unless the text breaks off inside. -/
structure Sketch where
  draft : Draft
  rest : Except Fault (List Char)

namespace Sketch

def stop (begun : Begun) (f : Fault) : Sketch :=
  ⟨.fault begun f, .error f⟩

/-- A word of which the first letter has been seen. -/
def ofWord (draft : Draft) : List Char → List Char → Sketch
  | [], r => ⟨draft, .ok r⟩
  | _ :: _, [] => stop .word (.same .endOfValue)
  | w :: ws, c :: r => if c = w then ofWord draft ws r else stop .word (.same .expectedWord)

def ofNumber (cs : List Char) : Sketch :=
  match readNumber cs with
  | .ok (w, r) => ⟨.number w.value, .ok r⟩
  | .error f => stop .word f

/-- A string's text and end; a string without end carries the fault of either reader. -/
def ofQuoted (q : QuotedText) : Sketch :=
  match q.rest, q.text with
  | .ok r, text => ⟨.string (text.map String.ofList), .ok r⟩
  | .error skipped, .error wanted => stop .quotes ⟨wanted, skipped⟩
  | .error skipped, .ok _ => stop .quotes (.same skipped)

end Sketch

/-- The items of an array or the members of an object, and how they end. -/
structure Series (α : Type) where
  items : List α
  rest : Except Fault (List Char)

def Series.stop {α : Type} (f : Fault) : Series α :=
  ⟨[], .error f⟩

def Series.done {α : Type} (r : List Char) : Series α :=
  ⟨[], .ok r⟩

def Series.cons {α : Type} (a : α) (s : Series α) : Series α :=
  ⟨a :: s.items, s.rest⟩

/-- The fault at which a series breaks off. -/
def brokenAt (rest : Except Fault (List Char)) : Option Fault :=
  match rest with
  | .ok _ => none
  | .error f => some f

/-- Where the next item begins: at once for the first one, else behind a comma. -/
def nextItem (first : Bool) : List Char → Except Fault (List Char)
  | [] => .error (.same .endOfList)
  | c :: r =>
    if first then .ok (c :: r)
    else if c = ',' then
      match skipSpace r with
      | [] => .error (.same .endOfValue)
      | ']' :: _ => .error ⟨.trailingComma, .expectedValue⟩
      | r => .ok r
    else .error (.same .expectedListCommaOrEnd)

/-- Where the next key begins: at once for the first one, else behind a comma. -/
def nextKey (first : Bool) : List Char → Except Fault (List Char)
  | [] => .error (.same .endOfObject)
  | c :: r =>
    if first then .ok (c :: r)
    else if c = ',' then
      match skipSpace r with
      | [] => .error ⟨.endOfValue, .endOfObject⟩
      | '\x7d' :: _ => .error ⟨.trailingComma, .keyNotString⟩
      | r => .ok r
    else .error (.same .expectedObjectCommaOrEnd)

/-- The text behind the colon. -/
def afterColon (cs : List Char) : Except Fault (List Char) :=
  match skipSpace cs with
  | ':' :: r => .ok r
  | [] => .error (.same .endOfObject)
  | _ => .error (.same .expectedColon)

mutual

/-- Each call but the one for a first item or key takes a character off the text, so twice its
length bounds the calls inside one another. -/
def readValue : Nat → List Char → Sketch
  | 0, _ => .stop .nothing (.same .endOfValue)
  | fuel + 1, cs =>
    match skipSpace cs with
    | [] => .stop .nothing (.same .endOfValue)
    | '"' :: r => .ofQuoted (readQuoted none r)
    | '[' :: r =>
      let s := readItems fuel true r
      ⟨.array s.items (brokenAt s.rest), s.rest⟩
    | '\x7b' :: r =>
      let s := readMembers fuel true r
      ⟨.object s.items (brokenAt s.rest), s.rest⟩
    | 'n' :: r => .ofWord .null "ull".toList r
    | 't' :: r => .ofWord (.bool true) "rue".toList r
    | 'f' :: r => .ofWord (.bool false) "alse".toList r
    | c :: r =>
      if c = '-' ∨ c.isDigit then .ofNumber (c :: r)
      else .stop .nothing (.same .expectedValue)

def readItems : Nat → Bool → List Char → Series Draft
  | 0, _, _ => .stop (.same .endOfList)
  | fuel + 1, first, cs =>
    match skipSpace cs with
    | ']' :: r => .done r
    | r =>
      match nextItem first r with
      | .error f => .stop f
      | .ok r =>
        let v := readValue fuel r
        match v.rest with
        | .error f => ⟨[v.draft], .error f⟩
        | .ok r => (readItems fuel false r).cons v.draft

def readMembers : Nat → Bool → List Char → Series (Except SyntaxError String × Draft)
  | 0, _, _ => .stop (.same .endOfObject)
  | fuel + 1, first, cs =>
    match skipSpace cs with
    | '\x7d' :: r => .done r
    | r =>
      match nextKey first r with
      | .error f => .stop f
      | .ok ('"' :: r) =>
        let key := readQuoted none r
        match key.rest with
        | .error skipped =>
          let wanted := match key.text with
            | .error e => e
            | .ok _ => skipped
          .stop ⟨wanted, skipped⟩
        | .ok r =>
          let name := key.text.map String.ofList
          match afterColon r with
          | .error f => ⟨[(name, .fault .nothing f)], .error f⟩
          | .ok r =>
            let v := readValue fuel r
            match v.rest with
            | .error f => ⟨[(name, v.draft)], .error f⟩
            | .ok r => (readMembers fuel false r).cons (name, v.draft)
      | .ok _ => .stop (.same .keyNotString)

end

/-- The first value of a text. -/
def readText (cs : List Char) : Sketch :=
  readValue (2 * cs.length + 2) cs

/-- What remains to be said of a text whose first value was accepted. -/
def atEnd (s : Sketch) : Except SyntaxError Unit :=
  match s.rest with
  | .error f => .error f.wanted
  | .ok r => if (skipSpace r).isEmpty then .ok () else .error .trailingCharacters

end ResourceQuery.Json
