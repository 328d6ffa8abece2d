import ResourceQuery.Json.Draft

namespace ResourceQuery.Json

/-- The text behind an opening quote: what it says, and what follows the closing quote. -/
structure QuotedText where
  text : Except SyntaxError (List Char)
  rest : Except SyntaxError (List Char)

namespace QuotedText

def stop (e : SyntaxError) : QuotedText :=
  ⟨.error e, .error e⟩

/-- The same end, but a text that cannot be had. -/
def spoil (e : SyntaxError) (q : QuotedText) : QuotedText :=
  ⟨.error e, q.rest⟩

def cons (c : Char) (q : QuotedText) : QuotedText :=
  ⟨q.text.map (c :: ·), q.rest⟩

end QuotedText

def hexValue? (c : Char) : Option Nat :=
  if '0' ≤ c ∧ c ≤ '9' then some (c.toNat - '0'.toNat)
  else if 'a' ≤ c ∧ c ≤ 'f' then some (c.toNat - 'a'.toNat + 10)
  else if 'A' ≤ c ∧ c ≤ 'F' then some (c.toNat - 'A'.toNat + 10)
  else none

def hexUnit? (a b c d : Char) : Option Nat := do
  return ((← hexValue? a) * 16 + (← hexValue? b)) * 256 + ((← hexValue? c) * 16 + (← hexValue? d))

/-- Four digits that are none: the fault is the end of the text if fewer than four bytes are left. -/
def badUnit (cs : List Char) : SyntaxError :=
  if cs.foldl (fun n c => n + c.utf8Size) 0 < 4 then .endOfString else .invalidEscape

def isLeadingSurrogate (n : Nat) : Bool :=
  0xD800 ≤ n && n ≤ 0xDBFF

def isTrailingSurrogate (n : Nat) : Bool :=
  0xDC00 ≤ n && n ≤ 0xDFFF

def simpleEscape? : Char → Option Char
  | '"' => some '"'
  | '\\' => some '\\'
  | '/' => some '/'
  | 'b' => some '\x08'
  | 'f' => some '\x0c'
  | 'n' => some '\n'
  | 'r' => some '\r'
  | 't' => some '\t'
  | _ => none

/-- The character of a surrogate pair. -/
def pairChar (lead trail : Nat) : Char :=
  Char.ofNat (0x10000 + (lead - 0xD800) * 0x400 + (trail - 0xDC00))

/-- What does not finish a pair spoils the text if a leading surrogate is waiting. -/
def QuotedText.unpaired (q : QuotedText) (lead : Option Nat) : QuotedText :=
  if lead.isSome then q.spoil .unfinishedPair else q

/-- Reads up to the closing quote. `lead` is a leading surrogate that waits for its other half. -/
def readQuoted (lead : Option Nat) : List Char → QuotedText
  | [] => .stop .endOfString
  | '"' :: r => QuotedText.unpaired ⟨.ok [], .ok r⟩ lead
  | '\\' :: 'u' :: a :: b :: c :: d :: r =>
    match hexUnit? a b c d, lead with
    | none, _ => .stop (badUnit (a :: b :: c :: d :: r))
    | some n, some first =>
      if isTrailingSurrogate n then (readQuoted none r).cons (pairChar first n)
      else (readQuoted none r).spoil .loneSurrogate
    | some n, none =>
      if isTrailingSurrogate n then (readQuoted none r).spoil .loneSurrogate
      else if isLeadingSurrogate n then readQuoted (some n) r
      else (readQuoted none r).cons (Char.ofNat n)
  | '\\' :: 'u' :: r => .stop (badUnit r)
  | ['\\'] => .stop .endOfString
  | '\\' :: c :: r =>
    match simpleEscape? c with
    | some e => ((readQuoted none r).cons e).unpaired lead
    | none => (QuotedText.stop .invalidEscape).unpaired lead
  | c :: r =>
    if c.toNat < 32 then (QuotedText.stop .controlCharacter).unpaired lead
    else ((readQuoted none r).cons c).unpaired lead

end ResourceQuery.Json
