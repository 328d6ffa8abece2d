import ResourceQuery.Json.Basic
import ResourceQuery.Number.Shortest
import ResourceQuery.Text.Quoted

namespace ResourceQuery.Json

/-- An exponent is written from 10^16 on and below 10^-5. -/
def floatLayout : Number.FloatLayout :=
  ⟨-5, 16⟩

/-- JSON has no text for infinities and NaN; they become `null`. -/
def printFloat : Number.Binary64 → String
  | .finite negative m q => (if negative then "-" else "") ++ floatLayout.print m q
  | _ => "null"

def Numeral.print : Numeral → String
  | .integer n => Number.printInt n
  | .real x => printFloat x

/-- A character inside quotes. -/
def escape (c : Char) : List Char :=
  if c = '"' then ['\\', '"']
  else if c = '\\' then ['\\', '\\']
  else if c = '\n' then ['\\', 'n']
  else if c = '\r' then ['\\', 'r']
  else if c = '\t' then ['\\', 't']
  else if c.toNat = 8 then ['\\', 'b']
  else if c.toNat = 12 then ['\\', 'f']
  else if c.toNat < 16 then ['\\', 'u', '0', '0', '0'] ++ Text.hexDigits c.toNat
  else if c.toNat < 32 then ['\\', 'u', '0', '0'] ++ Text.hexDigits c.toNat
  else [c]

def quote (s : String) : List Char :=
  '"' :: (s.toList.flatMap escape ++ ['"'])

/-- `sep` between each two of the texts. -/
def joined (sep : List Char) : List (List Char) → List Char
  | [] => []
  | [t] => t
  | t :: u :: ts => t ++ sep ++ joined sep (u :: ts)

mutual

def write : Json → List Char
  | .null => "null".toList
  | .bool true => "true".toList
  | .bool false => "false".toList
  | .number n => n.print.toList
  | .string s => quote s
  | .array items => '[' :: (joined [','] (writeItems items) ++ [']'])
  | .object members => '\x7b' :: (joined [','] (writeMembers members) ++ ['\x7d'])

def writeItems : List Json → List (List Char)
  | [] => []
  | v :: vs => write v :: writeItems vs

def writeMembers : List (String × Json) → List (List Char)
  | [] => []
  | (k, v) :: ms => (quote k ++ ':' :: write v) :: writeMembers ms

end

/-- A new line, indented by two blanks for each level. -/
def newLine (level : Nat) : List Char :=
  '\n' :: List.replicate (2 * level) ' '

/-- Each text on a line of its own between the brackets. -/
def bracketed (left right : Char) (level : Nat) (texts : List (List Char)) : List Char :=
  if texts.isEmpty then [left, right]
  else left :: (newLine (level + 1) ++ joined (',' :: newLine (level + 1)) texts ++
    newLine level ++ [right])

mutual

def writeLines (level : Nat) : Json → List Char
  | .array items => bracketed '[' ']' level (writeItemLines level items)
  | .object members => bracketed '\x7b' '\x7d' level (writeMemberLines level members)
  | .null => write .null
  | .bool b => write (.bool b)
  | .number n => write (.number n)
  | .string s => write (.string s)

def writeItemLines (level : Nat) : List Json → List (List Char)
  | [] => []
  | v :: vs => writeLines (level + 1) v :: writeItemLines level vs

def writeMemberLines (level : Nat) : List (String × Json) → List (List Char)
  | [] => []
  | (k, v) :: ms => (quote k ++ ':' :: ' ' :: writeLines (level + 1) v) :: writeMemberLines level ms

end

def compact (v : Json) : String :=
  String.ofList (write v)

def pretty (v : Json) : String :=
  String.ofList (writeLines 0 v)

end ResourceQuery.Json
