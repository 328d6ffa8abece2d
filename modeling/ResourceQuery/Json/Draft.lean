import ResourceQuery.Json.Error

namespace ResourceQuery.Json

/-- A place where the text breaks off. A reader who wants the value and one who skips it put the
fault differently. -/
structure Fault where
  wanted : SyntaxError
  skipped : SyntaxError
  deriving DecidableEq, Repr

def Fault.same (e : SyntaxError) : Fault :=
  ⟨e, e⟩

/-- How a value began that could not be read. -/
inductive Begun where
  | nothing
  | word
  | quotes
  deriving DecidableEq, Repr

/-- What a text looks like before anyone asks for a type, with each fault where it stands. Numbers out
of range and unpaired surrogates spoil a value but not the text behind it. A container that ends in a
fault has no end; the fault may lie inside its last item. -/
inductive Draft where
  | fault (begun : Begun) (f : Fault)
  | null
  | bool (b : Bool)
  | number (n : Except SyntaxError Numeral)
  | string (s : Except SyntaxError String)
  | array (items : List Draft) (broken : Option Fault)
  | object (members : List (Except SyntaxError String × Draft)) (broken : Option Fault)

namespace Draft

/-- Where the text breaks off inside the value. -/
def broken? : Draft → Option Fault
  | .fault _ f => some f
  | .array _ f | .object _ f => f
  | _ => none

/-- Passes over a value that nobody wants: only the end of it matters. -/
def skip (d : Draft) : Except SyntaxError Unit :=
  match d.broken? with
  | some f => .error f.skipped
  | none => .ok ()

def intact (broken : Option Fault) : Except SyntaxError Unit :=
  match broken with
  | some f => .error f.wanted
  | none => .ok ()

/-- The value as it stands, with the members of objects in key order. `room` is the number of
containers that may be opened one inside another. -/
def toJson : Nat → Draft → Except SyntaxError Json
  | _, .fault _ f => .error f.wanted
  | _, .null => .ok .null
  | _, .bool b => .ok (.bool b)
  | _, .number n => n.map .number
  | _, .string s => s.map .string
  | 0, _ => .error .nestedTooDeep
  | room + 1, .array items broken => do
    let vs ← items.mapM (toJson room)
    intact broken
    return .array vs
  | room + 1, .object members broken => do
    let ms ← members.mapM fun (k, d) => do return (← k, ← toJson room d)
    intact broken
    return .object (sorted ms)

/-- Whether the whole value can be read. -/
def check (room : Nat) (d : Draft) : Except SyntaxError Unit :=
  (d.toJson room).map fun _ => ()

end Draft

end ResourceQuery.Json
