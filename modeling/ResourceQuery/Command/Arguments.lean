namespace ResourceQuery.Command

inductive Setting where
  | config
  | input
  | index
  deriving DecidableEq, Repr

namespace Setting

def name : Setting → String
  | config => "config"
  | input => "input"
  | index => "index"

/-- The option with the name of its value. -/
def usage : Setting → String
  | config => "--config <CONFIG>"
  | input => "--input <INPUT>"
  | index => "--index <INDEX>"

/-- A path cannot be empty. -/
def accepts : Setting → String → Bool
  | config, s => !s.isEmpty
  | _, _ => true

end Setting

inductive Verb where
  | search
  | count
  | fingerprint
  deriving DecidableEq, Repr

namespace Verb

def all : List Verb :=
  [search, count, fingerprint]

def name : Verb → String
  | search => "search"
  | count => "count"
  | fingerprint => "fingerprint"

def settings : Verb → List Setting
  | search | count => [.input, .index, .config]
  | fingerprint => [.input, .config]

end Verb

inductive UsageError where
  | unexpectedArgument (arg : String)
  | unknownSubcommand (arg : String)
  | unexpectedValue (value option : String)
  | valueRequired (s : Setting)
  | repeated (s : Setting)
  | noSubcommand
  deriving DecidableEq, Repr

def programName : String := "resq"
def versionText : String := "resq 0.1.0"
def aboutText : String := "Compile resource queries into search engine requests"

def UsageError.message : UsageError → String
  | unexpectedArgument arg => "unexpected argument '" ++ arg ++ "' found"
  | unknownSubcommand arg => "unrecognized subcommand '" ++ arg ++ "'"
  | unexpectedValue value option =>
    "unexpected value '" ++ value ++ "' for '" ++ option ++ "' found; no more were expected"
  | valueRequired s => "a value is required for '" ++ s.usage ++ "' but none was supplied"
  | repeated s => "the argument '" ++ s.usage ++ "' cannot be used multiple times"
  | noSubcommand => "'" ++ programName ++ "' requires a subcommand but one was not provided"

/-- Why the arguments do not lead to a command. -/
inductive Stop where
  | usage (e : UsageError)
  /-- Nothing was asked for; the help text is shown as an error. -/
  | nothing
  | help
  | version
  deriving DecidableEq, Repr

structure Invocation where
  verb : Verb
  config : Option String
  input : String
  index : Option String
  deriving DecidableEq, Repr

/-- Settings so far, and the last option while its value is not settled. -/
structure Given where
  values : List (Setting × String)
  pending : Option (Setting × Option String)
  deriving DecidableEq, Repr

def Given.none : Given :=
  ⟨[], .none⟩

/-- Settles the last option: it has a value, an acceptable one, and is given once. -/
def Given.settle (g : Given) : Except Stop Given :=
  match g.pending with
  | .none => .ok g
  | some (s, .none) => .error (.usage (.valueRequired s))
  | some (s, some v) =>
    if (g.values.lookup s).isSome then .error (.usage (.repeated s))
    else if !s.accepts v then .error (.usage (.valueRequired s))
    else .ok ⟨(s, v) :: g.values, .none⟩

/-- Whether the next argument is the value of the last option. -/
def Given.awaits (g : Given) : Bool :=
  match g.pending with
  | some (_, .none) => true
  | _ => false

def Given.supply (g : Given) (v : String) : Given :=
  ⟨g.values, g.pending.map fun (s, _) => (s, some v)⟩

/-- A name and, behind an equal sign, a value. -/
def splitOption (cs : List Char) : String × Option String :=
  match cs.dropWhile (· != '=') with
  | _ :: v => (String.ofList (cs.takeWhile (· != '=')), some (String.ofList v))
  | [] => (String.ofList cs, .none)

/-- Whether options of this level are those of the program itself. -/
inductive Level where
  | program
  | verb (v : Verb)
  deriving DecidableEq, Repr

def Level.settings : Level → List Setting
  | program => [.config]
  | verb v => v.settings

def Level.isProgram : Level → Bool
  | program => true
  | verb _ => false

/-- An option that shows something instead of running. -/
def showing (g : Given) (stop : Stop) (option : String) : Option String → Except Stop Given
  | some v => .error (.usage (.unexpectedValue v option))
  | .none => do
    let _ ← g.settle
    .error stop

def takeLong (level : Level) (g : Given) (cs : List Char) : Except Stop Given :=
  let (name, value) := splitOption cs
  match level.settings.find? fun s => s.name = name with
  | some s =>
    match value with
    | some v => do Given.settle ⟨(← g.settle).values, some (s, some v)⟩
    | .none => do return ⟨(← g.settle).values, some (s, .none)⟩
  | .none =>
    if name = "help" then showing g .help "--help" value
    else if name = "version" && level.isProgram then showing g .version "--version" value
    else .error (.usage (.unexpectedArgument ("--" ++ name)))

def takeShort (level : Level) (g : Given) (c : Char) : Except Stop Given :=
  if c = 'h' then showing g .help "-h" .none
  else if c = 'V' && level.isProgram then showing g .version "-V" .none
  else .error (.usage (.unexpectedArgument (String.ofList ['-', c])))

/-- An argument without a place. -/
def misplaced (level : Level) (trailing : Bool) (arg : String) : Stop :=
  match level with
  | .verb _ => .usage (.unexpectedArgument arg)
  | .program =>
    if trailing && ("help" :: Verb.all.map Verb.name).contains arg then .usage (.unexpectedArgument arg)
    else .usage (.unknownSubcommand arg)

/-- What stopped the reading of a level: its end, or a subcommand and what follows it. -/
structure LevelEnd where
  given : Given
  subcommand : Option (String × List String)

def readLevel (level : Level) (trailing : Bool) (g : Given) : List String → Except Stop LevelEnd
  | [] => .ok ⟨g, .none⟩
  | arg :: args =>
    if trailing then .error (misplaced level trailing arg)
    else if level.isProgram && !g.awaits && ("help" :: Verb.all.map Verb.name).contains arg then
      .ok ⟨g, some (arg, args)⟩
    else
      match arg.toList with
      | ['-', '-'] => readLevel level true g args
      | '-' :: '-' :: cs => do readLevel level trailing (← takeLong level g cs) args
      | '-' :: c :: _ => do readLevel level trailing (← takeShort level g c) args
      | _ =>
        if g.awaits then readLevel level trailing (g.supply arg) args
        else .error (misplaced level trailing arg)

/-- Help on a subcommand that does not exist is an error. No subcommand has one of its own. -/
def readHelp : List String → Stop
  | [] => .help
  | name :: inner =>
    if ("help" :: Verb.all.map Verb.name).contains name then
      match inner with
      | [] => .help
      | name :: _ => .usage (.unknownSubcommand name)
    else .usage (.unknownSubcommand name)

/-- The options of a subcommand are settled before those of the program; where both give a setting
the subcommand's holds. -/
def parse (args : List String) : Except Stop Invocation := do
  let top ← readLevel .program false .none args
  match top.subcommand with
  | .none =>
    let g ← top.given.settle
    if g.values.isEmpty then .error .nothing else .error (.usage .noSubcommand)
  | some (name, rest) =>
    match Verb.all.find? fun v => v.name = name with
    | .none => .error (readHelp rest)
    | some verb =>
      let inner ← (← readLevel (.verb verb) false .none rest).given.settle
      let outer ← top.given.settle
      return ⟨verb, (inner.values.lookup .config).or (outer.values.lookup .config),
        (inner.values.lookup .input).getD "-", inner.values.lookup .index⟩

end ResourceQuery.Command
