import ResourceQuery.Command.Arguments
import ResourceQuery.Command.LogFile
import ResourceQuery.Config.EnvFile
import ResourceQuery.Config.File
import ResourceQuery.Log.Filter
import ResourceQuery.Query.Decoding
import ResourceQuery.Query.Fingerprint

namespace ResourceQuery.Command

/-- What stands in the file of a path. -/
abbrev Files := String → Except FileError Source

structure World where
  args : List String
  /-- The variables that are set to a text. -/
  env : Environment
  /-- What stands for the file of variables, from the working directory upwards. -/
  candidates : List EnvFile.Candidate
  files : Files
  /-- The files once a log in a directory is open and has the events, or why it is not. -/
  openLog : String → List Log.Event → Except LogFault Files
  /-- What standard input gives up to its end. -/
  stdin : List UInt8

inductive LogFormat where
  | pretty
  | json
  | compact
  deriving DecidableEq, Repr

namespace LogFormat

/-- Unknown names mean the compact format. -/
def ofName (name : String) : LogFormat :=
  if name = "pretty" then pretty else if name = "json" then json else compact

def name : LogFormat → String
  | pretty => "Pretty"
  | json => "Json"
  | compact => "Compact"

end LogFormat

inductive LogOutput where
  | console
  | file
  | both
  deriving DecidableEq, Repr

namespace LogOutput

/-- Unknown names mean the console. -/
def ofName (name : String) : LogOutput :=
  if name = "file" then file else if name = "both" then both else console

def name : LogOutput → String
  | console => "Stdout"
  | file => "File"
  | both => "Both"

def toConsole : LogOutput → Bool
  | file => false
  | _ => true

def toFile : LogOutput → Bool
  | console => false
  | _ => true

end LogOutput

/-- An error, and the errors behind it. -/
structure Report where
  top : String
  causes : List String
  deriving DecidableEq, Repr

/-- Further lines of a cause stand below its first one. -/
def indented (first further : String) (text : String) : String :=
  first ++ String.ofList (text.toList.flatMap fun c => if c = '\n' then '\n' :: further.toList else [c])

def numbered (n : Nat) : List String → List String
  | [] => []
  | c :: cs =>
    indented (String.ofList (List.replicate (5 - (Number.decimalDigits n).length) ' ') ++
      Number.printNat n ++ ": ") "       " c :: numbered (n + 1) cs

def Report.print (r : Report) : String :=
  let causes := match r.causes with
    | [] => []
    | [c] => [indented "    " "    " c]
    | cs => numbered 0 cs
  Text.joinWith "\n"
    (("Error: " ++ r.top) :: (if causes.isEmpty then [] else "" :: "Caused by:" :: causes))

/-- What is seen of a run whose streams take all that is written. -/
structure Ending where
  exit : Nat
  stdout : String
  /-- Events on the console, before the error text. -/
  console : List Log.Event
  format : LogFormat
  stderr : String
  /-- The directory of the log file, and its events. -/
  file : Option (String × List Log.Event)

def decodeUtf8 (bytes : List UInt8) : Except FileError String :=
  match String.fromUTF8? ⟨bytes.toArray⟩ with
  | some text => .ok text
  | none => .error .notText

/-- The text of a file. -/
def readText (files : Files) (stdin : List UInt8) (path : String) : Except FileError String :=
  match files path with
  | .ok (.text text) => .ok text
  | .ok .stdin => decodeUtf8 stdin
  | .error e => .error e

/-- What is left of standard input behind a file: nothing, if it is that. -/
def stdinBehind (files : Files) (stdin : List UInt8) (path : String) : List UInt8 :=
  match files path with
  | .ok .stdin => []
  | _ => stdin

def loadConfig (w : World) (env : Environment) (path : Option String) : Except Report Config :=
  match path with
  | none => (Config.ofEnvironment env).mapError fun e => ⟨e.message, []⟩
  | some path =>
    let top := "loading config " ++ path
    match readText w.files w.stdin path with
    | .error e => .error ⟨top, ["Failed to read config file: " ++ e.message, e.message]⟩
    | .ok text =>
      (Config.load text env).mapError fun
        | .unparsable e => ⟨top, ["Failed to parse YAML: " ++ e.message, e.message]⟩
        | .invalidVariable e => ⟨top, [e.message]⟩

def readLayer (files : Files) (stdin : List UInt8) (input : String) : Except Report Layer := do
  let text ←
    if input = "-" then
      (decodeUtf8 stdin).mapError fun e => ⟨"reading query layer from stdin", [e.message]⟩
    else
      (readText files stdin input).mapError fun e =>
        ⟨"reading query layer from " ++ input, [e.message]⟩
  (Layer.parse text).mapError fun e => ⟨"parsing query layer", [e.message]⟩

def indexOf (c : Invocation) (l : Layer) : String :=
  c.index.getD l.resource

/-- The text that a command prints for a layer. -/
def render (c : Invocation) (o : Options) (l : Layer) : Except Report String :=
  match c.verb with
  | .search =>
    match o.translate (indexOf c l) l with
    | .ok r => .ok ("POST /" ++ r.index ++ "/_search\n" ++ r.encode)
    | .error e => .error ⟨e.message, []⟩
  | .count =>
    match countRequest (indexOf c l) l.filter with
    | .ok r => .ok ("POST /" ++ r.index ++ "/_count\n" ++ r.encode)
    | .error e => .error ⟨e.message, []⟩
  | .fingerprint => .ok l.fingerprint

def eventsOf (c : Invocation) (o : Options) (l : Layer) : List Log.Event :=
  ⟨.info, "resq", "query layer loaded", [("resource", .shown l.resource)]⟩ ::
    match c.verb with
    | .search => Log.ofSearch o (indexOf c l) l
    | .count => Log.ofCount (indexOf c l) l.filter
    | .fingerprint => []

def loggingStarted (s : LogSettings) : Log.Event :=
  ⟨.debug, "resq::logging", "logging initialized",
    [("format", .shown (LogFormat.ofName s.format).name),
      ("output", .shown (LogOutput.ofName s.output).name), ("level", .shown s.level)]⟩

def withoutLog (exit : Nat) (stdout stderr : String) : Ending :=
  ⟨exit, stdout, [], .compact, stderr, none⟩

def failed (r : Report) : Ending :=
  withoutLog 1 "" r.print

/-- The program breaks off. What is reported then names places in its code and is left out. -/
def aborted : Ending :=
  withoutLog 101 "" ""

def envFileName : String := ".env"

/-- What is read under the name of the file of variables. Only a file counts. -/
def candidateOf : Except FileError Source → EnvFile.Candidate
  | .ok (.text s) => .file s.toUTF8.toList
  | .ok .stdin | .error .notFound | .error .isDirectory => .missing
  | .error _ => .barred

/-- The variables that are set, and behind them those of the file of variables; `none` if the program
aborts. -/
def environment (w : World) : Option Environment :=
  EnvFile.read w.env (EnvFile.find w.candidates)

def helpText : String :=
  aboutText ++ "\n\nUsage: " ++ programName ++ " [OPTIONS] <COMMAND>"

def Stop.ending : Stop → Ending
  | usage e => withoutLog 2 "" ("error: " ++ e.message)
  | nothing => withoutLog 2 "" helpText
  | help => withoutLog 0 (helpText ++ "\n") ""
  | version => withoutLog 0 (versionText ++ "\n") ""

/-- The command and its settings, all that is settled before a log is opened. -/
def settle (w : World) : Except Ending (Invocation × Config) :=
  match environment w with
  | none => .error aborted
  | some env => do
    let c ← (parse w.args).mapError Stop.ending
    let config ← (loadConfig w env c.config).mapError failed
    return (c, config)

/-- What is left of standard input behind the settings. -/
def inputBehind (w : World) (c : Invocation) : List UInt8 :=
  match c.config with
  | none => w.stdin
  | some path => stdinBehind w.files w.stdin path

/-- A log that is open: what it lets pass, and the files as they are then. -/
structure OpenLog where
  directives : List Log.Directive
  files : Files

/-- The events that the log file has before anything is read. -/
def openingEvents (s : LogSettings) (ds : List Log.Directive) : List Log.Event :=
  [loggingStarted s].filter (Log.passes ds)

def startLogging (w : World) (s : LogSettings) : Except Ending OpenLog :=
  match Log.directives? s.level with
  | none => .error aborted
  | some ds =>
    if (LogOutput.ofName s.output).toFile then
      match w.openLog s.directory (openingEvents s ds) with
      | .ok files => .ok ⟨ds, files⟩
      | .error (.directory e) => .error (failed ⟨"initializing logging", [e.message]⟩)
      | .error (.file _) => .error aborted
    else .ok ⟨ds, w.files⟩

/-- The events that the log lets pass, to where the settings send them. -/
def finish (s : LogSettings) (ds : List Log.Directive) (events : List Log.Event)
    (result : Except Report String) : Ending :=
  let output := LogOutput.ofName s.output
  let logged := events.filter (Log.passes ds)
  let (exit, stdout, stderr) := match result with
    | .ok text => (0, text ++ "\n", "")
    | .error r => (1, "", r.print)
  { exit, stdout, stderr
    console := if output.toConsole then logged else []
    format := .ofName s.format
    file := if output.toFile then some (s.directory, logged) else none }

/-- Runs a command whose settings are loaded and whose log is open. -/
def execute (log : OpenLog) (stdin : List UInt8) (c : Invocation) (config : Config) : Ending :=
  let started := loggingStarted config.logging
  match readLayer log.files stdin c.input with
  | .error r => finish config.logging log.directives [started] (.error r)
  | .ok l =>
    finish config.logging log.directives (started :: eventsOf c config.compiler l)
      (render c config.compiler l)

def run (w : World) : Ending :=
  match settle w with
  | .error ending => ending
  | .ok (c, config) =>
    match startLogging w config.logging with
    | .error ending => ending
    | .ok log => execute log (inputBehind w c) c config

end ResourceQuery.Command
