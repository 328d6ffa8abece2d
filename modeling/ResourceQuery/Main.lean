import ResourceQuery.Command.Run

namespace ResourceQuery.Command

/-- Every word of a text that could be the name of a variable. -/
def wordsOf (cs : List Char) : List String :=
  (cs.splitBy fun a b => EnvFile.isKeyChar a && EnvFile.isKeyChar b).map String.ofList

def settingVariables : List String :=
  [suppressVariable, "RUST_LOG", "LOG_FORMAT", "LOG_OUTPUT", "LOG_DIR"]

def fileError : IO.Error → FileError
  | .inappropriateType _ code _ => if code = 21 then .isDirectory else .notDirectory
  | .alreadyExists .. => .alreadyThere
  | .permissionDenied .. => .denied
  | .invalidArgument _ code _ => if code = 36 then .nameTooLong else .notFound
  | _ => .notFound

def readBytes (path : String) : IO (Except FileError (List UInt8)) := do
  try
    return .ok (← IO.FS.readBinFile path).toList
  catch e => return .error (fileError e)

/-- What stands in a file; standard input is left alone. -/
def readFile (path : String) : IO (Except FileError Source) := do
  if Directory.systemFiles.lookup (Path.root ++ (namesOf path).drop 1) = some .stdin then
    return .ok .stdin
  return (← readBytes path).bind fun bytes => (decodeUtf8 bytes).map .text

/-- What stands for the file of variables, here and in the directories above. -/
def readCandidates : IO (List EnvFile.Candidate) := do
  let here := namesOf (toString (← IO.currentDir))
  (List.range here.length).mapM fun n => do
    match ← readBytes (String.join (List.replicate n "../") ++ envFileName) with
    | .ok bytes => return .file bytes
    | .error e => return candidateOf (.error e)

def makeDirectory (path : String) : IO (Except FileError Unit) := do
  try
    IO.FS.createDirAll path
    return .ok ()
  catch e => return .error (fileError e)

def writeEvents (now : Time.Instant) (directory : String) (events : List Log.Event) : IO Unit :=
  IO.FS.withFile (logPath now directory) .append fun h =>
    events.forM fun event => h.putStr (event.line now)

/-- Opens the log file, if the settings ask for one, and writes what it has before anything is read. -/
def openLogFile (now : Time.Instant) (s : LogSettings) : IO (Except LogFault Unit) := do
  let some ds := Log.directives? s.level | return .ok ()
  unless (LogOutput.ofName s.output).toFile do return .ok ()
  match ← makeDirectory s.directory with
  | .error e => return .error (.directory e)
  | .ok _ =>
    try
      writeEvents now s.directory (openingEvents s ds)
      return .ok ()
    catch e => return .error (.file (fileError e))

/-- The time, as the system tells when it started and how long it has been up. -/
def readClock : IO Time.Instant := do
  let digits (cs : List Char) := (Number.digitsUpTo? Number.maxNat64 (cs.takeWhile Char.isDigit)).getD 0
  let lines := Text.splitAt '\n' (← IO.FS.readFile "/proc/stat").toList
  let start := (lines.find? fun line => "btime ".toList.isPrefixOf line).getD []
  let up := (← IO.FS.readFile "/proc/uptime").toList
  let hundredths := digits ((up.dropWhile Char.isDigit).drop 1)
  return ⟨digits (start.drop 6) + digits up, hundredths * 10000000⟩

partial def readAll (stream : IO.FS.Stream) (sofar : ByteArray) : IO ByteArray := do
  let bytes ← stream.read 65536
  if bytes.isEmpty then return sofar else readAll stream (sofar ++ bytes)

/-- Standard input, if the arguments ask for it. -/
def readInput (args : List String) (files : Files) : IO (List UInt8) := do
  match parse args with
  | .ok c =>
    let named := (c.input :: c.config.toList).any fun name =>
      name == "-" || (files name).toOption == some .stdin
    if named then return (← readAll (← IO.getStdin) ByteArray.empty).toList else return []
  | .error _ => return []

/-- The files that the arguments can name. -/
def readFiles (args : List String) : IO Files := do
  let named := args ++ args.map fun a => String.ofList ((a.toList.dropWhile (· != '=')).drop 1)
  let found ← named.mapM fun name => do return (name, ← readFile name)
  return fun name => (found.lookup name).getD (.error .notFound)

def getVariables (words : List String) : IO (List (String × String)) := do
  let mut found := []
  for name in settingVariables ++ words do
    if let some value := ← IO.getEnv name then found := (name, value) :: found
  return found

/-- Events in the log file from the given one on, and the others as they are seen. -/
def showEnding (now : Time.Instant) (written : Nat) (e : Ending) : IO Unit := do
  for event in e.console do
    match e.format, event.toJson with
    | .json, .object members =>
      IO.eprintln (Json.object (("timestamp", .string now.stamp) :: members)).compact
    | _, _ => IO.eprint (event.line now)
  unless e.stderr.isEmpty do IO.eprintln e.stderr
  if let some (directory, events) := e.file then writeEvents now directory (events.drop written)
  IO.print e.stdout

/-- Reads what the arguments ask for, opens the log, reads again and runs. -/
def runProgram (args : List String) : IO UInt32 := do
  let now ← readClock
  let candidates ← readCandidates
  let found ← getVariables (wordsOf (EnvFile.find candidates).toList)
  let files ← readFiles args
  let stdin ← readInput args files
  let world : World := {
    args
    env := fun name => found.lookup name
    candidates
    files
    openLog := fun _ _ => .ok files
    stdin }
  match settle world with
  | .error ending =>
    showEnding now 0 ending
    return ending.exit.toUInt32
  | .ok (_, config) =>
    let opened ← openLogFile now config.logging
    let files ← readFiles args
    let ending := run { world with openLog := fun _ _ => opened.map fun _ => files }
    let written := (Log.directives? config.logging.level).map (openingEvents config.logging)
    showEnding now (written.getD []).length ending
    return ending.exit.toUInt32

end ResourceQuery.Command

def main (args : List String) : IO UInt32 :=
  ResourceQuery.Command.runProgram args
