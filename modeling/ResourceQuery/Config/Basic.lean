import ResourceQuery.Compile.Request

namespace ResourceQuery

structure LogSettings where
  level : String
  format : String
  output : String
  directory : String
  deriving DecidableEq, Repr

def LogSettings.default : LogSettings :=
  ⟨"warn", "compact", "stdout", "./logs"⟩

structure Config where
  compiler : Options
  logging : LogSettings
  deriving DecidableEq, Repr

def Config.default : Config :=
  ⟨.default, .default⟩

def LogSettings.toJson (s : LogSettings) : Json :=
  .object [("level", .string s.level), ("format", .string s.format), ("output", .string s.output),
    ("directory", .string s.directory)]

def Config.toJson (c : Config) : Json :=
  .object [("compiler", c.compiler.toJson), ("logging", c.logging.toJson)]

/-- The values of variables. -/
abbrev Environment := String → Option String

/-- A variable that is set to a value without meaning. -/
structure InvalidVariable where
  name : String
  value : String
  deriving DecidableEq, Repr

def InvalidVariable.message (e : InvalidVariable) : String :=
  "Invalid value '" ++ e.value ++ "' for environment variable " ++ e.name

def suppressVariable : String := "RESQ_SUPPRESS_ID_SORT"

/-- A truth value in words, in any case of letters and with blanks around it. -/
def flagOf? (s : String) : Option Bool :=
  let word := String.ofList (Text.lowerAscii (Text.trim s.toList))
  if ["1", "true", "yes", "on"].contains word then some true
  else if ["0", "false", "no", "off"].contains word then some false
  else none

/-- What the variables make of the settings of the log. -/
def LogSettings.override (s : LogSettings) (env : Environment) : LogSettings :=
  ⟨(env "RUST_LOG").getD s.level, (env "LOG_FORMAT").getD s.format,
    (env "LOG_OUTPUT").getD s.output, (env "LOG_DIR").getD s.directory⟩

/-- Settings that are changed in place. What was changed before a fault stays changed. -/
abbrev Overriding : Type :=
  EStateM InvalidVariable Config Unit

/-- A variable that is set is assigned, one that is not set is passed over. -/
def whenSet (env : Environment) (name : String) (assign : String → Overriding) : Overriding :=
  match env name with
  | some value => assign value
  | none => pure ()

def Options.assignFlag (name value : String) : Overriding :=
  match flagOf? value with
  | some flag => modify fun c => { c with compiler.suppressIdentifierSort := flag }
  | none => throw ⟨name, value⟩

/-- A setting of the log takes any text. -/
def LogSettings.assign (put : LogSettings → String → LogSettings) (value : String) : Overriding :=
  modify fun c => { c with logging := put c.logging value }

/-- Every variable that is set replaces its setting, one after another. -/
def Config.applyOverrides (env : Environment) : Overriding := do
  whenSet env suppressVariable (Options.assignFlag suppressVariable)
  whenSet env "RUST_LOG" (LogSettings.assign fun s level => { s with level })
  whenSet env "LOG_FORMAT" (LogSettings.assign fun s format => { s with format })
  whenSet env "LOG_OUTPUT" (LogSettings.assign fun s output => { s with output })
  whenSet env "LOG_DIR" (LogSettings.assign fun s directory => { s with directory })

/-- The settings as the variables leave them. -/
def Config.override (c : Config) (env : Environment) : Except InvalidVariable Config :=
  match (applyOverrides env).run c with
  | .ok () c => .ok c
  | .error e _ => .error e

end ResourceQuery
