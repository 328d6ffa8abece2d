import ResourceQuery.Config.Basic
import ResourceQuery.Yaml.Decode

namespace ResourceQuery

open Yaml (Document Reader)

def Options.fileSlots : List (Reader.Slot Options) :=
  [⟨"suppress_identifier_sort", fun d path _ items => do
      let (flag, rest) ← Reader.boolean d path items
      return (⟨flag⟩, rest)⟩]

/-- A setting of the log that is a text. -/
def LogSettings.slot (name : String) (set : LogSettings → String → LogSettings) :
    Reader.Slot LogSettings :=
  ⟨name, fun d path s items => do
    let (text, rest) ← Reader.text d path items
    return (set s text, rest)⟩

def LogSettings.fileSlots : List (Reader.Slot LogSettings) :=
  [slot "level" fun s t => { s with level := t },
   slot "format" fun s t => { s with format := t },
   slot "output" fun s t => { s with output := t },
   slot "directory" fun s t => { s with directory := t }]

def Config.fileSlots : List (Reader.Slot Config) :=
  [⟨"compiler", fun d path c items => do
      let (compiler, rest) ←
        Reader.gather "struct AssemblerOptions" Options.fileSlots d path c.compiler items
      return ({ c with compiler := compiler }, rest)⟩,
   ⟨"logging", fun d path c items => do
      let (logging, rest) ←
        Reader.gather "struct LoggingConfig" LogSettings.fileSlots d path c.logging items
      return ({ c with logging := logging }, rest)⟩]

def Config.ofDocument (d : Document) : Except Yaml.Error Config :=
  d.read (Reader.gather "struct Config" Config.fileSlots d [] .default)

/-- The settings that a text gives. An empty text gives none. -/
def Config.ofText (text : String) : Except Yaml.Error Config :=
  match Document.ofText? text with
  | none => .ok .default
  | some d => Config.ofDocument d

inductive ConfigError where
  | unparsable (e : Yaml.Error)
  | invalidVariable (e : InvalidVariable)
  deriving DecidableEq, Repr

/-- The settings of a file's text, overridden by the variables. -/
def Config.load (text : String) (env : Environment) : Except ConfigError Config := do
  let c ← (Config.ofText text).mapError .unparsable
  (c.override env).mapError .invalidVariable

/-- The default settings, overridden by the variables. -/
def Config.ofEnvironment (env : Environment) : Except InvalidVariable Config :=
  Config.default.override env

end ResourceQuery
