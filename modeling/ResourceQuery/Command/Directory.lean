import ResourceQuery.Text.Blank

namespace ResourceQuery.Command

inductive FileError where
  | notFound
  | notDirectory
  | isDirectory
  | alreadyThere
  | nameTooLong
  | holdsZero
  | denied
  | notText
  deriving DecidableEq, Repr

def FileError.message : FileError → String
  | notFound => "No such file or directory (os error 2)"
  | notDirectory => "Not a directory (os error 20)"
  | isDirectory => "Is a directory (os error 21)"
  | alreadyThere => "File exists (os error 17)"
  | nameTooLong => "File name too long (os error 36)"
  | holdsZero => "file name contained an unexpected NUL byte"
  | denied => "Permission denied (os error 13)"
  | notText => "stream did not contain valid UTF-8"

/-- What is read from a file: its text, or what the program is given to read. -/
inductive Source where
  | text (s : String)
  | stdin
  deriving DecidableEq, Repr

/-- The names on the way to a place. They begin at the working directory, or at the root if a slash
is the first; two dots stand in front of a path that leads above the working directory. -/
abbrev Path := List String

namespace Path

def root : Path := ["/"]

/-- The directory that holds a place; what lies above the working directory is not told apart. -/
def parent (p : Path) : Path :=
  if p = root then root else if p.all (· == "..") then p ++ [".."] else p.dropLast

/-- Whether a place lies in the working directory. -/
def isInside (p : Path) : Bool :=
  p.head?.all fun name => name != ".." && name != "/"

def print (p : Path) : String :=
  Text.joinWith "/" p

end Path

/-- The parts of a written path. -/
def namesOf (s : String) : List String :=
  (Text.splitAt '/' s.toList).map String.ofList

/-- Where a written path begins. -/
def startOf (s : String) : Path :=
  if s.toList.head? = some '/' then Path.root else []

/-- Parts that lead nowhere. -/
def isIdle (name : String) : Bool :=
  name == "" || name == "."

structure Directory where
  files : List (Path × Source)
  folders : List Path

namespace Directory

/-- Files that every system has. -/
def systemFiles : List (Path × Source) :=
  [(["/", "dev", "null"], .text ""), (["/", "dev", "stdin"], .stdin),
   (["/", "dev", "fd", "0"], .stdin), (["/", "proc", "self", "fd", "0"], .stdin)]

/-- Directories that every system has. -/
def systemFolders : List Path :=
  [["/", "bin"], ["/", "etc"], ["/", "home"], ["/", "lib"], ["/", "root"], ["/", "tmp"], ["/", "usr"],
   ["/", "var"]]

/-- Directories in which nothing can be made. -/
def closedFolders : List Path :=
  [["/", "proc"], ["/", "dev", "fd"]]

def isClosed (p : Path) : Bool :=
  closedFolders.any (·.isPrefixOf p)

/-- A working directory of text files. -/
def ofList (files : List (String × String)) : Directory :=
  ⟨files.map (fun (name, text) => ((namesOf name).filter (!isIdle ·), .text text)) ++ systemFiles,
    systemFolders⟩

def isFile (d : Directory) (p : Path) : Bool :=
  (d.files.lookup p).isSome

/-- The root, the working directory and what lies above it, and what lies above a directory or a
file. -/
def isDirectory (d : Directory) (p : Path) : Bool :=
  p == Path.root || p.all (· == "..") || (d.folders.any fun q => p.isPrefixOf q) ||
    d.files.any fun (q, _) => p.isPrefixOf q && p.length < q.length

def mostNameBytes : Nat := 255
def mostPathBytes : Nat := 4095

/-- Goes on along the names, from a place that has to be a directory. -/
def walk (d : Directory) (p : Path) : List String → Except FileError Path
  | [] => .ok p
  | name :: names =>
    if !d.isDirectory p then .error (if d.isFile p then .notDirectory else .notFound)
    else if isIdle name then walk d p names
    else if name = ".." then walk d p.parent names
    else if mostNameBytes < name.utf8ByteSize then .error .nameTooLong
    else walk d (p ++ [name]) names

/-- What can be said of a path before it is walked. -/
def check (s : String) : Except FileError Unit :=
  if s.toList.contains '\x00' then .error .holdsZero
  else if s.isEmpty then .error .notFound
  else if mostPathBytes < s.utf8ByteSize then .error .nameTooLong
  else .ok ()

/-- The place of a path; nothing need be there. -/
def locate (d : Directory) (s : String) : Except FileError Path := do
  check s
  d.walk (startOf s) (namesOf s)

def read (d : Directory) (s : String) : Except FileError Source := do
  let p ← d.locate s
  if d.isDirectory p then .error .isDirectory
  else
    match d.files.lookup p with
    | some source => .ok source
    | none => .error .notFound

/-- Makes a directory in one that is there. Slashes behind its name are passed over. -/
def makeOne (d : Directory) (start : Path) (names : List String) : Except FileError Directory :=
  match (names.reverse.dropWhile (·.isEmpty)) with
  | [] => .error .alreadyThere
  | name :: above => do
    let p ← d.walk start above.reverse
    let p' ← d.walk p [name]
    if name = "." ∨ name = ".." ∨ d.isDirectory p' ∨ d.isFile p' then .error .alreadyThere
    else if isClosed p' then .error .notFound
    else return { d with folders := p' :: d.folders }

def leadsToDirectory (d : Directory) (start : Path) (names : List String) : Bool :=
  match d.walk start names with
  | .ok p => d.isDirectory p
  | .error _ => false

/-- Makes a directory, or leaves it if it is there. -/
def makeOrKeep (d : Directory) (start : Path) (names : List String) : Except FileError Directory :=
  match d.makeOne start names with
  | .ok d => .ok d
  | .error e => if d.leadsToDirectory start names then .ok d else .error e

/-- Makes a directory, and at first those above it if the way to it is missing. -/
def makeAlong (d : Directory) (start : Path) : Nat → List String → Except FileError Directory
  | 0, _ => .ok d
  | fuel + 1, names =>
    if names.isEmpty then .ok d
    else
      match d.makeOrKeep start names with
      | .error .notFound => do
        let d ← d.makeAlong start fuel (names.filter (!isIdle ·)).dropLast
        d.makeOrKeep start names
      | made => made

/-- Makes a directory with all above it. -/
def make (d : Directory) (s : String) : Except FileError Directory :=
  if s.isEmpty then .ok d
  else do
    check s
    let names := namesOf s
    d.makeAlong (startOf s) (names.length + 1) names

/-- Puts a text at the end of the file of a path, which is made if nothing is there. -/
def append (d : Directory) (s text : String) : Except FileError Directory := do
  let p ← d.locate s
  if d.isDirectory p then .error .isDirectory
  else
    match d.files.lookup p with
    | some (.text before) => return { d with files := (p, .text (before ++ text)) :: d.files }
    | some .stdin => return d
    | none =>
      if isClosed p then .error .notFound
      else return { d with files := (p, .text text) :: d.files }

end Directory

end ResourceQuery.Command
