/-!
# Files — paths and the files below a working directory

A `Path` is a list of steps, from the working directory unless it is absolute; steps that stay
where they are do not count. A `Directory` is the files below the working directory with their
contents; its folders are those that were made and those that some file lies in. Following a path
goes step by step, so a way back out of a folder needs the folder to be there.
-/

namespace Rostering

/-! ## Paths -/

/-- Steps from the working directory, or from the root of all files. -/
structure Path where
  absolute : Bool
  steps : List String
  deriving DecidableEq

namespace Path

def ofText (s : String) : Path :=
  ⟨s.startsWith "/", (s.splitOn "/").filter fun step => step != "" && step != "."⟩

def text (p : Path) : String :=
  let steps := String.intercalate "/" p.steps
  if p.absolute then "/" ++ steps else if p.steps.isEmpty then "." else steps

def under (folder p : Path) : Path :=
  if p.absolute then p else ⟨folder.absolute, folder.steps ++ p.steps⟩

/-- The ending of a file name from its last point on. -/
def suffix (p : Path) : String :=
  let name := (p.steps.getLast?.getD "").toList
  let ending := (name.reverse.takeWhile (· != '.')).reverse
  -- a point at either end of the name begins no ending
  if ending.isEmpty || ending.length + 1 ≥ name.length then ""
  else "." ++ String.ofList ending

end Path

/-- So many bytes may a path have. -/
def pathLimit : Nat := 4095

/-- So many bytes may each name in a path have. -/
def nameLimit : Nat := 255

/-- The first of some names is longer than names may be. -/
def startsOverlong (names : List String) : Bool :=
  match names with
  | [] => false
  | name :: _ => nameLimit < name.utf8ByteSize

/-! ## Directories -/

/-- What a path leads to. -/
inductive DirectoryEntry where
  | file (content : String)
  | folder

/-- Files with their contents, each under its steps from the working directory, and folders. -/
structure Directory where
  files : List (List String × String)
  folders : List (List String)

namespace Directory

def empty : Directory := ⟨[], []⟩

/-- Writes a file. The steps have to be plain names. -/
def write (d : Directory) (p : Path) (content : String) : Directory :=
  { d with files := (p.steps, content) :: d.files.filter fun f => f.1 != p.steps }

/-- Makes a folder. The steps have to be plain names. -/
def makeFolder (d : Directory) (p : Path) : Directory :=
  { d with folders := p.steps :: d.folders }

def entryAt (d : Directory) (steps : List String) : Option DirectoryEntry :=
  match d.files.lookup steps with
  | some content => some (.file content)
  | none =>
    if steps.isEmpty || (d.files.map Prod.fst ++ d.folders).any steps.isPrefixOf then some .folder
    else none

/-- Follows steps from some place. Of what lies outside of the working directory only the folders
around it are known. -/
def follow (d : Directory) (place : List String) : List String → Option DirectoryEntry
  | [] => d.entryAt place
  | step :: rest =>
    match d.entryAt place with
    | some .folder =>
      if step != ".." then d.follow (place ++ [step]) rest
      else if place.isEmpty then (if rest.all (· == "..") then some .folder else none)
      else d.follow place.dropLast rest
    | _ => none

def find? (d : Directory) (p : Path) : Option DirectoryEntry :=
  if p.absolute then none else d.follow [] p.steps

def has (d : Directory) (p : Path) : Bool := (d.find? p).isSome

/-- The system looks into the folder at some place for a name that is longer than names may be,
while it follows steps. It does not come to a name behind a step that leads nowhere. -/
def deniesFrom (d : Directory) (place : List String) : List String → Bool
  | [] => false
  | step :: rest =>
    match d.entryAt place with
    | some .folder =>
      if nameLimit < step.utf8ByteSize then true
      else if step != ".." then d.deniesFrom (place ++ [step]) rest
      -- all folders around the working directory are there
      else if place.isEmpty then
        startsOverlong (rest.dropWhile (· == ".."))
      else d.deniesFrom place.dropLast rest
    | _ => false

/-- The system refuses to tell what is at a path: the path is too long, or a name in it is. Of an
absolute path only the first name is known to be looked for. -/
def denies (d : Directory) (p : Path) : Bool :=
  pathLimit < p.text.utf8ByteSize
    || if p.absolute then startsOverlong p.steps else d.deniesFrom [] p.steps

/-- The content of the file at a path. -/
def content? (d : Directory) (p : Path) : Option String :=
  match d.find? p with
  | some (.file content) => some content
  | _ => none

end Directory

end Rostering
