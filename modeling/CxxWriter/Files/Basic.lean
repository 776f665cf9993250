/-
  Files in a directory tree.

  `Files` holds the files and directories of a tree and a place in it, the
  working directory.  A place is given by the names on the way to it from the
  root.  Operations follow a path part by part, an absolute one from the root
  and a relative one from the working directory, and fail at the first part
  that cannot be followed.

  * `exists`, `isFile`, `isDirectory` look a path up: a path that cannot be
    followed leads nowhere;
  * `read`, `write`, `makeDirectories` fail with the cause and the path.
-/
import CxxWriter.Files.Path
import CxxWriter.Text.Quoted

namespace CxxWriter

/-- Why an operation on a path fails. -/
inductive FileFault where
  | notFound
  | alreadyExists
  | notDirectory
  | isDirectory
  | nameTooLong
  /-- The path holds a character that no path can hold. -/
  | badPath
deriving DecidableEq, Repr

/-- The number and the text of a fault. -/
def FileFault.text : FileFault → String
  | .notFound => "[Errno 2] No such file or directory"
  | .alreadyExists => "[Errno 17] File exists"
  | .notDirectory => "[Errno 20] Not a directory"
  | .isDirectory => "[Errno 21] Is a directory"
  | .nameTooLong => "[Errno 36] File name too long"
  | .badPath => "embedded null byte"

/-- A fault at a path. -/
structure FileError where
  fault : FileFault
  path : Path
deriving DecidableEq, Repr

def FileError.message (e : FileError) : String :=
  e.fault.text ++ ": " ++ Text.quote e.path.toString

/-- A file with its content, or a directory. -/
inductive FileEntry where
  | file (content : ByteArray)
  | directory
deriving BEq

def FileEntry.isFile : FileEntry → Bool
  | .file _ => true
  | .directory => false

/-- A directory tree. -/
structure Files where
  /-- The place of the working directory. -/
  here : List String
  /-- The files and directories by their places.  Those on the way to the
      working directory need not be among them. -/
  entries : List (List String × FileEntry)

namespace Files

/-- A tree without files, with the working directory at its root. -/
def empty : Files := ⟨[], []⟩

/-- What stands at a place: a directory, if it is on the way to the working
    directory. -/
def get? (f : Files) (place : List String) : Option FileEntry :=
  if place.isPrefixOf f.here then some .directory
  else (f.entries.find? (·.1 == place)).map (·.2)

/-- Puts an entry at a place. -/
def set (f : Files) (place : List String) (e : FileEntry) : Files :=
  if f.entries.any (·.1 == place) then
    { f with entries := f.entries.map fun x => if x.1 == place then (place, e) else x }
  else { f with entries := f.entries ++ [(place, e)] }

/-- Puts directories at all places on the way to a place. -/
def setParents (f : Files) (place : List String) : Files :=
  (List.range place.length).foldl (fun f i =>
    let p := place.take i
    if (f.get? p).isSome then f else f.set p .directory) f

/-- Puts an entry at a place, with the directories on the way. -/
def add (f : Files) (place : List String) (e : FileEntry) : Files :=
  (f.setParents place).set place e

/-! ## Following paths -/

/-- The longest part of a path, in bytes. -/
def maxPart : Nat := 255

/-- The longest path, in bytes. -/
def maxPath : Nat := 4095

/-- Follows the next part of a path from a place where a directory has to stand.
    The directory above the root is the root. -/
def stepInto (f : Files) (place : List String) (part : String) :
    Except FileFault (List String) :=
  match f.get? place with
  | none => .error .notFound
  | some (.file _) => .error .notDirectory
  | some .directory =>
    if part = ".." then .ok place.dropLast
    else if maxPart < part.utf8ByteSize then .error .nameTooLong
    else .ok (place ++ [part])

/-- The place that a path starts from. -/
def origin (f : Files) (p : Path) : List String := if p.root.isEmpty then f.here else []

/-- Follows a path to its last part, to the place where something may stand. -/
def locate (f : Files) (p : Path) : Except FileFault (List String) :=
  let s := p.toString
  if s.toList.contains '\x00' then .error .badPath
  else if maxPath < s.utf8ByteSize then .error .nameTooLong
  else p.parts.foldlM f.stepInto (f.origin p)

/-- What stands where a path leads. -/
def lookup (f : Files) (p : Path) : Except FileFault FileEntry :=
  match f.locate p with
  | .error e => .error e
  | .ok place =>
    match f.get? place with
    | some e => .ok e
    | none => .error .notFound

/-- Does a path lead to an entry that satisfies `p`?  Only a name that is too
    long is a fault. -/
def leadsTo (f : Files) (p : FileEntry → Bool) (path : Path) : Except FileError Bool :=
  match f.lookup path with
  | .ok e => .ok (p e)
  | .error .nameTooLong => .error ⟨.nameTooLong, path⟩
  | .error _ => .ok false

/-- Does the path lead to a file or directory? -/
def pathExists (f : Files) (path : Path) : Except FileError Bool := f.leadsTo (fun _ => true) path

/-- Does the path lead to a file? -/
def isFile (f : Files) (path : Path) : Except FileError Bool := f.leadsTo FileEntry.isFile path

/-- Does the path lead to a directory? -/
def isDirectory (f : Files) (path : Path) : Except FileError Bool :=
  f.leadsTo (!FileEntry.isFile ·) path

/-! ## Reading and writing -/

/-- The content of a file. -/
def read (f : Files) (path : Path) : Except FileError ByteArray :=
  match f.lookup path with
  | .ok (.file content) => .ok content
  | .ok .directory => .error ⟨.isDirectory, path⟩
  | .error e => .error ⟨e, path⟩

/-- Writes a file as a whole. -/
def write (f : Files) (path : Path) (content : ByteArray) : Except FileError Files :=
  match f.locate path with
  | .error e => .error ⟨e, path⟩
  | .ok place =>
    match f.get? place with
    | some .directory => .error ⟨.isDirectory, path⟩
    | _ => .ok (f.set place (.file content))

/-- Makes a directory whose parent exists. -/
def makeDirectory (f : Files) (path : Path) : Except FileError Files :=
  match f.locate path with
  | .error e => .error ⟨e, path⟩
  | .ok place =>
    match f.get? place with
    | some _ => .error ⟨.alreadyExists, path⟩
    | none => .ok (f.set place .directory)

/-- The outcome of an operation that may have changed the files before it
    failed. -/
structure Changed where
  files : Files
  error : Option FileError

/-- A directory that is there already is no error. -/
def allowExisting (f : Files) (path : Path) (e : FileError) : Changed :=
  match e.fault with
  | .badPath => ⟨f, some e⟩
  | _ =>
    match f.isDirectory path with
    | .ok true => ⟨f, none⟩
    | .ok false => ⟨f, some e⟩
    | .error e => ⟨f, some e⟩

/-- Makes a directory and the directories on the way to it; `levels` bounds
    how many of them are missing. -/
def makeDirectoriesFrom (f : Files) (path : Path) : Nat → Changed
  | 0 =>
    match f.makeDirectory path with
    | .ok f => ⟨f, none⟩
    | .error e => f.allowExisting path e
  | levels + 1 =>
    match f.makeDirectory path with
    | .ok f => ⟨f, none⟩
    | .error ⟨.notFound, p⟩ =>
      if path.parts.isEmpty then ⟨f, some ⟨.notFound, p⟩⟩
      else
        let up := f.makeDirectoriesFrom path.parent levels
        match up.error with
        | some e => ⟨up.files, some e⟩
        | none =>
          match up.files.makeDirectory path with
          | .ok f => ⟨f, none⟩
          | .error e => up.files.allowExisting path e
    | .error e => f.allowExisting path e

/-- Makes a directory and the directories on the way to it, unless it is there
    already. -/
def makeDirectories (f : Files) (path : Path) : Changed :=
  f.makeDirectoriesFrom path path.parts.length

/-! ## Listing -/

/-- Is `dir` on the way to `place`?  Then the parts below it. -/
def below? (dir place : List String) : Option (List String) :=
  if dir.length < place.length ∧ place.take dir.length = dir then some (place.drop dir.length)
  else none

/-- The paths of the files below a directory, relative to it. -/
def filesBelow (f : Files) (dir : List String) : List (List String) :=
  f.entries.filterMap fun e => if e.2.isFile then below? dir e.1 else none

end Files

/-! ## Text files -/

/-- The text of bytes in UTF-8. -/
def textOfBytes? (bytes : ByteArray) : Option String := String.fromUTF8? bytes

/-- The bytes of a text in UTF-8. -/
def bytesOfText (s : String) : ByteArray := s.toUTF8

/-- The text of a file whose line ends are written in any way. -/
def readableText? (bytes : ByteArray) : Option String :=
  (textOfBytes? bytes).map fun s => String.ofList (Text.normalizeLines s.toList)

end CxxWriter
