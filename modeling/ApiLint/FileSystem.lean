/-!
# File systems

What a run sees of the files around it: for each path whether there is a file, with its bytes, or
a directory.

## Main definitions

* `FileSystem`: a file system as a function of the path.
* `FileSystem.read`: the text of a file, or why it cannot be read.
* `FileSystem.follow`: what stands where a path leads, part by part.
* `FileSystem.ofFiles`: the file system that holds the given files.
-/

namespace ApiLint

/-- What stands at a path. -/
inductive FileEntry where
  | missing
  | directory
  | file (bytes : ByteArray)
  /-- A path that leads through a file as if it were a directory. -/
  | blocked
  /-- A path, or a part of it, that is longer than a name can be. -/
  | overlong
  /-- A path with a null character, which ends names. -/
  | unnamable
deriving Inhabited

/-- What a run sees of the files around it. -/
structure FileSystem where
  entry : String → FileEntry

/-- Why a text cannot be read. -/
inductive ReadError where
  | missing
  | directory
  | blocked
  | overlong
  | unnamable
  /-- The bytes are no text. -/
  | notText
deriving DecidableEq, Repr, Inhabited

/-- The sentence for a text that cannot be read. -/
def ReadError.message : ReadError → String
  | missing => "No such file or directory (os error 2)"
  | directory => "Is a directory (os error 21)"
  | blocked => "Not a directory (os error 20)"
  | overlong => "File name too long (os error 36)"
  | unnamable => "file name contained an unexpected NUL byte"
  | notText => "stream did not contain valid UTF-8"

namespace FileSystem

/-- Whether there is a file or a directory at a path. -/
def has (files : FileSystem) (path : String) : Bool :=
  match files.entry path with
  | .directory | .file _ => true
  | .missing | .blocked | .overlong | .unnamable => false

/-- **The text at a path**, which must be a file of UTF-8. -/
def read (files : FileSystem) (path : String) : Except ReadError String :=
  match files.entry path with
  | .missing => .error .missing
  | .directory => .error .directory
  | .blocked => .error .blocked
  | .overlong => .error .overlong
  | .unnamable => .error .unnamable
  | .file bytes =>
    match String.fromUTF8? bytes with
    | some text => .ok text
    | none => .error .notText

/-- The parts of a path between slashes. -/
def parts (path : String) : List (List Char) :=
  path.toList.splitOn '/'

/-- A place that a path leads to: names below a root, or a directory around it, of which nothing
is known but that it is there. -/
inductive Place where
  | below (names : List (List Char))
  | around
deriving DecidableEq, Repr, Inhabited

/-- The place that one part of a path leads to from a directory: a single point and nothing stay
there, and two points lead to the directory around it. -/
def Place.next (place : Place) (part : List Char) : Place :=
  if part.isEmpty || part == ['.'] then place
  else
    match place with
    | .below names =>
      if part != ['.', '.'] then .below (names ++ [part])
      else if names.isEmpty then .around
      else .below names.dropLast
    | .around => .around

/-- The names that lead to a place below the root from it: a path without its empty parts and
single points. -/
def names (path : String) : List (List Char) :=
  (parts path).filter fun part => !part.isEmpty && part != ['.']

/-- What stands at a place, where files are held below the root. -/
def entryAt (held : List (List (List Char) × ByteArray)) : Place → FileEntry
  | .around => .directory
  | .below wanted =>
    match held.lookup wanted with
    | some bytes => .file bytes
    | none =>
      if wanted.isEmpty || held.any fun (place, _) => wanted.isPrefixOf place then .directory
      else .missing

/-- How many bytes a part of a path may take. -/
def partLimit : Nat := 255

/-- How many bytes a path may take. -/
def pathLimit : Nat := 4095

/-- What stands where parts of a path lead from a place.  Only from a directory does a part lead
on, and from one around the root no name does. -/
def follow (held : List (List (List Char) × ByteArray)) (place : Place) :
    List (List Char) → FileEntry
  | [] => entryAt held place
  | part :: rest =>
    match entryAt held place with
    | .directory =>
      if partLimit < (String.ofList part).utf8ByteSize then .overlong
      else if place == .around && !(part.isEmpty || part == ['.'] || part == ['.', '.']) then
        .missing
      else follow held (place.next part) rest
    | .file _ => .blocked
    | entry => entry

/-- What stands where a path leads from a place, if it is a path at all. -/
def lookUp (held : List (List (List Char) × ByteArray)) (place : Place) (path : String) :
    FileEntry :=
  if path.toList.contains '\x00' then .unnamable
  else if pathLimit < path.utf8ByteSize then .overlong
  else follow held place (parts path)

/-- The file system that holds files at the given paths, and the directories they stand in.  A path
leads on from the root. -/
def ofFiles (held : List (String × ByteArray)) : FileSystem where
  entry path := lookUp (held.map fun (path, bytes) => (names path, bytes)) (.below []) path

/-- What stands where a path leads from a directory around the root. -/
def around (path : String) : FileEntry :=
  if path.isEmpty then .missing else lookUp [] .around path

end FileSystem

end ApiLint
