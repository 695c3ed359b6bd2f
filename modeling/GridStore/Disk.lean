import GridStore.Store.Startup
import GridStore.Text.Hex

/-!
# The disk

Directories and files, and the texts and databases that the files hold. A place is the list of
names that leads to it from the root. A path is read name by name from the root or the working
directory; every name on the way has to be a directory, two points lead back and one stays.
-/

namespace GridStore

/-- The names that lead to a directory or a file from the root. -/
abbrev Place := List String

/-- What a file holds. -/
inductive FileContent where
  | text (s : String)
  | database (b : Backend)
deriving Inhabited

/-- What a disk holds. The root is a directory always. -/
structure Disk where
  workingDirectory : Place
  directories : List Place
  files : List (Place × FileContent)
deriving Inhabited

/-- The names in a path, empty ones included. -/
def pathNames (path : String) : List String :=
  let (first, others) := path.toList.foldr (fun c (name, others) =>
    if c = '/' then ([], String.ofList name :: others) else (c :: name, others))
    (([] : List Char), ([] : List String))
  String.ofList first :: others

/-- A path that goes on from another. -/
def joinPath (path name : String) : String :=
  if path.toList.getLast? = some '/' then path ++ name else path ++ "/" ++ name

namespace Disk

/-- Whether a place is a directory. -/
def isDirectory (d : Disk) (place : Place) : Bool :=
  place.isEmpty || d.directories.contains place

/-- What the file at a place holds, if there is one. -/
def file? (d : Disk) (place : Place) : Option FileContent :=
  d.files.lookup place

/-- How many bytes a name on the disk has, at most. -/
def longestName : Nat := 255

/-- How many bytes a path has, at most. -/
def longestPath : Nat := 4095

/-- Whether a path can be looked up. -/
def canLookUp (path : String) : Bool :=
  !path.toList.contains '\x00' && path.utf8ByteSize ≤ longestPath &&
    (pathNames path).all fun name => name.utf8ByteSize ≤ longestName

/-- Where paths are read from. -/
def origin (d : Disk) (path : String) : Place :=
  if path.toList.head? = some '/' then [] else d.workingDirectory

/-- The place that a name leads to from a directory. -/
def enter (place : Place) (name : String) : Place :=
  if name = "" ∨ name = "." then place
  else if name = ".." then place.dropLast
  else place ++ [name]

/-- The place that names lead to, each but the last through a directory. -/
def follow? (d : Disk) : Place → List String → Option Place
  | place, [] => some place
  | place, [name] => some (enter place name)
  | place, name :: names =>
    if d.isDirectory (enter place name) then d.follow? (enter place name) names else none

/-- The place that a path leads to, where there may be nothing. -/
def locate? (d : Disk) (path : String) : Option Place :=
  if canLookUp path && path ≠ "" then d.follow? (d.origin path) (pathNames path) else none

/-- Whether a path ends with a name that a file can have. -/
def endsInName (path : String) : Bool :=
  (pathNames path).getLast?.any fun name => name ≠ "" && name ≠ "." && name ≠ ".."

/-- The place of the file that a path names, where there may be nothing but no directory. -/
def filePlace? (d : Disk) (path : String) : Option Place :=
  (d.locate? path).filter fun place => endsInName path && !d.isDirectory place

/-- Whether a path leads to a directory or a file. -/
def pathExists (d : Disk) (path : String) : Bool :=
  (d.locate? path).any fun place =>
    d.isDirectory place || (endsInName path && (d.file? place).isSome)

/-- The text of the file that a path names. -/
def readText? (d : Disk) (path : String) : Option String := do
  match d.file? (← d.filePlace? path) with
  | some (.text s) => some s
  | _ => none

/-- Puts a file in place of what was at a place. -/
def put (d : Disk) (place : Place) (content : FileContent) : Disk :=
  { d with files := (place, content) :: d.files.filter (·.1 ≠ place) }

/-- Writes a text to the file that a path names. -/
def writeText? (d : Disk) (path text : String) : Option Disk :=
  (d.filePlace? path).map fun place => d.put place (.text text)

/-- Makes the directories that names lead through. -/
def makeDirectories? (d : Disk) : Place → List String → Option Disk
  | _, [] => some d
  | place, name :: names =>
    let next := enter place name
    if d.isDirectory next then d.makeDirectories? next names
    else if (d.file? next).isSome then none
    else makeDirectories? { d with directories := next :: d.directories } next names

/-- Makes the directory that the last name of a path is in. -/
def makeParent? (d : Disk) (path : String) : Option Disk :=
  if canLookUp path then
    d.makeDirectories? (d.origin path)
      ((pathNames path).filter fun name => name ≠ "" && name ≠ ".").dropLast
  else none

end Disk

/-- The bytes that escapes stand for, each a percent sign and two hexadecimal digits, and the other
bytes as they are. -/
def unescapeBytes : List UInt8 → List UInt8
  | 0x25 :: a :: b :: rest =>
    match hexValue? [Char.ofNat a.toNat, Char.ofNat b.toNat] with
    | some n => .ofNat n :: unescapeBytes rest
    | none => 0x25 :: unescapeBytes (a :: b :: rest)
  | c :: rest => c :: unescapeBytes rest
  | [] => []

/-- The path of the file that a database path names. It may hold escapes, and it holds no question
mark, which would end it. -/
def databaseFile? (path : String) : Option String :=
  if path.toList.contains '?' then none
  else String.fromUTF8? (unescapeBytes path.toUTF8.toList).toByteArray

namespace Disk

/-- The database that a path names, if it can be opened. A file that is not there, or that is
empty, becomes an empty one. -/
def database? (d : Disk) (path : String) : Option Backend :=
  if path = memoryPath then some .empty
  else do
    let place ← d.filePlace? (← databaseFile? path)
    match d.file? place with
    | some (.database b) => some b
    | some (.text s) => if s = "" then some .empty else none
    | none => some .empty

/-- Keeps a database where it was opened. -/
def keepDatabase (d : Disk) (path : String) (b : Backend) : Disk :=
  if path = memoryPath then d
  else
    match databaseFile? path >>= d.filePlace? with
    | some place => d.put place (.database b)
    | none => d

end Disk

end GridStore
