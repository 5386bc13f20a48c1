import RuleFixtures.Fault
import RuleFixtures.OrderedMap
import RuleFixtures.Text.Split

/-!
The files of a working directory.

A path is a list of names; single points and empty names in its text do not count. A directory is
there when it was made or a file lies below it.

* `Files.bytes` gives the content of a file, and `Files.read` its text, with any of the line breaks
  in use as a line feed; `ReadFault` tells that a content is no text.
* `Files.writeBytes` and `Files.write` write a content, `Files.makeDirectories` a directory with
  those above it, and `Files.erase` removes a file. What cannot be done is told by a `FileFault`.
-/

namespace RuleFixtures

/-- A path from the working directory, or from the root when its first name is a slash. -/
abbrev FilePath := List String

namespace FilePath

/-- The path of a text. -/
def ofString (text : String) : FilePath :=
  let parts := (Text.splitAtChar '/' text.toList).map String.ofList
  let names := parts.filter fun name => name ≠ "" && name ≠ "."
  if text.toList.head? = some '/' then "/" :: names else names

/-- The text of a path. -/
def toString (path : FilePath) : String :=
  match path with
  | [] => "."
  | "/" :: names => "/" ++ String.intercalate "/" names
  | names => String.intercalate "/" names

/-- The directory of a path. -/
def parent (path : FilePath) : FilePath := if path = ["/"] then path else path.dropLast

end FilePath

/-- The files and the directories that were made. -/
structure Files where
  contents : OrderedMap FilePath (List UInt8)
  directories : List FilePath

namespace Files

/-- The working directory without files. -/
def empty : Files := ⟨.empty, []⟩

/-- Is there a directory at a location? -/
def isDirectory (files : Files) (location : FilePath) : Bool :=
  location = [] || location = ["/"] || files.directories.contains location
    || files.contents.keys.any fun path =>
      location.isPrefixOf path && decide (location.length < path.length)

/-- Is there a file at a location? -/
def isFile (files : Files) (location : FilePath) : Bool := files.contents.contains location

/-- The most bytes that a name has. -/
def maxNameBytes : Nat := 255

/-- Follows the names of a path from a directory; two points lead to the directory above. All
names but the last must be those of directories. -/
def follow (files : Files) (path location : FilePath) : List String → Except FileFault FilePath
  | [] => .ok location
  | name :: rest =>
    if files.isFile location then .error ⟨.notDirectory, some path.toString⟩
    else if !files.isDirectory location then .error ⟨.notFound, some path.toString⟩
    else if maxNameBytes < name.utf8ByteSize then .error ⟨.nameTooLong, some path.toString⟩
    else follow files path (if name = ".." then location.parent else location ++ [name]) rest

/-- The location of a path. -/
def locate (files : Files) (path : FilePath) : Except FileFault FilePath :=
  files.follow path [] path

/-- Reads carriage returns as line breaks. -/
def unifyBreaks : List Char → List Char
  | [] => []
  | '\r' :: '\n' :: rest => '\n' :: unifyBreaks rest
  | c :: rest => (if c = '\r' then '\n' else c) :: unifyBreaks rest

/-- The content of a file. -/
def bytes (files : Files) (text : String) : Except FileFault (List UInt8) := do
  let path := FilePath.ofString text
  let location ← files.locate path
  match files.contents.get? location with
  | some content => return content
  | none =>
    if files.isDirectory location then throw ⟨.isDirectory, some path.toString⟩
    else throw ⟨.notFound, some path.toString⟩

/-- Reads the text of a file. -/
def read (files : Files) (text : String) : Except ReadFault String := do
  let content ← (files.bytes text).mapError .file
  let decoded ← (Text.Utf8.decode content).mapError .broken
  return String.ofList (unifyBreaks decoded)

/-- Writes bytes to a file, which replace its content. -/
def writeBytes (files : Files) (text : String) (content : List UInt8) :
    Except FileFault Files := do
  let path := FilePath.ofString text
  let location ← files.locate path
  if files.isDirectory location then throw ⟨.isDirectory, some path.toString⟩
  return { files with contents := files.contents.insert location content }

/-- Writes a text to a file. -/
def write (files : Files) (text content : String) : Except FileFault Files :=
  files.writeBytes text (Text.Utf8.encode content.toList)

/-- Makes a directory in one that is there; a directory that is there already is left. -/
def makeDirectory (files : Files) (path : FilePath) : Except FileFault Files := do
  let location ← files.locate path
  if files.isDirectory location then return files
  if files.isFile location then throw ⟨.exists, some path.toString⟩
  return { files with directories := files.directories ++ [location] }

/-- Makes directories in turn. -/
def makeInTurn (files : Files) : List FilePath → Except FileFault Files
  | [] => .ok files
  | path :: rest => do makeInTurn (← files.makeDirectory path) rest

/-- The paths on the way to a path, ending with it. -/
def steps (path : FilePath) : List FilePath :=
  (List.range path.length).map fun n => path.take (n + 1)

/-- Removes the file that a path leads to, if there is one. The directories above it stay. -/
def erase (files : Files) (text : String) : Files :=
  match files.locate (FilePath.ofString text) with
  | .ok location =>
    if files.isFile location then
      ⟨files.contents.erase location, files.directories ++ steps location.parent⟩
    else files
  | .error _ => files

/-- Makes a directory with those above it. What stands in the way is told for the first path at
which it does when one starts from the end. -/
def makeDirectories (files : Files) (path : FilePath) : Except FileFault Files :=
  match files.makeDirectory path with
  | .ok made => .ok made
  | .error ⟨.notFound, _⟩ => files.makeInTurn (steps path)
  | .error fault => .error fault

end Files

end RuleFixtures
