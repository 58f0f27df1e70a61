import PassChain.Path
import PassChain.Scale

/-!
Files as the chain sees them: paths that can be read as text or as an image. A file tree is such
a view of files that are given outright.
-/

namespace PassChain

/-- Why a file cannot be read as text. -/
inductive ReadFault where
  | notFound
  | notDirectory
  | directory
  | nameTooLong
  | nulByte
  | notText
  /-- another failure, in the words of the system -/
  | other (message : String)
deriving DecidableEq, Repr

def ReadFault.message : ReadFault → String
  | notFound => "No such file or directory (os error 2)"
  | notDirectory => "Not a directory (os error 20)"
  | directory => "Is a directory (os error 21)"
  | nameTooLong => "File name too long (os error 36)"
  | nulByte => "file name contained an unexpected NUL byte"
  | notText => "stream did not contain valid UTF-8"
  | other message => message

/-- A decoded image: four bytes a pixel, rows packed tightly. -/
structure Image where
  size : Size
  rgba : List UInt8
deriving DecidableEq, Repr

structure FileSystem where
  readText : Path → Except ReadFault String
  /-- the image in a file, `none` if there is no such file or no image in it -/
  readImage : Path → Option Image

inductive FileContent where
  | text (text : String)
  | bytes (bytes : List UInt8)
  /-- an image, of which only the size is known -/
  | image (size : Size)
deriving DecidableEq, Repr

namespace FileContent

def asText : FileContent → Except ReadFault String
  | text t => .ok t
  | bytes b => match String.fromUTF8? ⟨b.toArray⟩ with
    | some t => .ok t
    | none => .error .notText
  | image _ => .error .notText

def asImage? : FileContent → Option Image
  | image size => some ⟨size, List.replicate (4 * size.width.toNat * size.height.toNat) 0⟩
  | _ => none

end FileContent

/-- Splits a text at every `/`. -/
def splitNames : List Char → List (List Char)
  | [] => [[]]
  | '/' :: rest => [] :: splitNames rest
  | c :: rest => match splitNames rest with
    | name :: names => (c :: name) :: names
    | [] => [[c]]

def Path.names (p : Path) : List String := (splitNames p.text.toList).map String.ofList

/-- The ending of a path's last name, after its last dot. A name has no ending if its only dot
is its first character. -/
def Path.extension? (p : Path) : Option String :=
  let name := (p.names.filter fun n => n != "" && n != ".").getLast?.getD ""
  let reversed := name.toList.reverse
  let ending := reversed.takeWhile (· != '.')
  if name = ".." || ending.length + 1 ≥ reversed.length then none
  else some (.ofList ending.reverse)

/-- The files below the current directory, each by its names. -/
structure FileTree where
  entries : List (List String × FileContent)

/-- A place in the file system. -/
inductive Place where
  | file (content : FileContent)
  /-- a directory of the tree -/
  | inside (names : List String)
  /-- a directory that holds the tree, in which nothing else is known -/
  | outside
deriving DecidableEq, Repr

namespace FileTree

/-- Adds a file, in place of an earlier one of the same path. -/
def add (t : FileTree) (path : Path) (content : FileContent) : FileTree :=
  let names := path.names.filter fun n => n != "" && n != "."
  ⟨(names, content) :: t.entries.filter (·.1 != names)⟩

/-- Follows the names of a path from a place. -/
def walk (t : FileTree) : Place → List String → Except ReadFault Place
  | place, [] => .ok place
  | .file _, _ :: _ => .error .notDirectory
  | .outside, name :: rest =>
    if name = "" ∨ name = "." ∨ name = ".." then t.walk .outside rest
    else if 255 < name.utf8ByteSize then .error .nameTooLong
    else .error .notFound
  | .inside names, name :: rest =>
    if name = "" ∨ name = "." then t.walk (.inside names) rest
    else if name = ".." then t.walk (if names = [] then .outside else .inside names.dropLast) rest
    else if 255 < name.utf8ByteSize then .error .nameTooLong
    else
      let there := names ++ [name]
      match t.entries.lookup there with
      | some content => t.walk (.file content) rest
      | none =>
        if t.entries.any (fun entry => there.isPrefixOf entry.1) then t.walk (.inside there) rest
        else .error .notFound

def read (t : FileTree) (p : Path) : Except ReadFault FileContent :=
  if p.text = "" then .error .notFound
  else if p.text.toList.contains '\x00' then .error .nulByte
  else if 4096 ≤ p.text.utf8ByteSize then .error .nameTooLong
  else match t.walk (if p.isAbsolute then .outside else .inside []) p.names with
    | .ok (.file content) => .ok content
    | .ok _ => .error .directory
    | .error e => .error e

/-- The tree as the chain sees it. Images are decoded by the ending of their name. -/
def fileSystem (t : FileTree) : FileSystem where
  readText p := do (← t.read p).asText
  readImage p := match t.read p, p.extension?.map String.toLower with
    | .ok content, some "png" | .ok content, some "apng" => content.asImage?
    | _, _ => none

end FileTree

end PassChain
