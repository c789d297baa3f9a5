/-!
# Directories

A path is followed part by part through the folders of a directory. It leads to a file, or the
first part that leads nowhere tells why there is none.
-/

namespace Likeness

/-- Why a file cannot be read. -/
inductive FileFault where
  | notFound
  | notADirectory
  | isADirectory
  | nameTooLong
  | nullCharacter
  | notText
deriving DecidableEq, Repr

/-- What is wrong, in words. -/
def FileFault.message : FileFault → String
  | .notFound => "No such file or directory (os error 2)"
  | .notADirectory => "Not a directory (os error 20)"
  | .isADirectory => "Is a directory (os error 21)"
  | .nameTooLong => "File name too long (os error 36)"
  | .nullCharacter => "file name contained an unexpected NUL byte"
  | .notText => "stream did not contain valid UTF-8"

/-- A place to read files from, by path. -/
abbrev Directory := String → Except FileFault ByteArray

namespace Directory

/-- The length in bytes that a path stays below. -/
def pathLimit : Nat := 4096

/-- The length in bytes that a name does not exceed. -/
def nameLimit : Nat := 255

/-- The parts of a path between its slashes. -/
def parts (path : String) : List String := path.splitOn "/"

/-- A part of a path that stays where it is. -/
def staysAt (part : String) : Bool := part = "" || part = "."

/-- Where the parts of a path have led. -/
inductive Place where
  /-- A folder of the directory, by the names on the way to it. -/
  | folder (names : List String)
  /-- A folder around the directory, of which nothing but its own outer folder is known. -/
  | around
  | file (contents : ByteArray)

/-- What the names on the way from the directory lead to. -/
def find (files : List (String × ByteArray)) (names : List String) : Except FileFault Place :=
  match files.find? fun file => parts file.1 = names with
  | some file => .ok (.file file.2)
  | none =>
    if files.any fun file => names.isPrefixOf (parts file.1) then .ok (.folder names)
    else .error .notFound

/-- Follow one more part of a path. -/
def follow (files : List (String × ByteArray)) (place : Place) (part : String) :
    Except FileFault Place :=
  match place with
  | .file _ => .error .notADirectory
  | .folder names =>
    if staysAt part then .ok place
    else if part = ".." then .ok (if names.isEmpty then .around else .folder names.dropLast)
    else if nameLimit < part.utf8ByteSize then .error .nameTooLong
    else find files (names ++ [part])
  | .around =>
    if staysAt part || part = ".." then .ok place
    else if nameLimit < part.utf8ByteSize then .error .nameTooLong
    else .error .notFound

theorem follow_file (files : List (String × ByteArray)) (contents : ByteArray) (part : String) :
    follow files (.file contents) part = .error .notADirectory := rfl

/-- A directory that holds some files and nothing else. -/
def ofFiles (files : List (String × ByteArray)) : Directory := fun path =>
  if path.toList.contains '\x00' then .error .nullCharacter
  else if path.isEmpty then .error .notFound
  else if pathLimit ≤ path.utf8ByteSize then .error .nameTooLong
  else
    let start := if path.startsWith "/" then .around else .folder []
    match (parts path).foldlM (follow files) start with
    | .error fault => .error fault
    | .ok (.file contents) => .ok contents
    | .ok (.folder _) | .ok .around => .error .isADirectory

/-- A directory whose paths start at the directory itself, so that the empty path leads to it. -/
def rooted (directory : Directory) : Directory := fun path =>
  directory (if path.isEmpty then "." else path)

/-- The text of a file. -/
def readText (directory : Directory) (path : String) : Except FileFault String :=
  match directory path with
  | .error fault => .error fault
  | .ok contents =>
    match String.fromUTF8? contents with
    | some text => .ok text
    | none => .error .notText

/-- The path of a file with an ending put on its last name. There is none where the path ends in no
name. -/
def withEnding (ending path : String) : Option String :=
  match (parts path).reverse.dropWhile staysAt with
  | [] => none
  | name :: outer =>
    if name = ".." then none
    else some (String.intercalate "/" ((name ++ ending) :: outer).reverse)

end Directory

end Likeness
