/-
# CallTree.Command.Folder — the folder that a command works in.

A folder is a table of texts by path. A path is written without empty parts and without parts that
stay where they are (`tidy`). The folder of a file that is there, is there itself; none is ever
made.

Names are limited to 255 octets and paths to 4095. A path with a null character in it is nowhere,
and nothing can be written there.
-/
import CallTree.Table
import CallTree.Text.Quoted
import CallTree.Text.Split

namespace CallTree.Command

/-- **`Folder`** — the texts of files, by path. -/
abbrev Folder := Table String

namespace Folder

/-- Why a file cannot be read or written. -/
inductive Fault where
  /-- The path is that of a folder. -/
  | folder (path : String)
  /-- The folder of the file is not there. -/
  | absent (path : String)
  /-- Something that should be the folder of the file is a file. -/
  | noFolder (path : String)
  /-- The path, or a name in it, is too long. -/
  | tooLong (path : String)
  /-- A null character is in the path. -/
  | nullInside
  deriving DecidableEq, Repr

/-- The sentence of a fault. -/
def Fault.message : Fault → String
  | .folder path => "[Errno 21] Is a directory: " ++ Text.Quoted.text path
  | .absent path => "[Errno 2] No such file or directory: " ++ Text.Quoted.text path
  | .noFolder path => "[Errno 20] Not a directory: " ++ Text.Quoted.text path
  | .tooLong path => "[Errno 36] File name too long: " ++ Text.Quoted.text path
  | .nullInside => "embedded null byte"

/-- The parts of a path that lead somewhere. -/
def parts (path : String) : List (List Char) :=
  (Text.split '/' path.toList).filter fun part => !part.isEmpty && part != ['.']

/-- The slashes that a path from the top starts with: one, or just two. -/
def top : List Char → List Char
  | '/' :: '/' :: '/' :: _ => ['/']
  | '/' :: '/' :: _ => ['/', '/']
  | '/' :: _ => ['/']
  | _ => []

/-- The path of parts below the top of a path. -/
def below (path : String) (parts : List (List Char)) : String :=
  match top path.toList ++ Text.join '/' parts with
  | [] => "."
  | cs => String.ofList cs

/-- **A path in its plainest form**; the folder itself is a dot. -/
def tidy (path : String) : String := below path (parts path)

/-- The paths of the folders that a file lies in, the nearest first. -/
def above (path : String) : List (List Char) → List String
  | [] => []
  | parts@(_ :: _) => below path parts.dropLast :: above path parts.dropLast
  termination_by parts => parts.length

/-- Whether a tidy path is that of a folder: the folder itself, the one around it, the top, or one
that some file lies in. -/
def isFolder (f : Folder) (path : String) : Bool :=
  [".", "..", "/", "//"].contains path ||
    f.keys.any fun file => (path.toList ++ ['/']).isPrefixOf (tidy file).toList

/-- The text under a tidy path. -/
def text? (f : Folder) (path : String) : Option String :=
  (f.find? fun file => tidy file.1 = path).map Prod.snd

/-- Whether a path holds a null character. -/
def hasNull (path : String) : Bool := path.toList.contains '\x00'

/-- The length of the longest names, in octets. -/
def nameLimit : Nat := 255

/-- The length of the longest paths, in octets. -/
def pathLimit : Nat := 4095

/-- Whether any of the names on a path is too long, given the parts before it backwards; only a
folder that is there is asked for a name. -/
def namesExceed (f : Folder) (path : String) (before : List (List Char)) :
    List (List Char) → Bool
  | [] => false
  | name :: rest =>
    f.isFolder (below path before.reverse) &&
      (nameLimit < (String.ofList name).utf8ByteSize || namesExceed f path (name :: before) rest)

/-- Whether a path is too long, as a whole or in one of its names. -/
def exceeds (f : Folder) (path : String) : Bool :=
  pathLimit < path.utf8ByteSize || f.namesExceed path [] (parts path)

/-- Whether there is anything under a tidy path. -/
def holds (f : Folder) (path : String) : Except Fault Bool :=
  if hasNull path then .ok false
  else if f.exceeds path then .error (.tooLong path)
  else .ok (f.isFolder path || (f.text? path).isSome)

/-- Read a file, if it is there. -/
def read (f : Folder) (path : String) : Except Fault (Option String) :=
  if hasNull path then .ok none
  else if f.exceeds path then .error (.tooLong path)
  else if f.isFolder path then .error (.folder path)
  else .ok (f.text? path)

/-- **Write a file.** -/
def write (f : Folder) (path text : String) : Except Fault Folder :=
  let around := above path (parts path)
  if hasNull path then .error .nullInside
  else if f.exceeds path then .error (.tooLong path)
  else if f.isFolder path then .error (.folder path)
  else if (around.head?.map f.isFolder).getD false then
    .ok (f.set ((f.keys.find? fun file => tidy file = path).getD path) text)
  else if around.any fun folder => (f.text? folder).isSome then .error (.noFolder path)
  else .error (.absent path)

end Folder

end CallTree.Command
