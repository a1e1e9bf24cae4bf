import NewsReader.Text.Utf8

/-!
# Files

What stands at a path: nothing, a file with its bytes, or a directory. A file is read as text only
if its bytes are UTF-8. Where a file stands in the place of the directory that the path goes
through, nothing is there and nothing can be written.
-/

namespace NewsReader.Files

/-- A reason why a file operation fails. -/
inductive Fault where
  /-- A directory stands where a file is wanted. -/
  | isDirectory
  /-- A file stands where a directory is wanted. -/
  | exists
  /-- The bytes are not UTF-8. -/
  | notText
  deriving DecidableEq

/-- The text of a fault, with its number where the system gives one. -/
def Fault.message : Fault → String
  | isDirectory => "Is a directory (os error 21)"
  | .exists => "File exists (os error 17)"
  | notText => "stream did not contain valid UTF-8"

/-- What stands at a path. -/
inductive Node where
  /-- Nothing. The directories on the path can be made. -/
  | absent
  /-- A file. -/
  | file (bytes : List UInt8)
  /-- A directory. -/
  | directory
  /-- Nothing, and a file is in the way. -/
  | blocked
  deriving DecidableEq

namespace Node

/-- A file with this text. -/
def ofText (s : String) : Node :=
  file (Text.encode s.toList)

/-- The text of the file, or nothing if nothing is there. -/
def readText : Node → Except Fault (Option String)
  | absent | blocked => .ok none
  | directory => .error .isDirectory
  | file bytes =>
    match Text.decode? bytes with
    | some cs => .ok (some (String.ofList cs))
    | none => .error .notText

/-- Write a file, unless something is in the way. -/
def write (s : String) : Node → Except Fault Node
  | directory => .error .isDirectory
  | blocked => .error .exists
  | _ => .ok (ofText s)

/-- Remove a file, if there is one. -/
def remove : Node → Except Fault Node
  | directory => .error .isDirectory
  | blocked => .ok blocked
  | _ => .ok absent

end Node

end NewsReader.Files
