import PlaneNet.FileSystem

set_option autoImplicit false

namespace PlaneNet

-- A working directory that has no directories in it.
structure Files where
  entries : List (String × List UInt8)
  deriving Repr

inductive FileFault where
  | notFound
  | notADirectory
  | isADirectory
  | nameTooLong
  | nulByte
  deriving Repr, DecidableEq

def FileFault.message : FileFault → String
  | .notFound => "No such file or directory (os error 2)"
  | .notADirectory => "Not a directory (os error 20)"
  | .isADirectory => "Is a directory (os error 21)"
  | .nameTooLong => "File name too long (os error 36)"
  | .nulByte => "file name contained an unexpected NUL byte"

structure Path where
  absolute : Bool
  names : List String
  /-- It ends in a slash, so that only a directory will do. -/
  toDirectory : Bool
  deriving Repr, DecidableEq

namespace Path

def longest : Nat := 4095

def longestName : Nat := 255

def pieces : List Char → List (List Char)
  | [] => [[]]
  | c :: cs =>
    match pieces cs with
    | [] => [[c]]
    | piece :: rest => if c = '/' then [] :: piece :: rest else (c :: piece) :: rest

def ofText (text : String) : Except FileFault Path :=
  let cs := text.toList
  if cs.any (·.toNat = 0) then .error .nulByte
  else if longest < text.utf8ByteSize then .error .nameTooLong
  else if cs.isEmpty then .error .notFound
  else .ok
    { absolute := cs.head? = some '/'
      names := ((pieces cs).filter (!·.isEmpty)).map String.ofList
      toDirectory := cs.getLast? = some '/' }

end Path

namespace Files

def content? (fs : Files) (name : String) : Option (List UInt8) := fs.entries.lookup name

inductive Place where
  /-- The working directory, or one above it, about which nothing is known. -/
  | directory (working : Bool)
  | file (name : String) (bytes : List UInt8)
  | vacant (working : Bool) (name : String)

def Place.enter : Place → Except FileFault Bool
  | .directory working => .ok working
  | .file _ _ => .error .notADirectory
  | .vacant _ _ => .error .notFound

def follow (fs : Files) (place : Place) (name : String) : Except FileFault Place := do
  let working ← place.enter
  if name = "." then return place
  else if name = ".." then return .directory false
  else if Path.longestName < name.utf8ByteSize then .error .nameTooLong
  else match working, fs.content? name with
    | true, some bytes => return .file name bytes
    | _, _ => return .vacant working name

def walk (fs : Files) (absolute : Bool) (names : List String) : Except FileFault Place :=
  names.foldlM (follow fs) (.directory (!absolute))

-- A directory can be opened, but reading from it fails.
def open? (fs : Files) (path : String) : Except FileFault ByteSource := do
  let path ← Path.ofText path
  match ← fs.walk path.absolute path.names with
  | .vacant _ _ => .error .notFound
  | .file _ bytes => if path.toDirectory then .error .notADirectory else return ⟨bytes, none⟩
  | .directory _ => return ⟨[], some FileFault.isADirectory.message⟩

/--
Creates or replaces a file. A slash at the end is a fault whatever the last name is. What is written
above the working directory is not kept.
-/
def write (fs : Files) (path : String) (bytes : List UInt8) : Except FileFault Files := do
  let path ← Path.ofText path
  let parent ← fs.walk path.absolute path.names.dropLast
  let _ ← parent.enter
  if path.toDirectory then .error .isADirectory else
  match ← fs.follow parent (path.names.getLast?.getD ".") with
  | .directory _ => .error .isADirectory
  | .vacant false _ => return fs
  | .vacant true name => return ⟨fs.entries ++ [(name, bytes)]⟩
  | .file name _ =>
      return ⟨fs.entries.map fun e => if e.1 = name then (name, bytes) else e⟩

end Files

instance : FileSystem Files where
  open? fs path := (fs.open? path).mapError FileFault.message
  write fs path bytes := (fs.write path bytes).mapError FileFault.message

end PlaneNet
