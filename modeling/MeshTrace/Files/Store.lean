namespace MeshTrace

/-- Why a file or directory cannot be used. -/
inductive FileError
  | notFound
  /-- The content is no text. -/
  | notText
  /-- It is something else than it should be, or out of reach. -/
  | refused
  deriving DecidableEq, Repr

/-- A place where files are kept under paths. -/
class FileStore (m : Type → Type) where
  read : String → m (Except FileError ByteArray)
  /-- The names of the directories in a directory. -/
  subdirectories : String → m (Except FileError (List String))
  /-- Makes a directory and those that it is in, where they are missing. -/
  makeDirectory : String → m (Except FileError Unit)
  write : String → List Char → m (Except FileError Unit)

namespace FileStore

/-- The path of a name in a directory. A name that is a path from the root stays as it is. -/
def join (directory name : String) : String :=
  if name.startsWith "/" || directory.isEmpty then name
  else if directory.endsWith "/" then directory ++ name
  else directory ++ "/" ++ name

/-- The text of a content. -/
def decode (content : Except FileError ByteArray) : Except FileError (List Char) :=
  match content with
  | .error e => .error e
  | .ok bytes =>
    match String.fromUTF8? bytes with
    | none => .error .notText
    | some text => .ok text.toList

/-- Reads a file as text. -/
def readText {m : Type → Type} [Monad m] [FileStore m] (path : String) :
    m (Except FileError (List Char)) := do
  return decode (← read path)

end FileStore

end MeshTrace
