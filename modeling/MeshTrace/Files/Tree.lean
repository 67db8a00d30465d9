import MeshTrace.Files.Store
import MeshTrace.Text.Blank

namespace MeshTrace

/-- The names on the way from the root to a file or directory. -/
abbrev Location := List String

/-- Files and directories held in memory. -/
structure FileTree where
  directories : List Location
  files : List (Location × ByteArray)

namespace FileTree

/-- No files. -/
def empty : FileTree := ⟨[], []⟩

def hasDirectory (t : FileTree) (l : Location) : Bool := l.isEmpty || t.directories.contains l

def file? (t : FileTree) (l : Location) : Option ByteArray := t.files.lookup l

/-- Adds a directory, and those that it is in. -/
def addDirectory (t : FileTree) (l : Location) : FileTree :=
  let missing := ((List.range l.length).map fun n => l.take (n + 1)).filter (!t.hasDirectory ·)
  { t with directories := t.directories ++ missing }

/-- Adds a file, and the directories that it is in, or replaces it. -/
def addFile (t : FileTree) (l : Location) (content : ByteArray) : FileTree :=
  let t := t.addDirectory l.dropLast
  { t with files := t.files.filter (·.1 != l) ++ [(l, content)] }

/-- The steps of a path. An empty step or a point stays in place. -/
def steps (path : String) : List String :=
  ((Text.splitAt (· == '/') path.toList).map String.ofList).filter
    fun step => step != "" && step != "."

/-- Where a path leads, the last step aside: every directory on the way must be there. -/
def walk? (t : FileTree) : Location → List String → Option Location
  | l, [] => some l
  | l, step :: rest =>
    if !t.hasDirectory l then none
    else if step = ".." then walk? t l.dropLast rest
    else walk? t (l ++ [step]) rest

/-- Where a path leads. The paths in use start where the tree does. -/
def locate? (t : FileTree) (path : String) : Option Location :=
  if path.isEmpty || path.startsWith "/" then none
  else (t.walk? [] (steps path)).filter fun l => !path.endsWith "/" || t.hasDirectory l

def read (t : FileTree) (path : String) : Except FileError ByteArray :=
  match t.locate? path with
  | none => .error .notFound
  | some l =>
    match t.file? l with
    | some content => .ok content
    | none => .error (if t.hasDirectory l then .refused else .notFound)

/-- The names of the directories in a directory, in the order in which they were added. -/
def subdirectories (t : FileTree) (path : String) : Except FileError (List String) :=
  match (t.locate? path).filter t.hasDirectory with
  | none => .error .notFound
  | some l => .ok ((t.directories.filter fun d => d.length = l.length + 1 && d.take l.length = l).map
      fun d => d.getLastD "")

/-- Makes the directories on a path where they are missing. -/
def makeSteps? (t : FileTree) (l : Location) : List String → Option FileTree
  | [] => some t
  | step :: rest =>
    if step = ".." then makeSteps? t l.dropLast rest
    else
      let l := l ++ [step]
      if (t.file? l).isSome then none else makeSteps? (t.addDirectory l) l rest

def makeDirectory (t : FileTree) (path : String) : Except FileError FileTree :=
  if path.startsWith "/" then .error .refused
  else
    match t.makeSteps? [] (steps path) with
    | some t => .ok t
    | none => .error .refused

def write (t : FileTree) (path : String) (text : List Char) : Except FileError FileTree :=
  match t.locate? path with
  | none => .error .notFound
  | some l =>
    if t.hasDirectory l || !t.hasDirectory l.dropLast then .error .refused
    else .ok (t.addFile l (String.ofList text).toUTF8)

/-- Keeps the tree that an operation made, if it made one. -/
def store (f : FileTree → Except FileError FileTree) : StateM FileTree (Except FileError Unit) :=
  fun t =>
    match f t with
    | .ok t => (.ok (), t)
    | .error e => (.error e, t)

instance : FileStore (StateM FileTree) where
  read path := fun t => (t.read path, t)
  subdirectories path := fun t => (t.subdirectories path, t)
  makeDirectory path := store (·.makeDirectory path)
  write path text := store (·.write path text)

end FileTree

end MeshTrace
