import MeshTrace.Command.Program
import Std.Time.DateTime

namespace MeshTrace

/-- What an error of the system means. -/
def FileError.ofSystem : IO.Error → FileError
  | .noFileOrDirectory .. => .notFound
  | _ => .refused

/-- The entry of a directory under which the system knows a path. -/
def entryAt (path : String) : IO.FS.DirEntry := ⟨path, ""⟩

/-- What comes of a step, if the system carries it out. -/
def guarded {β : Type} (step : IO β) : IO (Except FileError β) := do
  try return .ok (← step) catch e => return .error (.ofSystem e)

/-- The names of the directories in a directory. -/
def directoryNames (path : String) : IO (List String) := do
  let entries ← (entryAt path).root.readDir
  let directories ← entries.toList.filterM fun e => e.path.isDir
  return directories.map (·.fileName)

instance : FileStore IO where
  read path := guarded (IO.FS.readBinFile path)
  subdirectories path := guarded (directoryNames path)
  makeDirectory path := guarded (IO.FS.createDirAll path)
  write path text := guarded (IO.FS.writeFile path (String.ofList text))

/-- A number with a fixed count of digits. -/
def padded (width n : Nat) : String :=
  let digits := toString n
  "".pushn '0' (width - digits.length) ++ digits

/-- The present time in universal time, down to nanoseconds. -/
def currentTime : IO String := do
  let now := (← Std.Time.Timestamp.now).toNanosecondsSinceUnixEpoch.val.toNat
  let seconds := now / 1000000000
  let date := Std.Time.PlainDate.ofEpochDay ⟨(seconds / 86400 : Nat)⟩
  return padded 4 date.year.toNat ++ "-" ++ padded 2 date.month.val.toNat ++ "-" ++
    padded 2 date.day.val.toNat ++ "T" ++ padded 2 (seconds / 3600 % 24) ++ ":" ++
    padded 2 (seconds / 60 % 60) ++ ":" ++ padded 2 (seconds % 60) ++ "." ++
    padded 9 (now % 1000000000) ++ "+00:00"

end MeshTrace

/-- Carries out the command that the arguments name, with the files of the system. -/
def main (args : List String) : IO UInt32 := do
  let outcome : MeshTrace.Command.Outcome ←
    MeshTrace.Command.perform (← MeshTrace.currentTime) args
  unless outcome.complaint.isEmpty do
    IO.eprintln outcome.complaint
  IO.print (String.ofList outcome.output)
  return outcome.code
