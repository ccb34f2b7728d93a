import Linkage.Native.CommandLine

/-!
# The program

Takes the arguments, the variables, the clock and the files that a command can
touch, runs the command line on them, and puts back what has changed.
-/

namespace Linkage.Main

/-- The variables that a configuration is made from. -/
def readVariables : IO Variables := do
  let values ← Config.variableNames.mapM fun name =>
    return (name, (← IO.getEnv name).map Utf8.encode)
  return fun name => (values.lookup name).join

/-- The time at which the system drew up its record of this process. -/
def readClock : IO Instant := do
  let record ← ((← IO.currentDir) / "/proc/self").metadata
  return ⟨record.modified.sec, record.modified.nsec.toNat⟩

/-- The number of this process, which stands first in its record. -/
def readId : IO String := do
  let record ← IO.FS.readFile "/proc/self/stat"
  return String.ofList (record.toList.takeWhile (· ≠ ' '))

/-- A path and those above it, from the first to the last. -/
def withParents : (bound : Nat) → Path → List Path
  | 0, p => [p]
  | bound + 1, p =>
    match p.parent? with
    | none => [p]
    | some parent => withParents bound parent ++ [p]

/-- The paths that a session can touch when it runs a command line. -/
def touched (s : Session) (arguments : List Bytes) : List Path :=
  let config := s.currentConfig
  let helper := (config.helperPath .host).toOption.toList
  let log :=
    match config.logTarget with
    | .file p => [p]
    | _ => []
  let output :=
    match CommandLine.parse arguments with
    | .ok (.status output) | .ok (.table output) | .ok (.probe _ _ _ output) => output.toList
    | .error _ => []
  (helper ++ log ++ output).flatMap fun p => withParents p.bytes.length p

/-- Puts what stands at a path into a file system. -/
def capture (fs : FileSystem) (p : Path) : IO FileSystem := do
  if p.bytes = [] then return fs
  let place := (← IO.currentDir) / p.display
  if ← place.isDir then return (fs.makeDirectories p).1
  else if ← place.pathExists then
    return fs.provide p (← IO.FS.readBinFile place).toList
  else return fs

/-- Puts what has changed at a path back in place. -/
def store (before after : FileSystem) (p : Path) : IO Unit := do
  let place := (← IO.currentDir) / p.display
  match before.stat p, after.stat p with
  | .error _, .ok .directory => IO.FS.createDirAll place
  | old, .ok (.file content) =>
    if old.toOption ≠ some (.file content) then
      IO.FS.writeBinFile place ⟨content.toArray⟩
  | _, _ => return

/-- The session of this process, as it is before a command line runs. -/
def start (arguments : List Bytes) : IO Session := do
  let executable := Path.ofString (← IO.appPath).toString
  let s : Session :=
    { vars := ← readVariables
      executableRoot := Layout.installRoot? executable
      id := ← readId
      clock := ← readClock }
  let files ← (touched s arguments).foldlM capture FileSystem.empty
  return CommandLine.setFiles s files

/-- The code that tells others that a process was killed. -/
def killedCode : Nat := 139

end Linkage.Main

/-- Runs the command line. -/
def main (arguments : List String) : IO UInt32 := do
  let arguments := arguments.map Linkage.Utf8.encode
  let before ← Linkage.Main.start arguments
  let (after, code) := Linkage.Native.run before arguments
  for p in Linkage.Main.touched before arguments do
    Linkage.Main.store before.files after.files p
  IO.print after.log.outputs.stdout
  IO.eprint after.log.outputs.stderr
  return UInt32.ofNat (code.getD Linkage.Main.killedCode)
