import Linkage.FileSystem
import Linkage.Loader

/-!
# Linkers

Libraries come into a process by the linker of the system that it runs on. What
becomes of a file is the linker's own business, and it can be told only by asking,
so a linker here is what it answers.

The loader of a process passes paths on to the linker, and gives names to what can
go wrong there.
-/

namespace Linkage

/-- What the linker of a system answers. A refusal comes with a message, or without. -/
structure Linker where
  /-- Loads the library at a path, which holds no NUL, from the files as they are. -/
  open_ : FileSystem → Path → Except (Option Bytes) Library
  /-- The process itself, with all that it has loaded. -/
  process : Except (Option Bytes) Library

namespace Linker

/-- The reason for a refusal. A message may be no text. -/
def reason : Option Bytes → String
  | none => "unknown dlopen failure"
  | some message => Utf8.lossy message

/-- The loader of a process that sees a file system. -/
def loader (linker : Linker) (fs : FileSystem) : Loader where
  fileExists path := .ok (fs.isFile path)
  load path :=
    if 0 ∈ path.bytes then .error (.failed (.load path "path contains a NUL byte"))
    else
      match linker.open_ fs path with
      | .ok library => .ok library
      | .error message => .error (.failed (.load path (reason message)))

/-- What the process is called where a library has a path. -/
def processPath : Path := .ofString "<process>"

/-- The process as a library to resolve names in. -/
def processLibrary (linker : Linker) : Except InitError OpenLibrary :=
  match linker.process with
  | .ok library => .ok ⟨library, processPath⟩
  | .error message => .error (.load processPath (reason message))

end Linker

end Linkage
