import Linkage.Linker
import Linkage.Native.Family
import Linkage.Native.Image.Relocation
import Linkage.Native.Image.Versions
import Linkage.Native.Lifetime

/-!
# The linker of a Linux system

A library is loaded with its family. The versions that the members need of each other
are checked, their relocations are done, and their routines run. Then the library can
be asked for what it exports.

All this can be the end of the process, and so can be the end itself, because then
routines of the library run once more.
-/

namespace Linkage.Native

/-! ## Loading -/

/-- The levels of the processor that the system has, a bit for each. -/
def systemLevels : Word := 0xF

/-- A member that needs a processor of a higher level is refused. -/
def checkLevel (n : Nat) : Run Unit := do
  let m ← Run.member n
  if m.image?.any fun i => i.levels &&& ~~~systemLevels ≠ 0 then
    refuseAt m.path "CPU ISA level is lower than required"

/-- The members that are searched for what a member speaks of. -/
def scopeOf (n : Nat) (i : Image) (family : List Nat) : List Nat :=
  let scope := Process.firstScope ++ family
  if i.isSelfish then n :: scope else scope

/-- Does the relocations of the member at a position, unless they are done. -/
def relocateMember (family : List Nat) (n : Nat) : Run Unit := do
  let m ← Run.member n
  if m.isRelocated then return
  if let some i := m.image? then
    ({ member := n, path := m.path, image := i, scope := scopeOf n i family } : Site).complete

/-- Loads the library of a path with its family, which is the result. -/
def loadFamily (fs : FileSystem) (path : Path) : Run (List Nat) := do
  let root ← Run.obtain fs none path.bytes
  if !(← Run.member root).needs.isEmpty then return root :: (← Run.member root).needs
  let family ← Run.gather fs root Run.gatherBound [(root, false)]
  family.forM Image.checkVersions
  let order ← Run.sortedFamily root family
  order.reverse.forM checkLevel
  order.reverse.forM (relocateMember family)
  family.forM Threads.fillFixed
  Run.modifyMember root fun m => { m with needs := order.filter (· ≠ root) }
  Run.beginFamily root order
  return family

/-! ## Asking -/

/-- The address of what a definition stands for in a thread. -/
def threadAddress (n : Nat) (s : FileSymbol) : Run Word := do
  match (← Run.member n).body with
  | .system _ => return Threads.base n + s.value
  | .file i =>
    Threads.obtain i
    return if i.threads?.isSome then Threads.base n + s.value else s.value + 1

/-- The address that some members give for a name. -/
def ask (members : List Nat) (name : Bytes) : Run (Option Symbol) := do
  match ← ({ name, isCurrent := true } : Request).search members with
  | none => return none
  | some (.symbol n s) =>
    if s.kind = FileSymbol.perThread then return Symbol.ofWord? (← threadAddress n s)
    else return Symbol.ofWord? (← (Definition.symbol n s).address)
  | some d => return Symbol.ofWord? (← d.address)

/-! ## Ends -/

/-- Ends a process: the routines for the end run. The order has to hold all members. -/
def endProcess : Run Unit := do
  let p ← get
  if p.order.length ≠ p.members.size then
    inconsistency "dl-fini.c: 91: _dl_fini" "ns != LM_ID_BASE || i == nloaded"
  (← Run.sorted p.order).forM Run.endMember

/-- How a process with a problem ends. -/
def endingOf (p : Process) : Problem → Option Ending
  | .refused _ => none
  | .fatal ending => some ending
  | .leaving code =>
    match (endProcess.run p).1 with
    | .error (.fatal ending) => some ending
    | .error (.leaving other) => some (.exited other)
    | _ => some (.exited code)

/-- What came of some work in a process: its result and the process, or how that ends. -/
def outcome {α : Type} (work : Run α) (p : Process) :
    Except (Problem × Option Ending) (α × Process) :=
  match work.run p with
  | (.ok a, p) => .ok (a, p)
  | (.error problem, p) => .error (problem, endingOf p problem)

/-! ## Libraries -/

/-- A library that was loaded: its family, and the process after that. -/
structure Loaded where
  family : List Nat
  process : Process

/-- Loads a library into a process with some arguments. -/
def Loaded.ofPath (fs : FileSystem) (argumentCount : Nat) (path : Path) :
    Except (Problem × Option Ending) Loaded := do
  let (family, process) ← outcome (loadFamily fs path) (.start argumentCount)
  return { family, process }

/-- A library that was loaded, as one that can be asked. -/
def Loaded.toLibrary (l : Loaded) : Library where
  export? key := ((ask l.family key.dropLast).run l.process).1.toOption.join
  memory _ := 0

/-- The linker of the system. A process that does not live through loading gets no message. -/
def linker : Linker where
  open_ fs path :=
    match Loaded.ofPath fs 1 path with
    | .ok l => .ok l.toLibrary
    | .error (.refused reason, _) => .error (some (Utf8.encode reason))
    | .error _ => .error none
  process := .ok (Loaded.toLibrary ⟨Process.firstScope, .start 1⟩)

/-! ## Untimely ends -/

/-- How a process ends when it loads a library, if it does not live through that. -/
def loadEnding? (fs : FileSystem) (argumentCount : Nat) (path : Path) : Option Ending :=
  match Loaded.ofPath fs argumentCount path with
  | .ok _ => none
  | .error (_, ending?) => ending?

/-- How a process ends when it asks a library for names, if it does not live through that. -/
def askEnding? (fs : FileSystem) (argumentCount : Nat) (path : Path) (names : List Bytes) :
    Option Ending := do
  let l ← (Loaded.ofPath fs argumentCount path).toOption
  match outcome (names.forM fun name => do let _ ← ask l.family name) l.process with
  | .ok _ => none
  | .error (_, ending?) => ending?

/-- How a process that has loaded a library ends otherwise than it should. -/
def exitEnding? (fs : FileSystem) (argumentCount : Nat) (path : Path) : Option Ending := do
  let l ← (Loaded.ofPath fs argumentCount path).toOption
  match (endProcess.run l.process).1 with
  | .error problem =>
    match problem with
    | .leaving code => some (.exited code)
    | .fatal ending => some ending
    | .refused _ => none
  | .ok _ => none

end Linkage.Native
