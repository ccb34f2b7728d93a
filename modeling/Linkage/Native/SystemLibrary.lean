import Linkage.Installation
import Linkage.Native.SystemLibrary.Base
import Linkage.Native.SystemLibrary.C
import Linkage.Native.SystemLibrary.Compiler
import Linkage.Native.SystemLibrary.Math
import Linkage.Native.SystemLibrary.Small
import Linkage.Native.SystemLibrary.Streams
import Linkage.Symbol
import Std.Data.HashMap

/-!
# The libraries of the system

Some libraries are there on every system, and a few of them are part of every
process. What they export is known, as far as it matters, but not their memory: each
takes a part of the addresses, and the names that it exports stand there one after
another.
-/

namespace Linkage.Native

/-- What a name stands for in one version of a library. -/
structure Standing where
  version : String
  /-- The name means this version to those who do not ask for one. -/
  isCurrent : Bool
  /-- The position among all that the library exports. -/
  position : Nat

/-- What the names of a library stand for. -/
abbrev ExportTable := Std.HashMap String (List Standing)

/-- The names of some releases, each with what it stands for apart from its position. -/
def Release.standings (releases : List Release) : List (String × String × Bool) :=
  releases.flatMap fun r =>
    r.current.map (·, r.version, true) ++ r.former.map (·, r.version, false)

/-- What the names of some releases stand for. -/
def ExportTable.ofReleases (releases : List Release) : ExportTable :=
  (Release.standings releases).zipIdx.foldl
    (fun table ((name, version, isCurrent), position) =>
      table.insert name (⟨version, isCurrent, position⟩ :: table.getD name []))
    {}

/-- A library of the system. -/
structure SystemLibrary where
  name : String
  /-- The libraries that it needs. -/
  needs : List String := ["libc.so.6"]
  /-- Its versions and their names, if they are known. -/
  releases? : Option (List Release) := none
  exports : ExportTable := .ofReleases (releases?.getD [])
  /-- The names that it exports, in the order in which they stand in memory. -/
  names : Array String :=
    ((Release.standings (releases?.getD [])).map (·.1)).toArray

namespace SystemLibrary

/-- The name of the C library. -/
def cName : String := "libc.so.6"

/-- The name of the loader of the system. -/
def loaderName : String := "ld-linux-x86-64.so.2"

/-- The name of the library that supports compiled code. -/
def compilerName : String := "libgcc_s.so.1"

/-- The names of the libraries that every process needs. -/
def needsOfAll : List String := [compilerName, cName, loaderName]

/-- The program, whose name is empty. It exports nothing. -/
def program : SystemLibrary where
  name := ""
  needs := needsOfAll

/-- What the system itself gives to every process. -/
def kernel : SystemLibrary where
  name := "linux-vdso.so.1"
  needs := []
  releases? := some
    [⟨"LINUX_2.6",
      ["__vdso_gettimeofday", "gettimeofday", "__vdso_time", "time", "__vdso_clock_gettime",
        "clock_gettime", "__vdso_clock_getres", "clock_getres", "__vdso_getcpu", "getcpu"], []⟩]

/-- The libraries whose names are known. -/
def known : List SystemLibrary :=
  [{ name := loaderName, needs := [], releases? := some loaderReleases },
   { name := cName, needs := [loaderName], releases? := some cReleases },
   { name := compilerName, needs := [cName], releases? := some compilerReleases },
   { name := "libm.so.6", needs := [cName, loaderName], releases? := some mathReleases },
   { name := "libmvec.so.1", needs := ["libm.so.6", cName], releases? := some vectorReleases },
   { name := "libstdc++.so.6"
     needs := ["libm.so.6", cName, loaderName, compilerName]
     releases? := some streamReleases },
   { name := "libpthread.so.0", releases? := some threadReleases },
   { name := "libdl.so.2", releases? := some dynamicReleases },
   { name := "librt.so.1", releases? := some realtimeReleases },
   { name := "libutil.so.1", releases? := some terminalReleases },
   { name := "libanl.so.1", releases? := some lookupReleases },
   { name := "libBrokenLocale.so.1", releases? := some localeReleases },
   { name := "libresolv.so.2", releases? := some resolverReleases },
   { name := "libnsl.so.1", releases? := some directoryReleases },
   { name := "libnss_hesiod.so.2"
     needs := ["libresolv.so.2", cName]
     releases? := some hesiodReleases },
   { name := "libnss_compat.so.2", releases? := some compatReleases },
   { name := "libcrypt.so.1", releases? := some cipherReleases },
   { name := "libc_malloc_debug.so.0"
     needs := [cName, loaderName]
     releases? := some debugReleases },
   { name := "libz.so.1", releases? := some deflateReleases },
   { name := "libbz2.so.1.0", releases? := some blockReleases },
   { name := "liblzma.so.5", releases? := some chainReleases },
   { name := "libuuid.so.1", releases? := some identifierReleases },
   { name := "libthread_db.so.1", releases? := some threadDebuggingReleases },
   { name := "libtinfo.so.6", releases? := some screenReleases },
   { name := "libacl.so.1", releases? := some accessReleases },
   { name := "libattr.so.1", releases? := some attributeReleases },
   { name := "libcap.so.2", releases? := some capabilityReleases },
   { name := "liblz4.so.1", releases? := some quickReleases },
   { name := "libzstd.so.1", releases? := some standardReleases },
   { name := "libpcre2-8.so.0", releases? := some patternReleases },
   { name := "libselinux.so.1"
     needs := ["libpcre2-8.so.0", cName, loaderName]
     releases? := some labelReleases },
   { name := "libmemusage.so", releases? := some memoryReleases },
   { name := "libpcprofile.so", releases? := some counterReleases },
   { name := "libmount.so.1", needs := ["libblkid.so.1", "libselinux.so.1", cName] },
   { name := "libpam.so.0", needs := ["libaudit.so.1", cName] },
   { name := "libudev.so.1", needs := [cName, loaderName], releases? := some deviceReleases },
   { name := "libsystemd.so.0"
     needs := ["libcap.so.2", "liblz4.so.1", "liblzma.so.5", "libzstd.so.1", cName] }]

/-- The libraries that stand in the directory of the system. -/
def installed : List SystemLibrary :=
  Installation.libraries.map fun name =>
    (known.find? (·.name = name)).getD { name }

/-- All libraries of the system, in the order in which they stand in memory. -/
def all : Array SystemLibrary := (program :: kernel :: installed).toArray

/-- The library of the system with a name. -/
def ofName? (name : String) : Option SystemLibrary := installed.find? (·.name = name)

/-- The libraries that are part of every process, the program first. -/
def present : List SystemLibrary := [program, kernel] ++ needsOfAll.filterMap ofName?

/-- The versions of a library that are known. -/
def versions (l : SystemLibrary) : List String :=
  ((l.releases?.getD []).map (·.version)).filter (· ≠ "")

/-- The library has versions. -/
def hasVersions (l : SystemLibrary) : Bool := !l.versions.isEmpty

/-! ## Places in memory -/

/-- Where the first library stands. -/
def firstBase : Word := 0x7F0000000000

/-- The octets that each library takes. -/
def extent : Word := 0x1000000

/-- The octets that each name takes. -/
def spacing : Word := 16

/-- Where a library stands. -/
def base (l : SystemLibrary) : Word :=
  firstBase + extent * UInt64.ofNat ((all.findIdx? (·.name = l.name)).getD 0)

/-- The address of what stands at a position. -/
def address (l : SystemLibrary) (position : Nat) : Word :=
  l.base + spacing * UInt64.ofNat (position + 1)

/-- The library that stands at an address. -/
def at? (a : Word) : Option SystemLibrary :=
  if firstBase ≤ a then all[((a - firstBase) / extent).toNat]? else none

/-- The name whose address is a certain one. -/
def nameAt? (a : Word) : Option String := do
  let l ← at? a
  let distance := a - l.base
  if distance % spacing ≠ 0 ∨ distance = 0 then none
  else l.names[(distance / spacing - 1).toNat]?

end SystemLibrary

end Linkage.Native
