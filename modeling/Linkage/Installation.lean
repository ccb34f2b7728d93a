import Linkage.Text.Utf8

/-!
# What every system has

The directories, links and files that stand on every system before anything is put
there. Programs and libraries stand below one directory, and some older places are
links to it. Of the files no more is told than what they are for.
-/

namespace Linkage

/-- The names that lead from the root to a place. -/
abbrev Location := List Bytes

/-- What a file of the system is for. -/
inductive Installed
  /-- A library of this name. -/
  | library (name : String)
  | program
  /-- It is read by people, or by other programs. -/
  | text
  /-- It is read in the same way, and has a single line. -/
  | line
  deriving DecidableEq

namespace Installation

/-- The location of some names below the root. -/
def location (names : List String) : Location := names.map Utf8.encode

/-- The directory of the libraries. -/
def libraryDirectory : List String := ["usr", "lib", "x86_64-linux-gnu"]

/-- The directory of the programs. -/
def programDirectory : List String := ["usr", "bin"]

/-- The directories. -/
def directories : List (List String) :=
  ["boot", "dev", "etc", "home", "media", "mnt", "opt", "proc", "root", "run", "srv", "sys", "tmp",
    "usr", "var"].map ([·]) ++
  ["bin", "games", "include", "lib", "lib64", "libexec", "local", "sbin", "share", "src"].map
    (["usr", ·]) ++
  ["cache", "lib", "local", "log", "mail", "opt", "spool", "tmp"].map (["var", ·]) ++
  [libraryDirectory]

/-- The links, each with what it leads to. -/
def links : List (List String × List String) :=
  ["bin", "lib", "lib64", "sbin"].map (fun name => ([name], ["usr", name])) ++
  [(["usr", "lib64", "ld-linux-x86-64.so.2"], libraryDirectory ++ ["ld-linux-x86-64.so.2"])]

/-- The names of the libraries. -/
def libraries : List String :=
  ["ld-linux-x86-64.so.2", "libc.so.6", "libm.so.6", "libgcc_s.so.1", "libmvec.so.1", "libdl.so.2",
   "libpthread.so.0", "librt.so.1", "libutil.so.1", "libanl.so.1", "libresolv.so.2",
   "libBrokenLocale.so.1", "libnsl.so.1", "libnss_compat.so.2", "libnss_dns.so.2",
   "libnss_files.so.2", "libnss_hesiod.so.2", "libc_malloc_debug.so.0", "libmemusage.so",
   "libpcprofile.so", "libthread_db.so.1", "libstdc++.so.6", "libcrypt.so.1", "libz.so.1",
   "liblzma.so.5", "libbz2.so.1.0", "liblz4.so.1", "libzstd.so.1", "libselinux.so.1",
   "libpcre2-8.so.0", "libacl.so.1", "libattr.so.1", "libcap.so.2", "libaudit.so.1",
   "libpam.so.0", "libblkid.so.1", "libmount.so.1", "libuuid.so.1", "libsmartcols.so.1",
   "libudev.so.1", "libsystemd.so.0", "libtinfo.so.6"]

/-- The names of programs. -/
def programs : List String :=
  ["sh", "dash", "bash", "cat", "cp", "date", "df", "echo", "env", "false", "id", "ln", "ls",
   "mkdir", "mv", "ps", "rm", "sleep", "tail", "test", "touch", "true", "uname", "wc", "whoami"]

/-- The files that are read by people or by other programs. -/
def texts : List (List String) :=
  ["libc.so", "libm.so", "libc.a", "libm.a"].map (fun name => libraryDirectory ++ [name]) ++
  ["passwd", "group", "ld.so.cache"].map (["etc", ·])

/-- The files of this kind that have a single line. -/
def lines : List (List String) := ["fstab", "ld.so.conf", "hostname"].map (["etc", ·])

/-- The files, each with what it is for. -/
def files : List (Location × Installed) :=
  (libraries.map fun name => (location (libraryDirectory ++ [name]), .library name)) ++
  (programs.map fun name => (location (programDirectory ++ [name]), .program)) ++
  (texts.map fun names => (location names, .text)) ++
  (lines.map fun names => (location names, .line))

/-- The file at a location. -/
def fileAt? (at_ : Location) : Option Installed := files.lookup at_

/-- Where the link at a location leads to. -/
def linkAt? (at_ : Location) : Option Location :=
  (links.find? fun l => location l.1 = at_).map fun l => location l.2

/-- A directory stands at a location. -/
def isDirectory (at_ : Location) : Bool := directories.any fun names => location names = at_

end Installation

end Linkage
