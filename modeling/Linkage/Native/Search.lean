import Linkage.Native.PathToken
import Linkage.Native.Process

/-!
# Searching library files

A name that holds a separator leads to a file. A bare name is searched in the
directories that the library tells that needs it, and in those of the system. Each
directory has smaller ones for the kinds of processors, which are searched first.

A file that is made for another system is passed over; if no other one turns up, that
or the last error is the reason for the failure.
-/

namespace Linkage.Native

/-- A file that was opened as a library. -/
inductive OpenedFile
  | file (f : LibraryFile)
  | system (name : String)
  | program

/-- A library file, where it was found, and where it stands. -/
structure Found where
  path : Path
  location : Location
  opened : OpenedFile

/-- What a search has met so far. -/
structure Trail where
  /-- The last error. -/
  error : FileError := .notFound
  /-- There was a file for words of another width. -/
  hasOtherWidth : Bool := false

/-- A search, which goes on until it finds a file. -/
abbrev Search := StateT Trail Run

namespace Search

/-- What the system says of a directory in the place of a library. -/
def directoryText : String := "cannot read file data: " ++ FileError.isDirectory.text

/-- Nothing is found, for some error. -/
def miss (e : FileError) : Search (Option OpenedFile) := do
  modify fun t => { t with error := e }
  return none

/-- Refuses the file at a path. -/
def refuseFile {α : Type} (path : Path) (problem : String) : Search α :=
  (refuseAt path problem : Run α)

/-- Reads a library file at a path. -/
def readFile (path : Path) (content : Bytes) : Search (Option OpenedFile) := do
  match LibraryFile.read content with
  | .ok f => return some (.file f)
  | .error .otherProcessor => miss .notFound
  | .error .otherWidth =>
    modify fun t => { t with hasOtherWidth := true }
    miss .notFound
  | .error refusal => refuseFile path refusal.text

/-- Opens what stands at a path. -/
def openNode (path : Path) : FileNode → Search (Option OpenedFile)
  | .directory => refuseFile path directoryText
  | .device .null | .installed .line => refuseFile path FileRefusal.tooShort.text
  | .device .full | .device .zero | .installed .text =>
    refuseFile path FileRefusal.notLibrary.text
  | .installed .program => return some .program
  | .installed (.library name) => return some (.system name)
  | .file content => readFile path content

/-- The location at which a path ends. -/
def locationOf (fs : FileSystem) (path : Path) : Location :=
  match fs.place path with
  | .ok (.entry at_ _) | .ok (.directory at_) => at_
  | .error _ => []

/-- Opens the file at a path. -/
def open? (fs : FileSystem) (path : Path) : Search (Option Found) := do
  let opened? ←
    match fs.stat path with
    | .error e => miss e
    | .ok node => openNode path node
  return opened?.map fun opened => { path, location := locationOf fs path, opened }

/-! ## Directories -/

/-- A directory, as the text in front of the names in it. -/
abbrev Stem := Bytes

/-- The directories for kinds of processors, in the order in which they are searched. -/
def kinds : List Bytes :=
  (["glibc-hwcaps/x86-64-v4/", "glibc-hwcaps/x86-64-v3/", "glibc-hwcaps/x86-64-v2/",
    "tls/x86_64/x86_64/", "tls/x86_64/", "tls/", "x86_64/x86_64/", "x86_64/", ""]).map
    Utf8.encode

/-- The directory that a text tells. It ends in one separator, unless it is empty. -/
def stemOf (text : Bytes) : Stem :=
  let trimmed := (text.reverse.dropWhile (· = Path.separator)).reverse
  if text = [] then [] else trimmed ++ [Path.separator]

/-- The directories that a text tells, between colons. Those that turn out empty do not count. -/
def stemsOf (directory text : Bytes) : List Stem :=
  if text = [] then []
  else
    (text.splitOn 0x3A).filterMap fun part =>
      let expanded := PathToken.expand directory part
      if part ≠ [] ∧ expanded = [] then none else some (stemOf expanded)

/-- A directory is there. One that is not told from the root may come to be there. -/
def exists_ (fs : FileSystem) (stem : Stem) : Search Bool := do
  if stem.head? ≠ some Path.separator then return true
  match fs.stat ⟨stem.dropLast⟩ with
  | .ok .directory => return true
  | .ok _ => return false
  | .error e => modify fun t => { t with error := e }; return false

/-- Searches a name in a directory for each kind of processors, and tells whether one is there. -/
def searchKinds (fs : FileSystem) (name : Bytes) (stem : Stem) :
    List Bytes → Bool → Search (Option Found × Bool)
  | [], isThere => return (none, isThere)
  | kind :: rest, isThere => do
    match ← open? fs ⟨stem ++ kind ++ name⟩ with
    | some f => return (some f, true)
    | none => searchKinds fs name stem rest (isThere || (← exists_ fs (stem ++ kind)))

/-- Searches a name in some directories. An error that is unusual ends the search. -/
def searchStems (fs : FileSystem) (name : Bytes) : List Stem → Search (Option Found)
  | [] => return none
  | stem :: rest => do
    match ← searchKinds fs name stem kinds false with
    | (some f, _) => return some f
    | (none, isThere) =>
      if isThere ∧ (← get).error ≠ .notFound then return none
      else searchStems fs name rest

/-! ## Names -/

/-- The first of some searches that finds a file. -/
def firstOf : List (Search (Option Found)) → Search (Option Found)
  | [] => return none
  | s :: rest => do
    match ← s with
    | some f => return some f
    | none => firstOf rest

/-- The directories of the system. -/
def systemStems : List Stem :=
  ["/lib/x86_64-linux-gnu/", "/usr/lib/x86_64-linux-gnu/", "/lib/", "/usr/lib/"].map Utf8.encode

/-- Searches a library of the system by its name. -/
def searchInstalled (fs : FileSystem) (name : Bytes) : Search (Option Found) := do
  if Installation.libraries.any fun own => Utf8.encode own = name then
    open? fs ⟨systemStems.headD [] ++ name⟩
  else return none

/-- The image of the member at a position, if it was loaded from a file. -/
def imageOf? (n : Nat) : Run (Option Image) := do return (← Run.member n).image?

/-- The directories that a library tells with a tag. -/
def stemsOfTag (i : Image) (tag : Word) : Run (List Stem) := do
  return stemsOf i.directory ((← i.textOf? tag).getD [])

/--
The directories that a member tells for itself and those that it needs, then those of
the member that needs it, and so on, for at most `bound` members. A path of its own
hides the other one.
-/
def inheritedStems : (bound : Nat) → Option Nat → Run (List (List Stem))
  | bound + 1, some n => do
    let m ← Run.member n
    let rest ← inheritedStems bound m.needer?
    match m.image? with
    | none => return rest
    | some i =>
      if i.has Tag.ownPath then return rest
      else return (← stemsOfTag i Tag.inheritedPath) :: rest
  | _, _ => return []

/-- The lists of directories in which a member has bare names searched. -/
def stemsFor (needer? : Option Nat) : Run (List (List Stem)) := do
  match ← (needer?.mapM imageOf? : Run (Option (Option Image))) with
  | some (some i) =>
    if i.has Tag.ownPath then return [← stemsOfTag i Tag.ownPath]
    else inheritedStems (← get).members.size needer?
  | _ => inheritedStems (← get).members.size needer?

/-- A member has nothing searched in the directories of the system. -/
def shunsSystem (needer? : Option Nat) : Run Bool := do
  match needer? with
  | none => return false
  | some n => return (← imageOf? n).any (·.shunsSystem)

/-- Searches a bare name. -/
def searchBare (fs : FileSystem) (needer? : Option Nat) (name : Bytes) :
    Search (Option Found) := do
  let own := (← stemsFor needer?).map (searchStems fs name)
  let system :=
    if ← shunsSystem needer? then []
    else [searchInstalled fs name, searchStems fs name systemStems]
  firstOf (own ++ system)

/-- What a token for the directory stands for, in a name that a member tells. -/
def directoryFor (needer? : Option Nat) : Run Bytes := do
  match needer? with
  | none => return PathToken.programDirectory
  | some n => return ((← imageOf? n).map (·.directory)).getD PathToken.programDirectory

/-- What the system says of a search that failed. -/
def failureText (t : Trail) : String :=
  if t.hasOtherWidth then FileRefusal.otherWidth.text
  else "cannot open shared object file: " ++ t.error.text

/-- The library file of a name that a member tells. -/
def find (fs : FileSystem) (needer? : Option Nat) (name : Bytes) : Run Found := do
  let search :=
    if Path.separator ∈ name then do
      open? fs ⟨PathToken.expand (← directoryFor needer?) name⟩
    else searchBare fs needer? name
  match ← search.run {} with
  | (some f, _) => return f
  | (none, t) => refuseAt ⟨name⟩ (failureText t)

end Search

end Linkage.Native
