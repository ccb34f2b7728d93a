import Linkage.Native.Image.Exports
import Linkage.Text.Numeral

/-!
# Versions of libraries

A library can have several versions at once, and another one that needs it can say
which of them it needs. Both are lists of records in memory, each with the distance
to the next one; the last one has no distance. A library that says nothing of its
versions is good for all needs.

The versions that a library needs, and those that it has, get numbers in it, and each
of its symbols has the number of its version.
-/

namespace Linkage.Native

/-- A version that a library needs of another one. -/
structure VersionNeed where
  hash : Word
  /-- Where its name stands. -/
  name : Word
  /-- The version need not be there. -/
  isWeak : Bool

/-- The layout of records that the system knows. -/
def knownLayout : Word := 1

/-- Complains about records of another layout in a library that stands at a path. -/
def refuseLayout {α : Type} (path : Path) (layout : Word) (sort : String) : Run α :=
  refuseAt path ("unsupported version " ++ Numeral.text layout.toNat ++ " of " ++ sort ++ " record")

/-- Goes through records that tell the distance to the next one, at most `bound` of them. -/
def forRecords (distanceAt : Word) (act : Word → Run Bool) : (bound : Nat) → Word → Run Bool
  | 0, _ => violation
  | bound + 1, a => do
    if ← act a then return true
    match ← Run.single (a + distanceAt) with
    | 0 => return false
    | distance => forRecords distanceAt act bound (a + distance)

/-- Does something for each of some records. -/
def forEachRecord (distanceAt : Word) (act : Word → Run Unit) (a : Word) : Run Unit := do
  let _ ← forRecords distanceAt (fun a => do act a; return false) (← Run.bound) a

/-! ## What a library has -/

/-- What the system says of a version that a library does not have. -/
def versionMissing (owner requester : Path) (version : Bytes) : String :=
  complaint owner
    ("version `" ++ Utf8.lossy version ++ "' not found (required by " ++ requester.display ++ ")")

/-- The record of a version that a library has is about a certain need. -/
def Image.isAbout (i : Image) (path : Path) (need : VersionNeed) (a : Word) : Run Bool := do
  let layout ← Run.half a
  if layout ≠ knownLayout then refuseLayout path layout "Verdef"
  if (← Run.single (a + 8)) ≠ need.hash then return false
  let name ← Run.single (a + (← Run.single (a + 12)))
  Run.sameText need.name (← i.textAddress name)

/-- The library is good for a need. -/
def Image.meets (i : Image) (path : Path) (need : VersionNeed) : Run Bool := do
  match ← i.word? Tag.ownVersions with
  | none => return true
  | some 0 => inconsistency "dl-version.c: 80: match_symbol" "def_offset != 0"
  | some start => forRecords 16 (i.isAbout path need) (← Run.bound) (i.base + start)

/-- A member of a process is good for a need. -/
def Member.meets (m : Member) (need : VersionNeed) : Run Bool := do
  match m.body with
  | .file i => i.meets m.path need
  | .system l =>
    if !l.hasVersions then return true
    (l.name :: l.versions).anyM (SystemLibrary.isNamed need.hash need.name)

/-! ## What a library needs -/

namespace Image

/-- Checks a version that is needed of a member. -/
def checkNeed (path : Path) (owner : Member) (need : VersionNeed) : Run Unit := do
  if !(← owner.meets need) ∧ !need.isWeak then
    refuse (versionMissing owner.path path (← Run.text need.name))

/-- The member that is meant by the name of a library, among all and first of all. -/
def ownerOf (name : Bytes) : Run Member := do
  let p ← get
  match (p.order.filterMap (p.members[·]?)).find? (·.isNamed name) with
  | some m => return m
  | none => inconsistency "dl-version.c: 204: _dl_check_map_versions" "needed != NULL"

/-- Checks the versions that a library needs of others. -/
def checkNeeds (i : Image) (path : Path) : Run Unit := do
  if let some start := ← i.word? Tag.neededVersions then
    let start := i.base + start
    let layout ← Run.half start
    if layout ≠ knownLayout then refuseLayout path layout "Verneed"
    start |> forEachRecord 12 fun a => do
      let owner ← ownerOf (← i.text (← Run.single (a + 4)))
      (a + (← Run.single (a + 8))) |> forEachRecord 12 fun need => do
        let flags ← Run.half (need + 4)
        let name ← i.textAddress (← Run.single (need + 8))
        checkNeed path owner ⟨← Run.single need, name, flags.toNat.testBit 1⟩

/-! ## Numbers of versions -/

/-- Where records stand that tell the distance to the next one, at most `bound` of them. -/
def recordsFrom (distanceAt : Word) : (bound : Nat) → Word → Run (List Word)
  | 0, _ => violation
  | bound + 1, a => do
    match ← Run.single (a + distanceAt) with
    | 0 => return [a]
    | distance => return a :: (← recordsFrom distanceAt bound (a + distance))

/-- Where the records of a tag stand. -/
def recordsOf (i : Image) (tag distanceAt : Word) : Run (List Word) := do
  match ← i.word? tag with
  | none => return []
  | some start => recordsFrom distanceAt (← Run.bound) (i.base + start)

/-- The version of a record of a need, and its number. -/
def neededVersion (i : Image) (owner need : Word) : Run (Word × Version) := do
  let number ← Run.half (need + 6)
  return (number % hiddenVersion, {
    hash := ← Run.single need
    name := ← i.textAddress (← Run.single (need + 8))
    owner? := some owner
    isExact := hiddenVersion ≤ number })

/-- The versions that a library needs of another one, as a record says, with their numbers. -/
def versionsOfNeed (i : Image) (a : Word) : Run (List (Word × Version)) := do
  let owner ← i.textAddress (← Run.single (a + 4))
  (← recordsFrom 12 (← Run.bound) (a + (← Run.single (a + 8)))).mapM (i.neededVersion owner)

/-- The bit of records that stand for the library itself. -/
def isBase (flags : Word) : Bool := flags.toNat.testBit 0

/-- The version of a record of what a library has, and its number. -/
def ownVersion (i : Image) (a : Word) : Run (Word × Option Version) := do
  let number := (← Run.half (a + 4)) % hiddenVersion
  if isBase (← Run.half (a + 2)) then return (number, none)
  let name ← Run.single (a + (← Run.single (a + 12)))
  return (number, some {
    hash := ← Run.single (a + 8)
    name := ← i.textAddress name })

/-- The table of some versions and their numbers, of which the last ones decide. -/
def tableOf (versions : List (Word × Option Version)) : Array Version :=
  let size := (versions.map (·.1.toNat)).foldl max 0 + 1
  versions.foldl
    (fun table (number, version?) =>
      match version? with
      | none => table
      | some v => table.setIfInBounds number.toNat v)
    (Array.replicate size {})

/-- The versions that a library speaks of. They count if any of them has a number. -/
def readVersions (i : Image) : Run (Option VersionTable) := do
  let needs ← (← i.recordsOf Tag.neededVersions 12).mapM i.versionsOfNeed
  let own ← (← i.recordsOf Tag.ownVersions 16).mapM i.ownVersion
  let versions := needs.flatten.map (fun (n, v) => (n, some v)) ++ own
  if versions.any (0 < ·.1) then
    return some ⟨← i.address Tag.versions, tableOf versions⟩
  else return none

/-! ## Moves -/

/-- The version of the C library that knows a list of moves. -/
def movesVersion : Bytes := Utf8.encode "GLIBC_ABI_DT_RELR"

/-- What the names of C libraries begin with. -/
def cStem : Bytes := Utf8.encode "libc.so."

/-- The library says that it needs a C library that knows lists of moves. -/
def announcesMoves (i : Image) : Run Bool := do
  let needs ← (← i.recordsOf Tag.neededVersions 12).mapM i.versionsOfNeed
  needs.flatten.anyM fun (_, v) => do
    if v.hash = (Hash.old movesVersion).toUInt64 then Run.holdsText v.name movesVersion
    else return false

/-- The library needs a C library. -/
def needsC (i : Image) : Run Bool :=
  (i.entries.filter (·.tag = Tag.needed)).reverse.anyM fun e => do
    return cStem.isPrefixOf (← i.text (← Run.word e.place))

/-- A library with a list of moves has to say so where it names the C library. -/
def checkMoves (i : Image) (path : Path) : Run Unit := do
  if i.has Tag.neededVersions ∧ i.has Tag.moves then
    if (← i.needsC) ∧ !(← i.announcesMoves) then
      refuseAt path "DT_RELR without GLIBC_ABI_DT_RELR dependency"

/-- Checks the versions that the member at a position needs, and takes note of its own. -/
def checkVersions (n : Nat) : Run Unit := do
  let m ← Run.member n
  if let some i := m.image? then
    if i.has Tag.texts then
      i.checkNeeds m.path
      let versions? ← i.readVersions
      Run.modifyImage n fun i => { i with versions? := versions? }
      i.checkMoves m.path

end Image

end Linkage.Native
