import Linkage.Native.Hash
import Linkage.Native.Process

/-!
# The exports of a library

A library finds its exports by hashing. There are two tables for that, an old one
and one with a filter in front of it; a library that has the second one does not
use the first. Either table leads to a chain of positions in the list of symbols,
and the first symbol on the chain that matches a request is the one.

Who asks for a version gets a symbol of that version. Who asks without one gets a
symbol of the basic versions; one of a later version counts only if it is current and
the chain has a single one of that kind.
-/

namespace Linkage.Native

/-! ## Symbols -/

/-- A symbol in the list of a library. -/
structure FileSymbol where
  /-- Where it stands. -/
  place : Word
  /-- The offset of its name in the table of texts. -/
  name : Word
  /-- What it is. -/
  kind : Word
  /-- How far it is seen by its binding. -/
  binding : Word
  /-- How far it is seen by its visibility. -/
  visibility : Word
  section_ : Word
  value : Word
  size : Word

namespace FileSymbol

/-- The octets that a symbol takes in the list. -/
def width : Word := 24

/-- The section of what is defined elsewhere. -/
def elsewhere : Word := 0

/-- The section of values that are no addresses in the library. -/
def absolute : Word := 0xFFF1

/-- What a symbol is when each thread has its own. -/
def perThread : Word := 6

/-- What a symbol is when a routine of the library tells its address. -/
def indirect : Word := 10

/-- The visibility of symbols that the library itself does not look for elsewhere. -/
def guarded : Word := 3

/-- Reads the symbol at an address. -/
def read (a : Word) : Run FileSymbol := do
  let info ← Run.number 1 (a + 4)
  return {
    place := a
    name := ← Run.single a
    kind := info % 16
    binding := info / 16
    visibility := (← Run.number 1 (a + 5)) % 4
    section_ := ← Run.half (a + 6)
    value := ← Run.word (a + 8)
    size := ← Run.word (a + 16) }

/-- The visibility of a symbol keeps it inside its library. -/
def isInner (s : FileSymbol) : Bool := s.visibility = 1 || s.visibility = 2

/-- The symbol is seen in its library only. -/
def isLocal (s : FileSymbol) : Bool := s.binding = 0 || s.isInner

/-- The symbol need not be defined anywhere. -/
def isWeak (s : FileSymbol) : Bool := s.binding = 2

/-- The symbol defines something that has a name. -/
def isDefinition (s : FileSymbol) : Bool :=
  (s.kind = 0 || s.kind = 1 || s.kind = 2 || s.kind = 5 || s.kind = perThread ||
    s.kind = indirect) &&
    (s.value ≠ 0 || s.section_ = absolute || s.kind = perThread)

/-- Others can see the symbol. -/
def isExported (s : FileSymbol) : Bool :=
  (s.binding = 1 || s.binding = 2 || s.binding = 10) && !s.isInner

/-- The address of the symbol in a library that stands at a base. -/
def address (s : FileSymbol) (base : Word) : Word :=
  if s.section_ = absolute then s.value else base + s.value

end FileSymbol

/-- The symbol at a position in the list. -/
def Image.symbolAt (i : Image) (position : Word) : Run FileSymbol := do
  FileSymbol.read ((← i.address Tag.symbols) + FileSymbol.width * position)

/-! ## Requests -/

/-- What is looked for. -/
structure Request where
  name : Bytes
  /-- The version that it has to have. -/
  version? : Option Version := none
  /-- The symbol that speaks of it. -/
  reference? : Option Word := none
  /-- A symbol that is defined elsewhere does not count, though it has a value. -/
  needsDefinition : Bool := false
  /-- The program does not count. -/
  skipsProgram : Bool := false
  /-- A program asks, and means what is current. -/
  isCurrent : Bool := false

/-- The first number of a version that is not as good as none for a request. -/
def Request.ownVersion (r : Request) : Word := if r.isCurrent then 2 else 3

/-- The bit of versions that are no longer offered. -/
def hiddenVersion : Word := 0x8000

/-- A version that has no name, and is none of those that a library can need. -/
def Version.nameless : Version := { hash := 0x100000000 }

/-- Versions with this number or a higher one would stand beyond all memory. -/
def VersionTable.bound : Nat := 0x1600

/--
The version of a number. Beyond the versions there are none, but what comes right after
an even number of them is taken for a version without a name.
-/
def VersionTable.at (t : VersionTable) (n : Word) : Run Version := do
  let n := (n % hiddenVersion).toNat
  if bound ≤ n then violation
  return if n = t.versions.size ∧ n % 2 = 0 then .nameless else t.versions.getD n {}

/--
A library that has no versions is asked for one of them. That is right unless it is
the library that should have the version.
-/
def Version.checkOwner (v : Version) (m : Member) : Run Unit := do
  if let some owner := v.owner? then
    if m.isNamed (← Run.text owner) then
      inconsistency "dl-lookup.c: 107: check_match"
        "version->filename == NULL || ! _dl_name_match_p (version->filename, map)"

namespace Image

/-- What a look at a symbol tells. -/
inductive Look
  /-- It is another one, or defines nothing. -/
  | other
  /-- It has a version of its own, and may be the one. -/
  | versioned (s : FileSymbol)
  /-- It is the one. -/
  | found (s : FileSymbol)

/-- A version of the number that a symbol has is as good as the version that is asked for. -/
def suits (asked own : Version) (number : Word) : Run Bool := do
  let isSame ← if asked.hash = own.hash then Run.sameText asked.name own.name else pure false
  return isSame || (!asked.isExact && own.hash = 0 && number < hiddenVersion)

/-- Looks at the symbol at a position of a member. -/
def look (i : Image) (m : Member) (r : Request) (position : Word) : Run Look := do
  let s ← i.symbolAt position
  if !s.isDefinition then return .other
  if r.needsDefinition ∧ s.section_ = FileSymbol.elsewhere then return .other
  if r.reference? ≠ some s.place then
    if !(← Run.holdsText (← i.textAddress s.name) r.name) then return .other
  match r.version?, i.versions? with
  | some v, none =>
    v.checkOwner m
    return .found s
  | none, none => return .found s
  | some v, some t =>
    let number ← Run.half (t.numbers + 2 * position)
    return if ← suits v (← t.at number) number then .found s else .other
  | none, some t =>
    let number ← Run.half (t.numbers + 2 * position)
    if number % hiddenVersion < r.ownVersion then return .found s
    else if hiddenVersion ≤ number then return .other
    else return .versioned s

/-! ## Chains -/

/-- What is left of a chain: whether the hash allows the position, and the way on. -/
structure Link where
  isCandidate : Bool
  next : Run (Option Word)

/--
Follows a chain of at most `bound` positions up to the symbol that is looked for. One
with a version of its own is kept in mind, and is the one if no other turns up.
-/
def follow (i : Image) (m : Member) (r : Request) (link : Word → Run Link) :
    (bound : Nat) → (kept : List FileSymbol) → Word → Run (Option FileSymbol)
  | 0, _, _ => violation
  | bound + 1, kept, position => do
    let l ← link position
    let seen ← if l.isCandidate then i.look m r position else pure .other
    if let .found s := seen then return some s
    let kept :=
      match seen with
      | .versioned s => s :: kept
      | _ => kept
    match ← l.next with
    | some next => follow i m r link bound kept next
    | none =>
      match kept with
      | [s] => return some s
      | _ => return none

/-- More links than a chain has that ends. -/
def chainBound : Nat := 0x40000

/-- Searches the old table. -/
def searchOld (i : Image) (m : Member) (r : Request) (t : OldTable) : Run (Option FileSymbol) := do
  let next (a : Word) : Run (Option Word) := do
    let position ← Run.single a
    return if position = 0 then none else some position
  match ← next (t.heads + 4 * ((Hash.old r.name).toUInt64 % t.count)) with
  | none => return none
  | some head =>
    i.follow m r (fun position => return ⟨true, next (t.links + 4 * position)⟩) chainBound [] head

/-- Searches the new table. -/
def searchNew (i : Image) (m : Member) (r : Request) (t : NewTable) : Run (Option FileSymbol) := do
  let hash := (Hash.new r.name).toUInt64
  let filter ← Run.word (t.filter + 8 * (hash / 64 &&& t.mask))
  if (filter >>> (hash % 64)) &&& (filter >>> (hash >>> t.shift % 64)) &&& 1 = 0 then return none
  let head ← Run.single (t.heads + 4 * (hash % t.count))
  if head = 0 then return none
  let link (position : Word) : Run Link := do
    let h ← Run.single (t.hashes + 4 * position)
    return ⟨h / 2 = hash / 2, return if h % 2 = 1 then none else some (position + 1)⟩
  i.follow m r link chainBound [] head

/-- The symbol that is looked for, whether others can see it or not. -/
def search (i : Image) (m : Member) (r : Request) : Run (Option FileSymbol) := do
  let prepare : Run Unit := do
    let _ ← i.word Tag.symbols
    let _ ← i.word Tag.texts
  match i.table with
  | .absent => return none
  | .old t =>
    if t.count = 0 then return none
    prepare
    i.searchOld m r t
  | .new t =>
    if t.count = 0 then return none
    prepare
    i.searchNew m r t

end Image

/-! ## Libraries of the system -/

namespace SystemLibrary

/-- Something that a name stands for is what a request without a version means. -/
def isMeant (l : SystemLibrary) (r : Request) (s : Standing) : Bool :=
  s.isCurrent || (!r.isCurrent && l.versions.head?.any (· = s.version))

/-- A hash and the text at an address are those of a name. -/
def isNamed (hash place : Word) (name : String) : Run Bool := do
  let name := Utf8.encode name
  if hash = (Hash.old name).toUInt64 then Run.holdsText place name else return false

/-- Something that a name stands for is as good as a version. -/
def isGood (v : Version) (s : Standing) : Run Bool :=
  if s.version = "" then return !v.isExact else isNamed v.hash v.name s.version

/-- The address of what is looked for in a library of the system. -/
def search (l : SystemLibrary) (m : Member) (r : Request) : Run (Option Word) := do
  let standings := ((Utf8.text? r.name).bind (l.exports[·]?)).getD []
  let found? ←
    match r.version? with
    | none => pure (standings.find? (l.isMeant r))
    | some v =>
      if standings.isEmpty then pure none
      else if l.hasVersions then standings.findM? (isGood v)
      else
        v.checkOwner m
        pure standings.head?
  return found?.map fun s => l.address s.position

end SystemLibrary

/-! ## Members -/

/-- What a name was found to stand for. -/
inductive Definition
  /-- A symbol of the member at a position. -/
  | symbol (owner : Nat) (s : FileSymbol)
  /-- Something at an address in the library of the system at a position. -/
  | place (owner : Nat) (a : Word)

/-- What is looked for in the member at a position. -/
def Request.searchMember (r : Request) (n : Nat) : Run (Option Definition) := do
  if r.skipsProgram ∧ n = 0 then return none
  let m ← Run.member n
  match m.body with
  | .file i => return ((← i.search m r).filter (·.isExported)).map (.symbol n)
  | .system l => return (← l.search m r).map (.place n)

/-- What is looked for in some members, one after another. -/
def Request.search (r : Request) : List Nat → Run (Option Definition)
  | [] => return none
  | n :: rest => do
    match ← r.searchMember n with
    | some d => return some d
    | none => r.search rest

end Linkage.Native
