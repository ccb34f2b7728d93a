import Linkage.Native.Image.Arrival
import Linkage.Native.Search

/-!
# Families of libraries

A library is loaded together with its *family*: the libraries that it needs, then
those that these need, and so on. A search in a library goes through its family in
this order. A library that helps or stands for another one comes in front of it.

For its relocations and routines a family is put into another order, in which each
library comes before those that it needs, as far as that can be.
-/

namespace Linkage.Native

namespace Run

/-! ## One library -/

/-- A library gives itself a name. -/
def isCalled (i : Image) (name : Bytes) : Run Bool := do
  match ← i.word? Tag.name with
  | none => return false
  | some offset => holdsText (← i.textAddress offset) name

/-- A member is meant by a name: it has the name, or gives it to itself. -/
def answers (n : Nat) (name : Bytes) : Run Bool := do
  let m ← member n
  if m.isNamed name then return true
  match m.body with
  | .system l => return l.name ≠ "" && Utf8.encode l.name = name
  | .file i =>
    if ← isCalled i name then
      modifyMember n fun m => { m with names := m.names ++ [name] }
      return true
    else return false

/-- The first of some members that is meant by a name. -/
def firstNamed (name : Bytes) : List Nat → Run (Option Nat)
  | [] => return none
  | n :: rest => do if ← answers n name then return some n else firstNamed name rest

/-- The member whose file stands at a location. -/
def memberAt? (at_ : Location) : Run (Option Nat) := do
  let p ← get
  return p.order.find? fun n => (p.members[n]?.bind (·.location?)) = some at_

/-- The directory of a file, from the root on. -/
def directoryOf (fs : FileSystem) (path : Path) : Bytes :=
  let current : Path := ⟨Path.separator :: Path.unsegment fs.current⟩
  let directory := Path.unsegment (Path.segments (current.join path).bytes).dropLast
  if directory = [] then [Path.separator] else directory

/-- What a file that was found becomes as a member. -/
def bodyOf (fs : FileSystem) (name : Bytes) (f : Found) : Run Body := do
  let complain (p : Problem) : Run Body := throw (p.about ⟨name⟩)
  match f.opened with
  | .program => complain (.refused "cannot dynamically load position-independent executable")
  | .system own => return .system ((SystemLibrary.ofName? own).getD { name := own })
  | .file file => try .file <$> Image.bring file (directoryOf fs f.path) catch p => complain p

/-- Takes a file that was found in as a member. -/
def enroll (fs : FileSystem) (needer? : Option Nat) (name : Bytes) (f : Found) : Run Nat := do
  let body ← bodyOf fs name f
  let isSystem := f.opened matches .system _
  let n ← addMember {
    path := f.path
    names := [name]
    location? := some f.location
    body
    needer?
    isRelocated := isSystem
    hasBegun := isSystem }
  if let .file i := body then
    if i.isFirst then modify fun p => { p with first? := some n }
  return n

/-- The member that is meant by a name which another one tells, loaded if need be. -/
def obtain (fs : FileSystem) (needer? : Option Nat) (name : Bytes) : Run Nat := do
  if let some n ← firstNamed name (← get).order then return n
  let f ← Search.find fs needer? name
  match ← memberAt? f.location with
  | some n =>
    modifyMember n fun m => { m with names := m.names ++ [name] }
    return n
  | none => enroll fs needer? name f

/-! ## Gathering -/

/-- A family that is gathered: what comes before a library that is looked at, and what behind. -/
structure Gathering where
  before : List (Nat × Bool)
  /-- The library that is looked at. -/
  current : Nat
  behind : List (Nat × Bool)
  /-- What the library needs, so far. -/
  needs : List Nat := []

namespace Gathering

/-- A library is in the family. -/
def holds (g : Gathering) (n : Nat) : Bool :=
  n = g.current || (g.before ++ g.behind).any (·.1 = n)

/-- Takes a library that is needed in at the end. -/
def append (g : Gathering) (n : Nat) : Gathering :=
  let g := { g with needs := g.needs ++ [n] }
  if g.holds n then g else { g with behind := g.behind ++ [(n, false)] }

/-- A library is in the family, and does not come behind the one that is looked at. -/
def isEarly (g : Gathering) (n : Nat) : Bool := n = g.current || g.before.any (·.1 = n)

/-- Takes a library in just before the one that is looked at, unless it comes earlier anyway. -/
def insert (g : Gathering) (n : Nat) : Gathering :=
  let g := { g with needs := g.needs ++ [n] }
  if g.isEarly n then g
  else
    { g with before := g.before ++ [(n, false)], behind := g.behind.filter (·.1 ≠ n) }

end Gathering

/--
Puts a member just before another one in the order in which names are compared. If it is
the first one, the order loses all that stood between the two.
-/
def putBefore (n current : Nat) : Run Unit :=
  modify fun p =>
    let kept := if p.order.head? = some n then p.order.dropWhile (· ≠ current) else p.order
    { p with order := (kept.filter (· ≠ n)).flatMap fun m => if m = current then [n, m] else [m] }

/-- Takes a library in that helps the one that is looked at, or stands for it. -/
def takeHelper (g : Gathering) (n : Nat) : Run Gathering := do
  if !g.isEarly n then putBefore n g.current
  return g.insert n

/-- Loads a library that helps another one; nothing happens if that is refused. -/
def obtainIfGood (fs : FileSystem) (needer : Nat) (name : Bytes) : Run (Option Nat) := do
  let before ← get
  try some <$> obtain fs (some needer) name
  catch
    | .refused _ => set before; return none
    | p => throw p

/-- Goes through the dynamic section from an address on, at most `bound` entries of it. -/
def gatherEntries (fs : FileSystem) (i : Image) (texts : Word) :
    (bound : Nat) → Word → Gathering → Run Gathering
  | 0, _, _ => violation
  | bound + 1, a, g => do
    let name : Run Bytes := do
      return PathToken.expand i.directory (← text (texts + (← word (a + 8))))
    let tag ← word a
    if tag = 0 then return g
    else if tag = Tag.needed then
      let n ← obtain fs (some g.current) (← name)
      gatherEntries fs i texts bound (a + 16) (g.append n)
    else if tag = Tag.filter then
      let n ← obtain fs (some g.current) (← name)
      gatherEntries fs i texts bound (a + 16) (← takeHelper g n)
    else if tag = Tag.auxiliary then
      match ← obtainIfGood fs g.current (← name) with
      | some n => gatherEntries fs i texts bound (a + 16) (← takeHelper g n)
      | none => gatherEntries fs i texts bound (a + 16) g
    else gatherEntries fs i texts bound (a + 16) g

/-- Looks at a library of a family that is gathered. -/
def gatherFrom (fs : FileSystem) (g : Gathering) : Run Gathering := do
  match (← member g.current).body with
  | .system l =>
    l.needs.foldlM
      (fun g name => do return g.append (← obtain fs (some g.current) (Utf8.encode name))) g
  | .file i =>
    if i.has Tag.needed || i.has Tag.auxiliary || i.has Tag.filter then
      gatherEntries fs i (← i.address Tag.texts) (← bound) i.dynamicStart g
    else return g

/-- The dynamic section of a library has room for entries, as the file says. -/
def hasEntries (m : Member) : Bool :=
  match m.image? with
  | none => true
  | some i => i.file.dynamicSegment?.any (16 ≤ ·.memorySize)

/-- Takes note of what a library needs. The library of a family itself is left out. -/
def noteNeeds (root n : Nat) (needs : List Nat) : Run Unit := do
  let m ← member n
  if n ≠ root ∧ m.needs.isEmpty ∧ hasEntries m then
    modifyMember n fun m => { m with needs }

/--
The family of a library, of which some members were looked at already. Each step looks
at the first one that was not, and there are at most `bound` steps.
-/
def gather (fs : FileSystem) (root : Nat) : (bound : Nat) → List (Nat × Bool) → Run (List Nat)
  | 0, _ => violation
  | bound + 1, family => do
    let seen := family.takeWhile (·.2)
    match family.dropWhile (·.2) with
    | [] => return family.map (·.1)
    | (n, _) :: behind => do
      let g ← gatherFrom fs ⟨seen, n, behind, []⟩
      noteNeeds root n g.needs
      gather fs root bound (g.before ++ (n, true) :: g.behind)

/-- More steps than it takes to gather a family that comes to an end. -/
def gatherBound : Nat := 0x1000

/-! ## Order -/

/-- What a walk through a family has seen, and what it has put into order. -/
structure Walk where
  seen : List Nat := []
  placed : List Nat := []

/-- Puts a member into order, behind all that it needs, at most `bound` levels deep. -/
def visit (needsOf : Nat → List Nat) : (bound : Nat) → Walk → Nat → Walk
  | 0, w, _ => w
  | bound + 1, w, n =>
    if n ∈ w.seen then w
    else
      let needs := (needsOf n).filter (· ≠ 0)
      let w := needs.foldl (visit needsOf bound) { w with seen := n :: w.seen }
      { w with placed := n :: w.placed }

/-- Some members in an order in which each comes before those that it needs. -/
def sorted (members : List Nat) : Run (List Nat) := do
  let p ← get
  let needsOf (n : Nat) := (p.members[n]?.map (·.needs)).getD []
  return (members.reverse.foldl (visit needsOf (p.members.size + 1)) {}).placed

/-- The family of a library in this order, with the library itself in front. -/
def sortedFamily (root : Nat) (family : List Nat) : Run (List Nat) := do
  return root :: (← sorted family).filter (· ≠ root)

end Run

end Linkage.Native
