import Linkage.Json.Printer
import Linkage.Json.Reader
import Linkage.Log.Entry
import Linkage.Text.Quoted

/-!
# Reading log entries

A line is read as an entry from the front to the back, and the first problem
decides. Members may come in any order, and unknown ones are passed over; a
known one may come once. Members that an entry can lack may also be null. The
positional form, an array of all nine values, is read as well.

Members that are missing are noticed at the end, in the order in which entries
are written.
-/

namespace Linkage.Log

open Linkage.Json (Reader ReadError)

/-- A value found where another one was wanted. -/
inductive Found
  | null
  | boolean (b : Bool)
  | number (value : Json)
  | text (s : String)
  | sequence
  | map

/-- The wording of a value that was found. -/
def Found.describe : Found → String
  | .null => "null"
  | .boolean b => "boolean `" ++ String.ofList (Json.boolText b) ++ "`"
  | .number (.float x) => "floating point `" ++ String.ofList (Json.floatText x) ++ "`"
  | .number v => "integer `" ++ v.compact ++ "`"
  | .text s => "string " ++ Quoted.text s
  | .sequence => "sequence"
  | .map => "map"

/-- Why well-formed JSON is no log entry. -/
inductive EntryProblem
  /-- A value of another kind was wanted. -/
  | unexpected (found : Found) (wanted : String)
  /-- No level has this name. -/
  | unknownLevel (name : String)
  /-- A member is missing. -/
  | missing (field : String)
  /-- A member comes again. -/
  | repeated (field : String)
  /-- The positional form has too few values. -/
  | tooShort (length : Nat)

/-- The wording of a problem. -/
def EntryProblem.message : EntryProblem → String
  | .unexpected found wanted => "invalid type: " ++ found.describe ++ ", expected " ++ wanted
  | .unknownLevel name =>
    "unknown variant `" ++ name ++ "`, expected one of " ++
      String.intercalate ", " (Level.all.map fun l => "`" ++ l.name ++ "`")
  | .missing field => "missing field `" ++ field ++ "`"
  | .repeated field => "duplicate field `" ++ field ++ "`"
  | .tooShort length =>
    "invalid length " ++ Numeral.text length ++ ", expected struct LogEntry with 9 elements"

/-- A member of a log entry. -/
inductive Field
  | timestamp
  | traceId
  | level
  | event
  | platform
  | runtime
  | library
  | error
  | details
  deriving DecidableEq

namespace Field

/-- All members, in the order in which they are written. -/
def all : List Field :=
  [.timestamp, .traceId, .level, .event, .platform, .runtime, .library, .error, .details]

/-- The key of a member. -/
def key : Field → String
  | .timestamp => "timestamp"
  | .traceId => "trace_id"
  | .level => "level"
  | .event => "event"
  | .platform => "platform"
  | .runtime => "runtime"
  | .library => "library"
  | .error => "error"
  | .details => "details"

/-- The member of a key. -/
def ofKey? (key : String) : Option Field := all.find? (·.key = key)

/-- The member is part of every entry. -/
def isRequired : Field → Bool
  | .timestamp | .traceId | .level | .event => true
  | _ => false

end Field

namespace Entry

/--
The kind of the value in front, for a complaint about it. A container need not
be read for that.
-/
def readFound (cs : List Char) : Except (ReadError EntryProblem) Found :=
  match cs with
  | [] => .error .malformed
  | c :: rest =>
    if c = 'n' then (fun _ => .null) <$> Json.readWord "ull".toList rest
    else if c = 't' then (fun _ => .boolean true) <$> Json.readWord "rue".toList rest
    else if c = 'f' then (fun _ => .boolean false) <$> Json.readWord "alse".toList rest
    else if c = '"' then (fun r => .text r.1) <$> Json.readString rest
    else if Json.startsNumber c then (fun r => .number r.1) <$> Json.readNumber cs
    else if c = '[' then .ok .sequence
    else if c = '\x7b' then .ok .map
    else .error .malformed

/-- Complains about the value in front. -/
def refuse {α : Type} (wanted : String) (cs : List Char) : Except (ReadError EntryProblem) α := do
  .error (.refused (.unexpected (← readFound cs) wanted))

/-- Reads a string. -/
def readText (wanted : String) (cs : List Char) :
    Except (ReadError EntryProblem) (String × List Char) :=
  match Json.skipGap cs with
  | '"' :: rest => Json.readString rest
  | cs => refuse wanted cs

/-- Reads a value that may be null. -/
def readOptional {α : Type} (read : Reader EntryProblem α) : Reader EntryProblem (Option α) :=
  fun cs =>
    match Json.skipGap cs with
    | 'n' :: rest => do
      let ((), rest) ← Json.readWord "ull".toList rest
      return (none, rest)
    | cs => do
      let (a, rest) ← read cs
      return (some a, rest)

/-- The level of a name that was read. -/
def levelOfName (name : String) : Except (ReadError EntryProblem) Level :=
  match Level.ofName? name with
  | some level => .ok level
  | none => .error (.refused (.unknownLevel name))

/-- Reads a null. -/
def readNull (cs : List Char) : Except (ReadError EntryProblem) (List Char) :=
  match Json.skipGap cs with
  | 'n' :: rest => (·.2) <$> Json.readWord "ull".toList rest
  | cs => refuse "unit" cs

/-- Reads a key, which must be a string. -/
def readKey : Reader EntryProblem String := fun cs =>
  match Json.skipGap cs with
  | '"' :: rest => Json.readString rest
  | _ => .error .malformed

/-- Reads a level: its name, or an object with the name as its only key and null behind it. -/
def readLevel : Reader EntryProblem Level := fun cs =>
  match Json.skipGap cs with
  | [] => .error .malformed
  | c :: rest =>
    if c = '"' then do
      let (name, rest) ← Json.readString rest
      return (← levelOfName name, rest)
    else if c = '\x7b' then do
      let (name, rest) ← readKey rest
      let level ← levelOfName name
      let rest ← Json.readMark ':' rest
      let rest ← readNull rest
      return (level, ← Json.readMark '\x7d' rest)
    else .error .malformed

/-- How deeply containers may be nested inside an entry. -/
def maxDetailsDepth : Nat := Json.maxDepth - 1

/-- Reads the value of a member into an entry, out of a text of `size` characters. -/
def readField (size : Nat) (field : Field) (e : Entry) : Reader EntryProblem Entry := fun cs => do
  match field with
  | .timestamp =>
    let (s, cs) ← readText "a string" cs
    return ({ e with timestamp := s }, cs)
  | .traceId =>
    let (s, cs) ← readText "a string" cs
    return ({ e with traceId := s }, cs)
  | .level =>
    let (level, cs) ← readLevel cs
    return ({ e with level := level }, cs)
  | .event =>
    let (s, cs) ← readText "a string" cs
    return ({ e with event := s }, cs)
  | .platform =>
    let (s, cs) ← readOptional (readText "a string") cs
    return ({ e with platform := s }, cs)
  | .runtime =>
    let (s, cs) ← readOptional (readText "a string") cs
    return ({ e with runtime := s }, cs)
  | .library =>
    let (s, cs) ← readOptional (readText "a string") cs
    return ({ e with library := s }, cs)
  | .error =>
    let (s, cs) ← readOptional (readText "a string") cs
    return ({ e with error := s }, cs)
  | .details =>
    let (v, cs) ← readOptional (Json.readValue size maxDetailsDepth) cs
    return ({ e with details := v }, cs)

/-- An entry in which nothing has been read yet. -/
def blank : Entry := { timestamp := "", traceId := "", level := .info, event := "" }

/-- An entry that is being read, and the members that it has got. -/
structure Draft where
  entry : Entry := blank
  seen : List Field := []

/-- Reads one member into a draft, out of a text of `size` characters. -/
def readMember (size : Nat) (d : Draft) : Reader EntryProblem Draft := fun cs => do
  match cs with
  | '"' :: rest =>
    let (key, rest) ← Json.readString rest
    match Field.ofKey? key with
    | none =>
      let rest ← Json.readMark ':' rest
      return (d, ← Json.skipValue size rest)
    | some field =>
      if field ∈ d.seen then .error (.refused (.repeated field.key))
      else
        let rest ← Json.readMark ':' rest
        let (e, rest) ← readField size field d.entry rest
        return (⟨e, field :: d.seen⟩, rest)
  | _ => .error .malformed

/-- The entry of a draft, unless a member is missing. -/
def finish (d : Draft) : Except (ReadError EntryProblem) Entry :=
  match Field.all.find? fun f => f.isRequired && f ∉ d.seen with
  | some field => .error (.refused (.missing field.key))
  | none => .ok d.entry

/--
Reads the values of the positional form, one for each field that is left, out of
a text of `size` characters.
-/
def readPositions (size index : Nat) (e : Entry) : List Field → Reader EntryProblem Entry
  | [], cs => do return (e, ← Json.readMark ']' cs)
  | field :: fields, cs => do
    match ← Json.nextItem ']' (index == 0) cs with
    | .done _ => .error (.refused (.tooShort index))
    | .item rest =>
      let (e, rest) ← readField size field e rest
      readPositions size (index + 1) e fields rest

/-- Reads an entry in either form, out of a text of `size` characters. -/
def read (size : Nat) : Reader EntryProblem Entry := fun cs =>
  match Json.skipGap cs with
  | [] => .error .malformed
  | c :: rest =>
    if c = '[' then readPositions size 0 blank Field.all rest
    else if c = '\x7b' then do
      let (d, rest) ← Json.readItems size '\x7d' (readMember size) {} rest
      return (← finish d, rest)
    else refuse "struct LogEntry" (c :: rest)

/-- The entry that a text holds, or the first problem with it. -/
def parse (s : String) : Except (ReadError EntryProblem) Entry :=
  read s.length s.toList >>= Json.endOfText

end Entry

end Linkage.Log
