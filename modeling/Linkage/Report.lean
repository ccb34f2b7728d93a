import Linkage.Json.Printer
import Linkage.Linker
import Linkage.Status

/-!
# Reports

Three reports for people and for machines, written as pretty JSON:

* the status of a lookup, with the digest of the helper library in use;
* the fallback table, slot by slot;
* a probe, which says for each of some names where its address comes from.
-/

namespace Linkage

/-- Why a report cannot be made. -/
inductive ReportError
  | io (e : FileError)
  | json (e : JsonRefusal)
  | lookup (e : InitError)
  deriving DecidableEq

namespace ReportError

/-- The wording of a report error. -/
def message : ReportError → String
  | .io e => "io: " ++ e.message
  | .json e => "json: " ++ e.message
  | .lookup e => "lookup: " ++ e.message

/-- A report error as diagnostics show it. -/
def quoted : ReportError → String
  | .io e => "Io(" ++ e.quoted ++ ")"
  | .json e => "Json(Error(" ++ Quoted.text e.message ++ ", line: 0, column: 0))"
  | .lookup e => "Lookup(" ++ e.quoted ++ ")"

end ReportError

/-- The digest of the file at a path by some hash function, in hexadecimal. -/
def FileSystem.digest (fs : FileSystem) (hash : Bytes → Bytes) (p : Path) :
    Except FileError String :=
  (fs.read p).map fun content => Numeral.hexText (hash content)

/-! ## Status reports -/

/-- A status, and the digest of the helper library in use. -/
structure StatusReport where
  status : Status
  helperDigest : Option String
  deriving DecidableEq

namespace StatusReport

/-- The path of the helper library in use. On POSIX it is the primary library. -/
def helperPath (s : Status) : Option Path :=
  match s.runtime with
  | some .side => s.primaryLibrary
  | _ => s.helperLibrary

/-- The report on a lookup; a helper that cannot be read has no digest. -/
def ofLookup (l : SystemLookup) (hash : Bytes → Bytes) (fs : FileSystem) : StatusReport where
  status := l.status
  helperDigest := helperPath l.status >>= fun path => (fs.digest hash path).toOption

/-- The report as a JSON object. -/
def toJson (r : StatusReport) : Except JsonRefusal Json :=
  r.status.members.map fun members =>
    .obj (members ++ Json.optional "helper_sha256" (r.helperDigest.map .str))

/-- The text of the report. -/
def text (r : StatusReport) : Except JsonRefusal String := r.toJson.map Json.pretty

end StatusReport

/-! ## Table reports -/

/-- The slot as a JSON object. -/
def FallbackSlot.toJson (s : FallbackSlot) : Json :=
  .obj [("ordinal", .int s.ordinal), ("name", .str s.name)]

namespace FallbackTable

/-- The report on a table. -/
def report (t : FallbackTable) : Json :=
  .obj [("array_symbol", .str arrayName), ("slots", .arr (t.slots.map FallbackSlot.toJson))]

/-- The text of the report on a table. -/
def reportText (t : FallbackTable) : String := t.report.pretty

end FallbackTable

/-! ## Probes -/

/-- Where a probe looks. -/
inductive ProbeSource
  /-- In the system lookup. -/
  | system
  /-- In the process and all that it has loaded. -/
  | process
  deriving DecidableEq

/-- The name of a place to look. -/
def ProbeSource.name : ProbeSource → String
  | .system => "system"
  | .process => "process"

/-- What a probe says of one name. -/
structure ProbeEntry where
  name : String
  found : Bool := false
  address : Option String := none
  origin : Option String := none
  error : Option String := none
  deriving DecidableEq

namespace ProbeEntry

/-- The entry for a name and what came of resolving it. -/
def ofResult (name : String) : Except NameError (Option Resolution) → ProbeEntry
  | .error e => { name, error := some e.message }
  | .ok none => { name }
  | .ok (some r) =>
    { name, found := true, address := some r.symbol.text, origin := some r.origin.text }

/-- The entry as a JSON object. -/
def toJson (e : ProbeEntry) : Json :=
  .obj <|
    [("name", .str e.name), ("found", .bool e.found)] ++
    Json.optional "address" (e.address.map .str) ++
    Json.optional "origin" (e.origin.map .str) ++
    Json.optional "error" (e.error.map .str)

end ProbeEntry

/-- What a probe says of some names, in their order. -/
structure ProbeReport where
  source : ProbeSource
  results : List ProbeEntry
  deriving DecidableEq

namespace ProbeReport

/-- Probes a lookup. -/
def ofLookup (l : SystemLookup) (names : List String) : ProbeReport where
  source := .system
  results := names.map fun name => .ofResult name (l.resolve name)

/-- Probes the process. -/
def ofProcess (linker : Linker) (names : List String) : Except ReportError ProbeReport :=
  match linker.processLibrary with
  | .error e => .error (.lookup e)
  | .ok library =>
    .ok {
      source := .process
      results := names.map fun name =>
        .ofResult name ((SymbolName.ofString name).map library.resolve) }

/-- How many names were found. -/
def found (r : ProbeReport) : Nat := r.results.countP (·.found)

/-- The report as a JSON object. -/
def toJson (r : ProbeReport) : Json :=
  .obj [("source", .str r.source.name), ("results", .arr (r.results.map ProbeEntry.toJson))]

/-- The text of the report. -/
def text (r : ProbeReport) : String := r.toJson.pretty

end ProbeReport

end Linkage
