/-!
# Fallback tables

A fallback table lists the names that a helper library serves. The position of a
name is its *ordinal*, and the helper keeps the address at that ordinal of its
pointer array; the order of the names is therefore a binary interface. Names in
a table are pairwise distinct, so that a name has one ordinal.
-/

namespace Linkage

/-- A table of distinct names. -/
structure FallbackTable where
  names : List String
  nodup : names.Nodup

/-- A name with its ordinal. -/
structure FallbackSlot where
  name : String
  ordinal : Nat
  deriving DecidableEq

namespace FallbackTable

/-- The first name that occurred before, looking from the front. -/
def firstRepeated? (seen : List String) : List String → Option String
  | [] => none
  | n :: rest => if n ∈ seen then some n else firstRepeated? (n :: seen) rest

theorem nodup_of_firstRepeated?_eq_none {seen names : List String}
    (h : firstRepeated? seen names = none) : names.Nodup ∧ ∀ n ∈ names, n ∉ seen := by
  induction names generalizing seen with
  | nil => simp
  | cons n rest ih =>
    by_cases hn : n ∈ seen
    · simp [firstRepeated?, hn] at h
    · rw [firstRepeated?, if_neg hn] at h
      obtain ⟨hrest, hout⟩ := ih h
      refine ⟨List.nodup_cons.2 ⟨fun hm => hout n hm (by simp), hrest⟩, ?_⟩
      intro m hm
      rcases List.mem_cons.1 hm with rfl | hm
      · exact hn
      · exact fun hs => hout m hm (by simp [hs])

/-- The table of some names, or the first name among them that is repeated. -/
def ofNames (names : List String) : Except String FallbackTable :=
  match h : firstRepeated? [] names with
  | some n => .error n
  | none => .ok ⟨names, (nodup_of_firstRepeated?_eq_none h).1⟩

/-- The wording of the refusal of names of which this one is repeated. -/
def repetitionMessage (name : String) : String := "duplicate fallback symbol " ++ name

/-- How many names the table has. -/
def size (t : FallbackTable) : Nat := t.names.length

/-- The ordinal of a name. -/
def ordinal? (t : FallbackTable) (name : String) : Option Nat := t.names.findIdx? (· == name)

/-- The table has a name. -/
def contains (t : FallbackTable) (name : String) : Bool := (t.ordinal? name).isSome

/-- The slot at an ordinal. -/
def slot? (t : FallbackTable) (ordinal : Nat) : Option FallbackSlot :=
  t.names[ordinal]?.map fun name => ⟨name, ordinal⟩

/-- All slots, by ordinal. -/
def slots (t : FallbackTable) : List FallbackSlot :=
  t.names.zipIdx.map fun (name, ordinal) => ⟨name, ordinal⟩

/--
The names that the universal C runtime provides only as inline functions: the
formatted input and output family, and `gmtime`.
-/
def universalNames : List String :=
  ["fprintf", "fprintf_s", "fscanf", "fscanf_s", "fwprintf", "fwprintf_s", "fwscanf", "fwscanf_s",
   "printf", "printf_s", "scanf", "scanf_s", "snprintf", "sprintf", "sprintf_s", "sscanf",
   "sscanf_s", "swprintf", "swprintf_s", "swscanf", "swscanf_s", "vfprintf", "vfprintf_s",
   "vfscanf", "vfscanf_s", "vfwprintf", "vfwprintf_s", "vfwscanf", "vfwscanf_s", "vprintf",
   "vprintf_s", "vscanf", "vscanf_s", "vsnprintf", "vsnprintf_s", "vsprintf", "vsprintf_s",
   "vsscanf", "vsscanf_s", "vswprintf", "vswprintf_s", "vswscanf", "vswscanf_s", "vwprintf",
   "vwprintf_s", "vwscanf", "vwscanf_s", "wprintf", "wprintf_s", "wscanf", "wscanf_s", "gmtime"]

/-- The table that stands behind the universal C runtime. -/
def universal : FallbackTable := ⟨universalNames, by decide⟩

/-- The name under which a helper library exports its pointer array. -/
def arrayName : String := "funcs"

end FallbackTable

end Linkage
