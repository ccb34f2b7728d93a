import Linkage.Text.Utf8

/-!
# Hashes of names

Libraries keep their exports and their versions by hashes of the names. There are two
kinds of these.
-/

namespace Linkage.Native.Hash

/-- The hash of a name in the old table, and of the name of a version. -/
def old (name : Bytes) : UInt32 :=
  name.foldl
    (fun h b =>
      let h := h <<< 4 + b.toUInt32
      let high := h &&& 0xF0000000
      (h ^^^ (high >>> 24)) &&& ~~~high)
    0

/-- The hash of a name in the new table. -/
def new (name : Bytes) : UInt32 := name.foldl (fun h b => h * 33 + b.toUInt32) 5381

end Linkage.Native.Hash
