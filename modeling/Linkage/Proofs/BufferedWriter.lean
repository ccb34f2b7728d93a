import Linkage.Proofs.FileAccess

/-!
# A buffer in front of a file

A writer can keep octets back until there are many, so that its file is asked to take
them all at once. At each moment the file and what is kept back make up what was put
(`Buffered.put_spec`). A writer that hands everything over behind each line has nothing
left between the lines, and so a line reaches its file in one piece, however small the
buffer is.
-/

namespace Linkage

namespace FileSystem

variable {fs : FileSystem} {at_ : Location} {content : Bytes}

theorem append_eq (h : fs.look at_ = some (.file content)) (octets : Bytes) :
    fs.append at_ octets = .ok (fs.put at_ (.file (content ++ octets))) := by
  unfold append
  rw [h]

/-- To put what is there already changes nothing. -/
theorem put_look {node : FileNode} (h : fs.look at_ = some node) (hdir : node ≠ .directory) :
    fs.put at_ node = fs := by
  have hroot : at_ ≠ [] := ne_root_of_look h (by simpa using hdir)
  simp only [put]
  congr 1
  funext l
  split
  · rename_i hl
    rw [hl, ← h, look, if_neg hroot]
  · rfl

end FileSystem

namespace Log

/-! ## The writer -/

/-- A writer that keeps octets back until its buffer is full. -/
structure Buffered where
  capacity : Nat
  kept : Bytes := []
  deriving DecidableEq

namespace Buffered

/-- Hands over what is kept back. -/
def flush (b : Buffered) (fs : FileSystem) (at_ : Location) :
    Except FileError (Buffered × FileSystem) :=
  if b.kept = [] then .ok (b, fs)
  else (fs.append at_ b.kept).map fun fs => ({ b with kept := [] }, fs)

/-- Takes octets. What does not fit pushes out what is kept, and may be too long to be kept. -/
def put (b : Buffered) (octets : Bytes) (fs : FileSystem) (at_ : Location) :
    Except FileError (Buffered × FileSystem) := do
  let (b, fs) ←
    if b.capacity < b.kept.length + octets.length then b.flush fs at_ else .ok (b, fs)
  if b.capacity ≤ octets.length then
    (fs.append at_ octets).map fun fs => (b, fs)
  else .ok ({ b with kept := b.kept ++ octets }, fs)

/-- Writes a line and its line break, and then hands over what is kept back. -/
def writeLine (b : Buffered) (line : String) (fs : FileSystem) (at_ : Location) :
    Except FileError (Buffered × FileSystem) := do
  let (b, fs) ← b.put (Utf8.encode line) fs at_
  let (b, fs) ← b.put (Utf8.encode "\n") fs at_
  b.flush fs at_

/-! ## What it hands over -/

variable {b : Buffered} {fs : FileSystem} {at_ : Location} {content : Bytes}

/-- What is kept back comes behind what the file holds. -/
theorem flush_eq (h : fs.look at_ = some (.file content)) :
    b.flush fs at_ =
      .ok ({ b with kept := [] }, fs.put at_ (.file (content ++ b.kept))) := by
  unfold flush
  split
  · rename_i hkept
    obtain ⟨capacity, kept⟩ := b
    obtain rfl : kept = [] := hkept
    rw [List.append_nil, FileSystem.put_look h (by simp)]
  · rw [FileSystem.append_eq h]
    rfl

/-- **Nothing is lost or overtaken**: the file and what is kept back make up all that was put. -/
theorem put_spec (h : fs.look at_ = some (.file content)) (octets : Bytes) :
    ∃ content' kept', content' ++ kept' = content ++ b.kept ++ octets ∧
      b.put octets fs at_ = .ok (⟨b.capacity, kept'⟩, fs.put at_ (.file content')) := by
  have hroot : at_ ≠ [] := FileSystem.ne_root_of_look h (by simp)
  unfold put
  by_cases hfull : b.capacity < b.kept.length + octets.length
  · rw [if_pos hfull, flush_eq h]
    have hlook := FileSystem.look_put fs hroot (.file (content ++ b.kept))
    by_cases hlong : b.capacity ≤ octets.length
    · refine ⟨content ++ b.kept ++ octets, [], by simp, ?_⟩
      simp [hlong, bind, Except.bind, Except.map, FileSystem.append_eq hlook, FileSystem.put_put]
    · refine ⟨content ++ b.kept, octets, rfl, ?_⟩
      simp [hlong, bind, Except.bind]
  · rw [if_neg hfull]
    by_cases hlong : b.capacity ≤ octets.length
    · -- there is room for octets as long as the buffer only if it is empty
      have hkept : b.kept = [] := List.eq_nil_of_length_eq_zero (by omega)
      refine ⟨content ++ octets, [], by simp [hkept], ?_⟩
      obtain ⟨capacity, kept⟩ := b
      obtain rfl : kept = [] := hkept
      simp only at hlong
      simp [hlong, bind, Except.bind, Except.map, FileSystem.append_eq h]
    · refine ⟨content, b.kept ++ octets, by simp, ?_⟩
      simp [hlong, bind, Except.bind, FileSystem.put_look h]

/--
**A line reaches its file in one piece**, whatever the capacity of the buffer is, and
leaves nothing behind in it.
-/
theorem writeLine_eq (h : fs.look at_ = some (.file content)) (capacity : Nat) (line : String) :
    writeLine ⟨capacity, []⟩ line fs at_ =
      (fs.append at_ (Utf8.encode (line ++ "\n"))).map fun fs => (⟨capacity, []⟩, fs) := by
  have hroot : at_ ≠ [] := FileSystem.ne_root_of_look h (by simp)
  obtain ⟨content₁, kept₁, hsum₁, hput₁⟩ :=
    put_spec (b := ⟨capacity, []⟩) h (Utf8.encode line)
  obtain ⟨content₂, kept₂, hsum₂, hput₂⟩ :=
    put_spec (b := ⟨capacity, kept₁⟩) (FileSystem.look_put fs hroot (.file content₁))
      (Utf8.encode "\n")
  have hflush := flush_eq (b := ⟨capacity, kept₂⟩)
    (FileSystem.look_put fs hroot (.file content₂))
  have hall : content₂ ++ kept₂ = content ++ Utf8.encode (line ++ "\n") := by
    rw [hsum₂, hsum₁, Utf8.encode_append]
    simp
  rw [FileSystem.put_put] at hput₂
  rw [FileSystem.put_put, hall] at hflush
  rw [FileSystem.append_eq h]
  simp only [writeLine, hput₁, hput₂, hflush, bind, Except.bind, Except.map]

end Buffered

end Log

end Linkage
