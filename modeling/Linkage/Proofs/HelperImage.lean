import Linkage.Proofs.HelperInterface

/-!
# What the reader makes of an image

An image is written slot by slot: an address in each, or a null where one is asked
for, and any word behind the last slot. The reader knows nothing of images. It
stops at the first null slot and looks at the terminator only if there is none. So
a null among the slots is what is reported, whatever the terminator is, and a null
that is asked for behind the slots is none at all.

Opening an image tells about the reader only because its addresses are known: an
address is a word exactly if no step of its arithmetic wraps around, and then it
tells its ordinal.
-/

namespace Linkage.Scripted

open FallbackTable (universal EndsAfter)

theorem size_universal : universal.size = 52 := rfl

/-! ## The addresses in the slots -/

theorem slotAddress_eq_ok_iff {ordinal : Nat} {w : Word} :
    slotAddress ordinal = .ok w ↔ w.toNat = firstSlot + slotStep * ordinal := by
  have hword : w.toNat < wordBound := w.toNat_lt
  unfold slotAddress
  by_cases hproduct : wordBound ≤ slotStep * ordinal
  · rw [if_pos hproduct]
    refine iff_of_false (by simp) ?_
    omega
  · by_cases hsum : wordBound ≤ firstSlot + slotStep * ordinal
    · rw [if_neg hproduct, if_pos hsum]
      refine iff_of_false (by simp) ?_
      omega
    · rw [if_neg hproduct, if_neg hsum]
      have hfits : firstSlot + slotStep * ordinal < UInt64.size := Nat.not_le.mp hsum
      constructor
      · intro h
        rw [← Except.ok.inj h, UInt64.toNat_ofNat_of_lt' hfits]
      · intro h
        rw [← h, UInt64.ofNat_toNat]

/-- An address tells its ordinal. -/
theorem slotAddress_injective {i j : Nat} {w : Word} (hi : slotAddress i = .ok w)
    (hj : slotAddress j = .ok w) : i = j := by
  have hsame := (slotAddress_eq_ok_iff.mp hi).symm.trans (slotAddress_eq_ok_iff.mp hj)
  unfold slotStep at hsame
  omega

theorem slotAddress_ne_zero {i : Nat} {w : Word} (h : slotAddress i = .ok w) : w ≠ 0 := by
  rintro rfl
  have hzero : 0 = firstSlot + slotStep * i := slotAddress_eq_ok_iff.mp h
  unfold firstSlot at hzero
  omega

/-- Every slot of an image has an address. -/
theorem exists_slotAddress {i : Nat} (h : i < universal.size) : ∃ w, slotAddress i = .ok w := by
  have hfits : firstSlot + slotStep * i < UInt64.size := by
    rw [size_universal] at h
    unfold firstSlot slotStep UInt64.size
    omega
  exact ⟨UInt64.ofNat (firstSlot + slotStep * i),
    slotAddress_eq_ok_iff.mpr (UInt64.toNat_ofNat_of_lt' hfits)⟩

/-- No two slots have the same address, and none is null. -/
theorem exists_ownAddress {i : Nat} (h : i < universal.size) :
    ∃ w, slotAddress i = .ok w ∧ w ≠ 0 ∧ ∀ j, slotAddress j = .ok w → j = i := by
  obtain ⟨w, hw⟩ := exists_slotAddress h
  exact ⟨w, hw, slotAddress_ne_zero hw, fun j hj => slotAddress_injective hj hw⟩

/-- Every slot of an image is that of a name. -/
theorem exists_nameAt {i : Nat} (h : i < universal.size) :
    ∃ name : SymbolName, universal.names[i]? = some name.text := by
  rw [← Helper.slotCount_eq] at h
  obtain ⟨name, htext⟩ := Helper.exists_slotName h
  refine ⟨name, ?_⟩
  rw [htext, ← Helper.slotNames_eq]
  exact List.getElem?_eq_getElem h

/-! ## The words of an image -/

section

variable {nullAt : Option Nat} {terminator : Word} {library : Library} {base : Symbol}

theorem length_image : (image nullAt terminator).length = universal.size + 1 := by
  simp [image]

/-- A slot is null where a null was asked for. -/
theorem element_of_null (h : library.Holds base (image nullAt terminator)) {i : Nat}
    (hi : i < universal.size) (hnull : nullAt = some i) : library.element base i = 0 := by
  rw [h i (by rw [length_image]; omega)]
  simp [image, hi, slotWord, hnull]

/-- A slot has its own address everywhere else. -/
theorem slotAddress_element (h : library.Holds base (image nullAt terminator)) {i : Nat}
    (hi : i < universal.size) (hnull : nullAt ≠ some i) :
    slotAddress i = .ok (library.element base i) := by
  obtain ⟨w, hw⟩ := exists_slotAddress hi
  rw [h i (by rw [length_image]; omega), hw]
  simp [image, hi, slotWord, hnull, hw, Except.toOption]

theorem element_size (h : library.Holds base (image nullAt terminator)) :
    library.element base universal.size = terminator := by
  rw [h universal.size (by rw [length_image]; omega)]
  simp [image]

theorem element_ne_zero (h : library.Holds base (image nullAt terminator)) {i : Nat}
    (hi : i < universal.size) (hnull : nullAt ≠ some i) : library.element base i ≠ 0 :=
  slotAddress_ne_zero (slotAddress_element h hi hnull)

/-- An image ends at its null slot. -/
theorem endsAfter_of_null (h : library.Holds base (image nullAt terminator)) {i : Nat}
    (hi : i < universal.size) (hnull : nullAt = some i) : EndsAfter (library.element base) i where
  filled j hj := by
    have hne : nullAt ≠ some j := by
      rw [hnull]
      intro heq
      exact absurd (Option.some.inj heq) (Nat.ne_of_gt hj)
    exact element_ne_zero h (Nat.lt_trans hj hi) hne
  ended := element_of_null h hi hnull

/-! ## Opening an image -/

/-- What can come of reading an image, and when. -/
inductive ImageReading (nullAt : Option Nat) (terminator : Word) :
    Except InitError FallbackLookup → Prop where
  /-- A null slot is reported by its place and the name there, whatever the terminator is. -/
  | null {i : Nat} {name : String} :
      universal.names[i]? = some name → nullAt = some i →
      ImageReading nullAt terminator (.error (.slotNull i name))
  | unterminated :
      (∀ i, nullAt = some i → 52 ≤ i) → terminator ≠ 0 →
      ImageReading nullAt terminator (.error (.unterminated 52))
  | accepted {lookup : FallbackLookup} :
      (∀ i, nullAt = some i → 52 ≤ i) → terminator = 0 →
      (∀ (i : Nat) (name : SymbolName), universal.names[i]? = some name.text →
        ∃ symbol, slotAddress i = .ok symbol.address ∧
          lookup.resolve name = some ⟨symbol, .fallback i⟩) →
      ImageReading nullAt terminator (.ok lookup)

theorem imageReading (hbase : library.export? FallbackLookup.arrayKey = some base)
    (hwords : library.Holds base (image nullAt terminator)) (path : Path) :
    ImageReading nullAt terminator (FallbackLookup.ofHelper ⟨library, path⟩ universal) := by
  by_cases hasNull : ∃ i, nullAt = some i ∧ i < universal.size
  · -- the image ends there, so what stands behind is never asked for
    obtain ⟨i, hnull, hi⟩ := hasNull
    have hname : universal.names[i]? = some _ := List.getElem?_eq_getElem hi
    rw [FallbackLookup.ofHelper_of_refused
      (.nullSlot hbase hname (endsAfter_of_null hwords hi hnull))]
    exact .null hname hnull
  · -- every slot has its address, and the terminator decides
    have hnull : ∀ i < universal.size, nullAt ≠ some i :=
      fun i hi heq => hasNull ⟨i, heq, hi⟩
    have hbehind : ∀ i, nullAt = some i → 52 ≤ i :=
      fun i heq => Nat.not_lt.mp fun hlt => hnull i hlt heq
    have hfilled : ∀ i < universal.size, library.element base i ≠ 0 :=
      fun i hi => element_ne_zero hwords hi (hnull i hi)
    have hlast := element_size hwords
    rcases FallbackLookup.ofHelper_cases ⟨library, path⟩ universal with
      ⟨cause, hread, hrefused⟩ | ⟨base', lookup, hread, hbase', hends, -, -, hserves⟩
    · have hend : terminator ≠ 0 := by
        rw [← hlast]
        exact fun h0 => hrefused.not_endsAfter hbase ⟨hfilled, h0⟩
      have hunterminated : FallbackLookup.Refused ⟨library, path⟩ universal _ :=
        .unterminated hbase hfilled fun h0 => hend (hlast.symm.trans h0)
      rw [FallbackLookup.ofHelper_of_refused hunterminated]
      exact .unterminated hbehind hend
    · obtain rfl := Option.some.inj (hbase.symm.trans hbase')
      rw [hread]
      refine .accepted hbehind (hlast.symm.trans hends.ended) fun i name hname => ?_
      have hi : i < universal.size := (List.getElem?_eq_some_iff.mp hname).1
      obtain ⟨symbol, haddress, hresolve⟩ := hserves.hit name i hname
      refine ⟨symbol, ?_, hresolve⟩
      rw [haddress]
      exact slotAddress_element hwords hi (hnull i hi)

/--
**Reading an image tells exactly what was put into it.**

Wherever a null was asked for and whatever stands behind the last slot, an image is accepted
exactly if its terminator is null and none of its slots is. Then every name is found at the address
of its slot, and no two slots have the same one. Else the null slot is reported if there is one, and
the terminator if there is none.
-/
theorem openFallback_image {loader : Loader} {path : Path}
    (hload : loader.load path = .ok library)
    (hbase : library.export? FallbackLookup.arrayKey = some base)
    (hwords : library.Holds base (image nullAt terminator)) :
    let opened := (Setup.openFallback loader path universal).outcome
    ((∃ lookup, opened = .ok lookup) ↔ terminator = 0 ∧ ∀ i, nullAt = some i → 52 ≤ i) ∧
    (∀ lookup, opened = .ok lookup → ∀ i < 52, ∃ (name : SymbolName) (symbol : Symbol),
      universal.names[i]? = some name.text ∧ slotAddress i = .ok symbol.address ∧
        lookup.resolve name = some ⟨symbol, .fallback i⟩) ∧
    (∀ i < 52, ∃ w, slotAddress i = .ok w ∧ w ≠ 0 ∧ ∀ j, slotAddress j = .ok w → j = i) ∧
    (∀ i < 52, nullAt = some i → ∃ name, universal.names[i]? = some name ∧
      opened = .error (.failed (.slotNull i name))) ∧
    (terminator ≠ 0 → (∀ i, nullAt = some i → 52 ≤ i) →
      opened = .error (.failed (.unterminated 52))) := by
  intro opened
  have hreading := imageReading hbase hwords path
  generalize hread : FallbackLookup.ofHelper ⟨library, path⟩ universal = reading at hreading
  have haddresses : ∀ i < 52, ∃ w, slotAddress i = .ok w ∧ w ≠ 0 ∧
      ∀ j, slotAddress j = .ok w → j = i := fun _ hi => exists_ownAddress hi
  cases hreading with
  | @null i name hname hnull =>
      have hopened : opened = .error (.failed (.slotNull i name)) :=
        congrArg Attempt.outcome (Setup.openFallback_of_error hload hread)
      have hi : i < 52 := (List.getElem?_eq_some_iff.mp hname).1
      rw [hopened]
      refine ⟨iff_of_false (by simp) ?_, fun _ h => absurd h (by simp), haddresses, ?_, ?_⟩
      · exact fun h => absurd (h.2 i hnull) (Nat.not_le.mpr hi)
      · intro j hj hnull'
        obtain rfl := Option.some.inj (hnull.symm.trans hnull')
        exact ⟨name, hname, rfl⟩
      · exact fun _ hbehind => absurd (hbehind i hnull) (Nat.not_le.mpr hi)
  | unterminated hnull hend =>
      have hopened : opened = .error (.failed (.unterminated 52)) :=
        congrArg Attempt.outcome (Setup.openFallback_of_error hload hread)
      rw [hopened]
      refine ⟨iff_of_false (by simp) ?_, fun _ h => absurd h (by simp), haddresses, ?_, ?_⟩
      · exact fun h => hend h.1
      · exact fun i hi hnull' => absurd (hnull i hnull') (Nat.not_le.mpr hi)
      · exact fun _ _ => rfl
  | @accepted lookup hnull hend hserved =>
      have hopened : opened = .ok lookup :=
        congrArg Attempt.outcome (Setup.openFallback_of_ok hload hread)
      rw [hopened]
      refine ⟨iff_of_true ⟨lookup, rfl⟩ ⟨hend, hnull⟩, ?_, haddresses, ?_, ?_⟩
      · intro lookup' h i hi
        obtain rfl := Except.ok.inj h
        obtain ⟨name, hname⟩ := exists_nameAt hi
        obtain ⟨symbol, haddress, hresolve⟩ := hserved i name hname
        exact ⟨name, symbol, hname, haddress, hresolve⟩
      · exact fun i hi hnull' => absurd (hnull i hnull') (Nat.not_le.mpr hi)
      · exact fun hne _ => absurd hend hne

end

/--
A null that is asked for behind the slots does no harm. One in the fourth slot is what is reported,
although the terminator is no null either.
-/
theorem openFallback_image_misplaced :
    let path := Path.ofString "/opt/app/bin/syslookup.dll"
    let helper nullAt terminator := ScriptedLibrary.helper 0x60000000 (image nullAt terminator)
    let opened nullAt terminator := (Setup.openFallback
      (ScriptedLoader.serving {} path (helper nullAt terminator)).toLoader path universal).outcome
    (∃ lookup, opened (some 60) 0 = .ok lookup ∧
      lookup.resolve ⟨"gmtime", by decide, by decide⟩ =
        some ⟨⟨0x70000330, by decide⟩, .fallback 51⟩) ∧
    opened (some 3) 7 = .error (.failed (.slotNull 3 "fscanf_s")) := by
  intro path helper opened
  have hload : ∀ nullAt terminator,
      (ScriptedLoader.serving {} path (helper nullAt terminator)).toLoader.load path =
        .ok (helper nullAt terminator).toLibrary :=
    fun _ _ => ScriptedLoader.load_of_library? rfl
  have hwords : ∀ nullAt terminator, (helper nullAt terminator).toLibrary.Holds
      ⟨0x60000000, by decide⟩ (image nullAt terminator) := by
    intro nullAt terminator
    refine ScriptedLibrary.holds_helper ⟨0x60000000, by decide⟩ ?_
    rw [length_image]
    decide
  constructor
  · obtain ⟨haccepted, hserved, -⟩ := openFallback_image (hload (some 60) 0) rfl (hwords _ _)
    have hbehind : ∀ i, some 60 = some i → 52 ≤ i := by
      intro i hi
      obtain rfl := Option.some.inj hi
      decide
    obtain ⟨lookup, hlookup⟩ := haccepted.mpr ⟨rfl, hbehind⟩
    obtain ⟨name, symbol, hname, haddress, hresolve⟩ := hserved lookup hlookup 51 (by decide)
    have hgmtime : name = ⟨"gmtime", by decide, by decide⟩ := by
      obtain ⟨text, hne, hnul⟩ := name
      obtain rfl : "gmtime" = text := Option.some.inj hname
      rfl
    have hsymbol : symbol = ⟨0x70000330, by decide⟩ := by
      obtain ⟨address, hne⟩ := symbol
      obtain rfl : 0x70000330 = address := Except.ok.inj haddress
      rfl
    exact ⟨lookup, hlookup, by rw [← hgmtime, ← hsymbol]; exact hresolve⟩
  · obtain ⟨-, -, -, hnull, -⟩ := openFallback_image (hload (some 3) 7) rfl (hwords _ _)
    obtain ⟨name, hname, hopened⟩ := hnull 3 (by decide) rfl
    obtain rfl : "fscanf_s" = name := Option.some.inj hname
    exact hopened

end Linkage.Scripted
