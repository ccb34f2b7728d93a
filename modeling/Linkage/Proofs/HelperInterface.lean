import Linkage.Helper
import Linkage.Proofs.Resolution
import Linkage.Scripted.Fixture
import Linkage.Status

/-!
# The helper's array is the one that the lookup reads

The helper library is built on its own: it lists the names of its slots and puts
a pointer into each, in that order, and a null pointer behind the last. The
lookup has a table of names of its own and reads the array by ordinals. That the
two lists are the same list, and the reader's rule the writer's rule, is what
makes a name reach its own function.
-/

namespace Linkage

/-- Some words stand side by side in the memory of a library, from an address on. -/
def Library.Holds (l : Library) (base : Symbol) (words : List Word) : Prop :=
  ∀ i (h : i < words.length), l.element base i = words[i]

/-! ## An array in memory -/

/-- An array that fits into the address space is found word by word. -/
theorem ScriptedLibrary.holds_helper (base : Symbol) {words : List Word}
    (h : wordSize * words.length ≤ UInt64.size) :
    (ScriptedLibrary.helper base.address words).toLibrary.Holds base words := by
  intro i hi
  show Memory.ofWords base.address words (base.address + UInt64.ofNat (wordSize * i)) = words[i]
  have hdistance :
      (base.address + UInt64.ofNat (wordSize * i) - base.address).toNat = wordSize * i := by
    have hlt : wordSize * i < UInt64.size := by
      unfold wordSize at h ⊢
      omega
    rw [UInt64.add_comm, UInt64.add_sub_cancel, UInt64.toNat_ofNat_of_lt' hlt]
  unfold Memory.ofWords
  dsimp only
  rw [hdistance, Nat.mul_mod_right, if_pos rfl, Nat.mul_div_cancel_left i (by decide)]
  simp [hi]

namespace Helper

/-! ## The two lists are one -/

theorem slotNames_eq : slotNames = FallbackTable.universal.names := by decide

theorem slotCount_eq : slotCount = FallbackTable.universal.size :=
  congrArg List.length slotNames_eq

/-- Every slot is named by a text that can be looked up. -/
theorem exists_slotName {i : Nat} (h : i < slotNames.length) :
    ∃ n : SymbolName, n.text = slotNames[i] := by
  have hnames : ∀ name ∈ slotNames, name ≠ "" ∧ '\x00' ∉ name.toList := by decide
  obtain ⟨hne, hnul⟩ := hnames slotNames[i] (List.getElem_mem h)
  exact ⟨⟨slotNames[i], hne, hnul⟩, rfl⟩

/-- A slot is found by its name at its own place. -/
theorem idxOf?_slotNames {i : Nat} {name : String} (h : slotNames[i]? = some name) :
    slotNames.idxOf? name = some i := by
  rw [slotNames_eq] at h ⊢
  exact FallbackTable.ordinal?_eq_some_iff.mpr h

variable {symbols : Nat → Symbol}

theorem length_array : (array fun i => (symbols i).address).length = slotCount + 1 := by
  simp [array]

theorem array_slot {i : Nat} (h : i < slotCount)
    (hi : i < (array fun i => (symbols i).address).length) :
    (array fun i => (symbols i).address)[i] = (symbols i).address := by
  simp [array, h]

theorem array_end (hi : slotCount < (array fun i => (symbols i).address).length) :
    (array fun i => (symbols i).address)[slotCount] = 0 := by
  simp [array]

/-! ## The reader takes over what the helper has put down -/

/-- A helper's array is accepted, and each slot gives the pointer that was put there. -/
theorem ofHelper_array (helper : OpenLibrary) {base : Symbol}
    (hbase : helper.library.export? FallbackLookup.arrayKey = some base)
    (hwords : helper.library.Holds base (array fun i => (symbols i).address)) :
    ∃ accepted, FallbackLookup.ofHelper helper .universal =
        .ok ⟨FallbackTable.universal, accepted, helper⟩ ∧
      ∀ n : SymbolName, FallbackLookup.resolve ⟨.universal, accepted, helper⟩ n =
        (slotNames.idxOf? n.text).map fun i => ⟨symbols i, .fallback i⟩ := by
  have hslot : ∀ i, i < slotCount → helper.library.element base i = (symbols i).address := by
    intro i hi
    rw [hwords i (by rw [length_array]; omega), array_slot hi]
  have hfilled : ∀ i < FallbackTable.universal.size, helper.library.element base i ≠ 0 := by
    intro i hi
    rw [hslot i (slotCount_eq ▸ hi)]
    exact (symbols i).ne_zero
  have hne : ∀ s ∈ FallbackTable.universal.slots, helper.library.element base s.ordinal ≠ 0 :=
    FallbackTable.forall_slots_iff (p := (helper.library.element base · ≠ 0)).mpr hfilled
  have hend : helper.library.element base FallbackTable.universal.size = 0 := by
    rw [← slotCount_eq, hwords slotCount (by rw [length_array]; omega), array_end]
  obtain ⟨accepted, hread, hfill⟩ := FallbackLookup.ofHelper_accepts hbase hne hend
  refine ⟨accepted, hread, fun n => ?_⟩
  rw [FallbackLookup.resolve_of_fills hfill, slotNames_eq]
  show (FallbackTable.universal.ordinal? n.text).bind _ =
    (FallbackTable.universal.ordinal? n.text).map _
  cases hi : FallbackTable.universal.ordinal? n.text with
  | none => rfl
  | some i =>
      have hlt : i < slotCount := by
        rw [slotCount_eq]
        exact (List.getElem?_eq_some_iff.mp (FallbackTable.ordinal?_eq_some_iff.mp hi)).1
      simp [hslot i hlt]

end Helper

namespace ScriptedLoader

variable {loader : ScriptedLoader} {path : Path} {library : ScriptedLibrary}

theorem fileExists_of_library? (h : loader.library? path = some library) :
    loader.toLoader.fileExists path = .ok true := by
  simp [toLoader, h]

theorem load_of_library? (h : loader.library? path = some library) :
    loader.toLoader.load path = .ok library.toLibrary := by
  simp [toLoader, h]

end ScriptedLoader

namespace SystemLookup

theorem establish_of_ok {platform : Platform} {config : Config} {loader : Loader}
    {lookup : ReadyLookup} (h : (Setup.build platform config loader).outcome = .ok lookup) :
    (establish platform config loader).1 = ⟨platform, .ready lookup⟩ := by
  show SystemLookup.mk platform
    (conclude platform (Setup.build platform config loader).outcome).1 = _
  rw [h]
  rfl

/-- The runtime is asked first, and the array for what it lacks. -/
theorem resolve_withFallback (platform : Platform) (runtime : RuntimeLibrary)
    (primary : OpenLibrary) (fallback : FallbackLookup) (n : SymbolName) :
    resolve ⟨platform, .ready (.withFallback runtime primary fallback)⟩ n.text =
      .ok ((primary.resolve n).or (fallback.resolve n)) := by
  rw [resolve_text]
  rfl

end SystemLookup

/-! ## The lookup serves every slot -/

/--
**The helper's slots and the lookup's ordinals agree.**

Whatever functions the helper has put into its slots, the lookup gives each of
them under its own name, unless the runtime exports that name itself. Other
texts it takes as the runtime alone does.
-/
theorem Session.establish_serves_slots (s : Session) {config : Config} {root path : Path}
    {loader : ScriptedLoader} {runtime helper : ScriptedLibrary} {base : Symbol}
    {symbols : Nat → Symbol} (hroot : config.systemRoot = some root)
    (hpath : config.helperFile? .windows = some path)
    (hruntime : loader.library? (Setup.universalFile root) = some runtime)
    (hhelper : loader.library? path = some helper)
    (hbase : helper.toLibrary.export? FallbackLookup.arrayKey = some base)
    (hwords : helper.toLibrary.Holds base (Helper.array fun i => (symbols i).address)) :
    let lookup := (s.establish .windows config fun _ => loader.toLoader).1
    let primary : OpenLibrary := ⟨runtime.toLibrary, Setup.universalFile root⟩
    let alone : SystemLookup := ⟨.windows, .ready (.direct .universal primary)⟩
    let exported name := runtime.toLibrary.export? (Utf8.encode name ++ [0])
    (lookup.status = {
      platform := .windows
      ready := true
      runtime := some .universal
      primaryLibrary := some (Setup.universalFile root)
      helperLibrary := some path
      fallbackSlots := some Helper.slotCount }) ∧
    (∀ (i : Nat) (h : i < Helper.slotNames.length),
      lookup.resolve Helper.slotNames[i] =
          .ok (some (match exported Helper.slotNames[i] with
            | some symbol => ⟨symbol, .library⟩
            | none => ⟨symbols i, .fallback i⟩)) ∧
        lookup.find Helper.slotNames[i] =
          .ok (some ((exported Helper.slotNames[i]).getD (symbols i)))) ∧
    ∀ name, name ∉ Helper.slotNames →
      lookup.resolve name = alone.resolve name ∧ lookup.find name = alone.find name := by
  intro lookup primary alone exported
  obtain ⟨accepted, hread, hslots⟩ :=
    Helper.ofHelper_array ⟨helper.toLibrary, path⟩ hbase hwords
  have hbuild := Setup.build_universal hroot (ScriptedLoader.fileExists_of_library? hruntime)
    (ScriptedLoader.load_of_library? hruntime) hpath (ScriptedLoader.load_of_library? hhelper)
    hread
  have hlookup : lookup = ⟨.windows, .ready (.withFallback .universal primary
      ⟨.universal, accepted, ⟨helper.toLibrary, path⟩⟩)⟩ :=
    SystemLookup.establish_of_ok hbuild
  have hresolve : ∀ n : SymbolName, lookup.resolve n.text =
      .ok (((exported n.text).map (⟨·, .library⟩)).or
        ((Helper.slotNames.idxOf? n.text).map fun i => ⟨symbols i, .fallback i⟩)) := by
    intro n
    rw [hlookup, SystemLookup.resolve_withFallback, hslots n]
    rfl
  have hslot : ∀ (i : Nat) (h : i < Helper.slotNames.length),
      lookup.resolve Helper.slotNames[i] =
        .ok (some (match exported Helper.slotNames[i] with
          | some symbol => ⟨symbol, .library⟩
          | none => ⟨symbols i, .fallback i⟩)) := by
    intro i h
    obtain ⟨n, hn⟩ := Helper.exists_slotName h
    rw [← hn, hresolve n, hn, Helper.idxOf?_slotNames (List.getElem?_eq_getElem h)]
    cases exported Helper.slotNames[i] <;> rfl
  refine ⟨?_, fun i h => ⟨hslot i h, ?_⟩, fun name hname => ?_⟩
  · rw [hlookup, Helper.slotCount_eq]
    rfl
  · rw [SystemLookup.find_eq, hslot i h]
    cases exported Helper.slotNames[i] <;> rfl
  · have halone : lookup.resolve name = alone.resolve name := by
      cases hn : SymbolName.ofString name with
      | error e =>
          rw [SystemLookup.resolve_eq_error_iff.mpr hn, SystemLookup.resolve_eq_error_iff.mpr hn]
      | ok n =>
          obtain rfl := SymbolName.text_of_ofString hn
          rw [hresolve n, List.idxOf?_eq_none_iff.mpr hname, SystemLookup.resolve_text]
          simp [exported, alone, primary, LookupState.source, ReadyLookup.source, Source.resolve,
            OpenLibrary.resolve, SymbolName.key]
    exact ⟨halone, by rw [SystemLookup.find_eq, SystemLookup.find_eq, halone]⟩

namespace Scripted.Fixture

/-- The symbol in a slot of the helper. -/
def slotSymbol (i : Nat) : Symbol := (Symbol.ofWord? (slotWord none i)).getD ⟨1, by decide⟩

/-- The helper's words are laid out as a helper lays them out. -/
theorem image_eq_array : image none 0 = Helper.array fun i => (slotSymbol i).address := by decide

theorem helper_holds :
    (ScriptedLibrary.helper arrayAddress (image none 0)).toLibrary.Holds ⟨arrayAddress, by decide⟩
      (Helper.array fun i => (slotSymbol i).address) := by
  rw [← image_eq_array]
  exact ScriptedLibrary.holds_helper ⟨arrayAddress, by decide⟩ (by decide)

end Scripted.Fixture

open Scripted in
/-- The fixture has a universal runtime without `fprintf` and a helper with it. -/
theorem Session.establish_serves_fixture :
    let lookup := (({} : Session).establish .windows Fixture.config fun _ =>
      Fixture.loader.toLoader).1
    lookup.status.fallbackSlots = some 52 ∧
      lookup.resolve "fprintf" = .ok (some ⟨Fixture.slotSymbol 0, .fallback 0⟩) ∧
      lookup.find "strlen" = .ok (some ⟨Fixture.runtimeAddress 0, by decide⟩) := by
  intro lookup
  have hroot : Fixture.config.systemRoot = some Fixture.systemRoot := rfl
  have hpath : Fixture.config.helperFile? .windows =
      some (Layout.helperLibrary .windows (Layout.libraryDir .windows Fixture.installRoot)) := rfl
  have hruntime : Fixture.loader.library? (Setup.universalFile Fixture.systemRoot) =
      some Fixture.runtime := rfl
  obtain ⟨hstatus, hslots, hothers⟩ := Session.establish_serves_slots {} hroot hpath hruntime rfl
    rfl Fixture.helper_holds
  refine ⟨?_, ?_, ?_⟩
  · rw [hstatus]
    rfl
  · have hname : Helper.slotNames[0] = "fprintf" := by decide
    have hlacks : Fixture.runtime.toLibrary.export? (Utf8.encode "fprintf" ++ [0]) = none := by
      decide
    have hslot := (hslots 0 (by decide)).1
    rw [hname] at hslot
    simpa only [hlacks] using hslot
  · rw [(hothers "strlen" (by decide)).2]
    rfl

end Linkage
