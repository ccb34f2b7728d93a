import Linkage.Proofs.FallbackTable
import Linkage.SystemLookup

/-!
# The first source that holds a name decides

Sources are composed two at a time, so a source is a tree. Its shape does not
matter: a name goes from leaf to leaf, from left to right, and the first leaf that
holds it gives the answer as it is, with the origin that this leaf knows.

Everything else is read off the row of leaves. Trees with the same row are the
same to every name, which is more than that composition is associative; and a leaf
can be left out of a row if it holds nothing, or if it stands further left as well.
-/

namespace Linkage.Source

/-! ## What a leaf holds -/

/-- A source that is not composed holds a symbol under a name. -/
inductive Holds (name : SymbolName) : Source → Resolution → Prop where
  /-- A library exports it under the octets of the name. -/
  | library {l : OpenLibrary} {symbol : Symbol} :
      l.library.export? name.key = some symbol → Holds name (.library l) ⟨symbol, .library⟩
  /-- An array has it at the ordinal of the name in the table that goes with the array. -/
  | fallback {l : FallbackLookup} {i : Nat} {symbol : Symbol} :
      l.table.names[i]? = some name.text → l.symbols[i]? = some symbol →
      Holds name (.fallback l) ⟨symbol, .fallback i⟩

variable {name : SymbolName} {s leaf : Source} {r : Resolution}

theorem resolve_library_iff {l : OpenLibrary} :
    (library l).resolve name = some r ↔ Holds name (.library l) r := by
  show (l.library.export? name.key).map _ = some r ↔ _
  rw [Option.map_eq_some_iff]
  constructor
  · rintro ⟨symbol, hsymbol, rfl⟩
    exact .library hsymbol
  · intro h
    cases h with
    | library hsymbol => exact ⟨_, hsymbol, rfl⟩

theorem resolve_fallback_iff {l : FallbackLookup} :
    (fallback l).resolve name = some r ↔ Holds name (.fallback l) r := by
  show (l.table.ordinal? name.text).bind _ = some r ↔ _
  constructor
  · intro h
    obtain ⟨i, hi, h⟩ := Option.bind_eq_some_iff.mp h
    obtain ⟨symbol, hsymbol, hr⟩ := Option.bind_eq_some_iff.mp h
    obtain rfl := Option.some.inj hr
    exact .fallback (FallbackTable.ordinal?_eq_some_iff.mp hi) hsymbol
  · intro h
    cases h with
    | fallback hi hsymbol =>
        refine Option.bind_eq_some_iff.mpr ⟨_, FallbackTable.ordinal?_eq_some_iff.mpr hi, ?_⟩
        exact Option.bind_eq_some_iff.mpr ⟨_, hsymbol, rfl⟩

/-- A leaf of a tree resolves a name to what it holds. -/
theorem resolve_leaf_iff (h : leaf ∈ s.leaves) :
    leaf.resolve name = some r ↔ Holds name leaf r := by
  induction s with
  | library l =>
      obtain rfl := List.mem_singleton.mp h
      exact resolve_library_iff
  | fallback l =>
      obtain rfl := List.mem_singleton.mp h
      exact resolve_fallback_iff
  | silent =>
      obtain rfl := List.mem_singleton.mp h
      refine iff_of_false (by simp [resolve]) ?_
      intro hholds
      cases hholds
  | composite first second ihfirst ihsecond =>
      rcases List.mem_append.mp h with hmem | hmem
      · exact ihfirst hmem
      · exact ihsecond hmem

theorem resolve_leaf_eq_none_iff (h : leaf ∈ s.leaves) :
    leaf.resolve name = none ↔ ∀ r, ¬Holds name leaf r := by
  rw [Option.eq_none_iff_forall_ne_some]
  exact forall_congr' fun r => not_congr (resolve_leaf_iff h)

/-! ## From leaf to leaf -/

/-- A leaf holds the symbol, and those on its left hold none under the name. -/
def FirstHit (name : SymbolName) (leaves : List Source) (r : Resolution) : Prop :=
  ∃ before leaf after, leaves = before ++ leaf :: after ∧
    (∀ l ∈ before, ∀ r, ¬Holds name l r) ∧ Holds name leaf r

/-- **A tree asks its leaves one after the other.** -/
theorem resolve_eq_findSome? (s : Source) (name : SymbolName) :
    s.resolve name = s.leaves.findSome? (·.resolve name) := by
  induction s with
  | library l | fallback l | silent => simp [leaves]
  | composite first second ihfirst ihsecond =>
      rw [resolve, leaves, List.findSome?_append, ← ihfirst, ← ihsecond]

theorem resolve_eq_some_iff : s.resolve name = some r ↔ FirstHit name s.leaves r := by
  rw [resolve_eq_findSome?, List.findSome?_eq_some_iff]
  constructor
  · rintro ⟨before, leaf, after, hleaves, hleaf, hbefore⟩
    refine ⟨before, leaf, after, hleaves, ?_, ?_⟩
    · intro l hl
      exact (resolve_leaf_eq_none_iff (s := s) (by simp [hleaves, hl])).mp (hbefore l hl)
    · exact (resolve_leaf_iff (s := s) (by simp [hleaves])).mp hleaf
  · rintro ⟨before, leaf, after, hleaves, hbefore, hleaf⟩
    refine ⟨before, leaf, after, hleaves, ?_, ?_⟩
    · exact (resolve_leaf_iff (s := s) (by simp [hleaves])).mpr hleaf
    · intro l hl
      exact (resolve_leaf_eq_none_iff (s := s) (by simp [hleaves, hl])).mpr (hbefore l hl)

theorem resolve_eq_none_iff :
    s.resolve name = none ↔ ∀ leaf ∈ s.leaves, ∀ r, ¬Holds name leaf r := by
  rw [resolve_eq_findSome?, List.findSome?_eq_none_iff]
  exact forall₂_congr fun leaf hleaf => resolve_leaf_eq_none_iff hleaf

/-! ## Leaves that can be left out -/

/-- The second row of leaves is the first one without some that add nothing to those before them. -/
inductive Thinned : List Source → List Source → Prop where
  | refl (leaves : List Source) : Thinned leaves leaves
  /-- A degraded lookup is left out. -/
  | degraded {before after leaves : List Source} (cause : InitError) :
      Thinned (before ++ after) leaves →
      Thinned (before ++ (LookupState.degraded cause).source :: after) leaves
  /-- A leaf is left out that stands further left as well. -/
  | repeated {before after leaves : List Source} {leaf : Source} : leaf ∈ before →
      Thinned (before ++ after) leaves → Thinned (before ++ leaf :: after) leaves

/-- One leaf that is asked in vain, or a second time, makes no difference. -/
theorem findSome?_append_cons {before after : List Source}
    (h : leaf.resolve name = none ∨ leaf ∈ before) :
    (before ++ leaf :: after).findSome? (·.resolve name) =
      (before ++ after).findSome? (·.resolve name) := by
  rw [List.findSome?_append, List.findSome?_append]
  cases hbefore : before.findSome? (·.resolve name) with
  | some r => rfl
  | none =>
      -- nobody on the left has the name, and so the leaf has not got it either
      have hnone : leaf.resolve name = none := by
        rcases h with h | h
        · exact h
        · exact List.findSome?_eq_none_iff.mp hbefore leaf h
      rw [List.findSome?_cons, hnone]

/-- **A row that was thinned answers as before.** -/
theorem Thinned.findSome?_eq {leaves leaves' : List Source} (h : Thinned leaves leaves')
    (name : SymbolName) :
    leaves'.findSome? (·.resolve name) = leaves.findSome? (·.resolve name) := by
  induction h with
  | refl leaves => rfl
  | degraded cause _ ih => rw [ih, findSome?_append_cons (.inl rfl)]
  | repeated hmem _ ih => rw [ih, findSome?_append_cons (.inr hmem)]

theorem leaves_assoc (a b c : Source) :
    (composite (composite a b) c).leaves = (composite a (composite b c)).leaves :=
  List.append_assoc ..

/--
**The first leaf that holds a name decides, however the tree is nested.**

What a tree resolves a name to is what its first leaf with the name holds, as that leaf holds it,
and nothing if no leaf holds one. So composition is associative, and two trees are the same to every
name if one has the leaves of the other, without some that are degraded or stand further left too.
-/
theorem resolve_first_hit (s : Source) (name : SymbolName) :
    (∀ r, s.resolve name = some r ↔ FirstHit name s.leaves r) ∧
    (s.resolve name = none ↔ ∀ leaf ∈ s.leaves, ∀ r, ¬Holds name leaf r) ∧
    (∀ symbol, s.find name = some symbol ↔
      ∃ origin, FirstHit name s.leaves ⟨symbol, origin⟩) ∧
    (s.find name = none ↔ s.resolve name = none) ∧
    (∀ b c, (composite (composite s b) c).resolve name =
      (composite s (composite b c)).resolve name) ∧
    ∀ t : Source, Thinned s.leaves t.leaves →
      t.resolve name = s.resolve name ∧ t.find name = s.find name := by
  refine ⟨fun r => resolve_eq_some_iff, resolve_eq_none_iff, ?_, Option.map_eq_none_iff, ?_, ?_⟩
  · intro symbol
    rw [find, Option.map_eq_some_iff]
    constructor
    · rintro ⟨r, hr, rfl⟩
      exact ⟨r.origin, resolve_eq_some_iff.mp hr⟩
    · rintro ⟨origin, hhit⟩
      exact ⟨_, resolve_eq_some_iff.mpr hhit, rfl⟩
  · intro b c
    rw [resolve_eq_findSome?, leaves_assoc, ← resolve_eq_findSome?]
  · intro t h
    have hresolve : t.resolve name = s.resolve name := by
      rw [resolve_eq_findSome?, h.findSome?_eq, ← resolve_eq_findSome?]
    exact ⟨hresolve, by rw [find, find, hresolve]⟩

/-- A library that exports one name, at one address. -/
def exporting (name : String) (symbol : Symbol) : OpenLibrary :=
  ⟨⟨fun key => if key = Utf8.encode name ++ [0] then some symbol else none, fun _ => 0⟩,
    .ofString name⟩

/-- An array behind a degraded lookup and a library, which stands behind the array as well. -/
theorem resolve_first_hit_five_leaves :
    let table : FallbackTable := ⟨["gmtime", "printf"], by decide⟩
    let helper := exporting "funcs" ⟨8, by decide⟩
    let array := fallback ⟨table, [⟨32, by decide⟩, ⟨48, by decide⟩], helper⟩
    let runtime := library (exporting "printf" ⟨16, by decide⟩)
    let degraded := (LookupState.degraded .systemRootUnset).source
    let s := composite (composite degraded runtime) (composite (composite array degraded) runtime)
    let t := composite runtime array
    let gmtime : SymbolName := ⟨"gmtime", by decide, by decide⟩
    let printf : SymbolName := ⟨"printf", by decide, by decide⟩
    Thinned s.leaves t.leaves ∧
      FirstHit gmtime s.leaves ⟨⟨32, by decide⟩, .fallback 0⟩ ∧
      t.resolve gmtime = some ⟨⟨32, by decide⟩, .fallback 0⟩ ∧
      t.find printf = some ⟨16, by decide⟩ := by
  intro table helper array runtime degraded s t gmtime printf
  have hthin : Thinned s.leaves t.leaves :=
    @Thinned.degraded [] _ _ .systemRootUnset
      (@Thinned.degraded [runtime, array] _ _ .systemRootUnset
        (@Thinned.repeated [runtime, array] _ _ _ (List.mem_cons_self ..) (.refl _)))
  obtain ⟨hhit, -, -, -, -, hgmtime⟩ := resolve_first_hit s gmtime
  obtain ⟨-, -, -, -, -, hprintf⟩ := resolve_first_hit s printf
  have hresolve : s.resolve gmtime = some ⟨⟨32, by decide⟩, .fallback 0⟩ := by decide
  refine ⟨hthin, (hhit _).mp hresolve, ?_, ?_⟩
  · rw [(hgmtime t hthin).1, hresolve]
  · rw [(hprintf t hthin).2]
    decide

end Linkage.Source
