import Linkage.Text.Utf8

/-!
# Which octet strings are text

An octet string is text if some text is spelled by it. The reader of octets never
looks back, and settles each octet by the bounds it has at that moment. To show
that it reads exactly what is spelled, this file says of a character that has
begun which code points it can still come to: those that agree with the bits read
so far and whose next octet is within the bounds. Such a code point is always one
of a character, and what was read begins the spelling of it.

An octet below 0x80 is never part of a longer spelling. So an octet string can be
cut at such an octet, and is text exactly if both sides are.
-/

namespace Linkage.Utf8

/-- Some text is spelled by the octets. -/
def IsText (b : Bytes) : Prop := ∃ s, encode s = b

/-! ## How a character is spelled -/

/-- A code point without its last groups of six bits. -/
def above (v : Nat) : Nat → Nat
  | 0 => v
  | n + 1 => above v n / 64

/-- The octet that carries a group of six bits. -/
def carrier (v n : Nat) : UInt8 := UInt8.ofNat (above v n % 64 + 0x80)

/-- The octets that carry the last groups of a code point. -/
def carriers (v : Nat) : Nat → Bytes
  | 0 => []
  | n + 1 => carrier v n :: carriers v n

/-- The least code point that takes `n + 1` octets behind the first one. -/
def least : Nat → Nat
  | 0 => 0x80
  | 1 => 0x800
  | 2 => 0x10000
  | _ => 0x110000

/-- The least first octet, by its marker, that `n + 1` others follow. -/
def marker : Nat → Nat
  | 0 => 0xC0
  | 1 => 0xE0
  | 2 => 0xF0
  | _ => 0xF8

theorem toNat_carrier (v n : Nat) : (carrier v n).toNat = above v n % 64 + 0x80 := by
  unfold carrier
  rw [UInt8.toNat_ofNat']
  omega

theorem le_of_mem_carriers {v n : Nat} {o : UInt8} (h : o ∈ carriers v n) : 0x80 ≤ o.toNat := by
  induction n with
  | zero => exact absurd h (by simp [carriers])
  | succ n ih =>
      rcases List.mem_cons.mp h with rfl | hmem
      · rw [toNat_carrier]
        omega
      · exact ih hmem

theorem toNat_ofNat {v : Nat} (h : v.isValidChar) : (Char.ofNat v).toNat = v := by
  unfold Char.ofNat
  rw [dif_pos h]
  exact UInt32.toNat_ofNatLT

theorem utf8EncodeChar_short {c : Char} (h : c.toNat < 0x80) :
    String.utf8EncodeChar c = [UInt8.ofNat c.toNat] := by
  have hcode : c.val.toNat = c.toNat := rfl
  unfold String.utf8EncodeChar
  simp only [hcode]
  rw [if_pos (by omega)]

/-- A longer spelling is a first octet and the groups behind it. -/
theorem utf8EncodeChar_long {c : Char} {n : Nat} (hn : n ≤ 2) (hleast : least n ≤ c.toNat)
    (hmost : c.toNat < least (n + 1)) :
    String.utf8EncodeChar c =
      UInt8.ofNat (above c.toNat (n + 1) + marker n) :: carriers c.toNat (n + 1) := by
  have hcode : c.val.toNat = c.toNat := rfl
  unfold String.utf8EncodeChar
  simp only [hcode]
  generalize c.toNat = v at hleast hmost
  match n, hn with
  | 0, _ =>
      simp only [least] at hleast hmost
      rw [if_neg (by omega), if_pos (by omega), Nat.mod_eq_of_lt (by omega : v / 64 < 32)]
      rfl
  | 1, _ =>
      simp only [least] at hleast hmost
      rw [if_neg (by omega), if_neg (by omega), if_pos (by omega),
        Nat.mod_eq_of_lt (by omega : v / 4096 < 16), show 4096 = 64 * 64 from rfl,
        ← Nat.div_div_eq_div_mul]
      rfl
  | 2, _ =>
      simp only [least] at hleast hmost
      rw [if_neg (by omega), if_neg (by omega), if_neg (by omega),
        Nat.mod_eq_of_lt (by omega : v / 262144 < 8), show 262144 = 64 * 64 * 64 from rfl,
        show 4096 = 64 * 64 from rfl, ← Nat.div_div_eq_div_mul, ← Nat.div_div_eq_div_mul]
      rfl

theorem short_or_long (c : Char) :
    c.toNat < 0x80 ∨ ∃ n ≤ 2, least n ≤ c.toNat ∧ c.toNat < least (n + 1) := by
  have hvalid : c.toNat.isValidChar := c.valid
  unfold Nat.isValidChar at hvalid
  by_cases h0 : c.toNat < 0x80
  · exact .inl h0
  · refine .inr ?_
    by_cases h1 : c.toNat < 0x800
    · exact ⟨0, by omega, by simp only [least]; omega, h1⟩
    · by_cases h2 : c.toNat < 0x10000
      · exact ⟨1, by omega, by simp only [least]; omega, h2⟩
      · exact ⟨2, by omega, by simp only [least]; omega, by simp only [least]; omega⟩

/-! ## What a character that has begun can come to -/

/-- A code point agrees with what was read, and its next octet is within the bounds. -/
structure Begun.Reads (p : Begun) (v : Nat) : Prop where
  code : above v (p.more + 1) = p.code
  low : p.low ≤ carrier v p.more
  high : carrier v p.more ≤ p.high

theorem Begun.reads_iff {p : Begun} {v : Nat} :
    p.Reads v ↔ above v (p.more + 1) = p.code ∧ p.low.toNat ≤ above v p.more % 64 + 0x80 ∧
      above v p.more % 64 + 0x80 ≤ p.high.toNat := by
  rw [← toNat_carrier, ← UInt8.le_iff_toNat_le, ← UInt8.le_iff_toNat_le]
  exact ⟨fun h => ⟨h.code, h.low, h.high⟩, fun h => ⟨h.1, h.2.1, h.2.2⟩⟩

/-- What was read begins the spelling of every code point that can still come of it. -/
structure Begun.Sound (p : Begun) : Prop where
  low : 0x80 ≤ p.low
  high : p.high ≤ 0xBF
  spells : ∀ v, p.Reads v → ∃ c : Char, c.toNat = v ∧
    String.utf8EncodeChar c = p.octets ++ carriers v (p.more + 1)

/-- A character has begun with its first octet. -/
structure Begun.BeginsWith (p : Begun) (b : UInt8) : Prop where
  octets : p.octets = [b]
  more : p.more ≤ 2
  marked : marker p.more ≤ b.toNat ∧ b.toNat < marker (p.more + 1)
  code : b.toNat = p.code + marker p.more
  low : 0x80 ≤ p.low
  high : p.high ≤ 0xBF
  /-- The bounds leave out overlong forms, surrogates and what is too large. -/
  reads_iff : ∀ v, p.Reads v ↔
    above v (p.more + 1) = p.code ∧ v.isValidChar ∧ least p.more ≤ v ∧ v < least (p.more + 1)

theorem first_eq (b : UInt8) :
    first b =
      if b.toNat < 0x80 then .inl (.char (Char.ofNat b.toNat))
      else if b.toNat < 0xC2 then .inl (.broken [b])
      else if b.toNat < 0xE0 then .inr ⟨[b], b.toNat - 0xC0, 0, 0x80, 0xBF⟩
      else if b.toNat = 0xE0 then .inr ⟨[b], 0, 1, 0xA0, 0xBF⟩
      else if b.toNat = 0xED then .inr ⟨[b], 0xD, 1, 0x80, 0x9F⟩
      else if b.toNat < 0xF0 then .inr ⟨[b], b.toNat - 0xE0, 1, 0x80, 0xBF⟩
      else if b.toNat = 0xF0 then .inr ⟨[b], 0, 2, 0x90, 0xBF⟩
      else if b.toNat < 0xF4 then .inr ⟨[b], b.toNat - 0xF0, 2, 0x80, 0xBF⟩
      else if b.toNat = 0xF4 then .inr ⟨[b], 4, 2, 0x80, 0x8F⟩
      else .inl (.broken [b]) := by
  simp only [first, UInt8.lt_iff_toNat_lt, ← UInt8.toNat_inj, UInt8.reduceToNat]

theorem beginsWith_of_first {b : UInt8} {p : Begun} (h : first b = .inr p) : p.BeginsWith b := by
  rw [first_eq] at h
  repeat' split at h
  all_goals cases h
  all_goals
    refine ⟨rfl, by simp, ?_, ?_, by simp, by simp, fun v => ?_⟩
    · simp only [marker]
      omega
    · simp only [marker]
      omega
    · rw [Begun.reads_iff]
      simp only [above, UInt8.reduceToNat, Nat.isValidChar, least]
      omega

theorem exists_beginsWith {b : UInt8} (hleast : 0xC2 ≤ b.toNat) (hmost : b.toNat ≤ 0xF4) :
    ∃ p, first b = .inr p ∧ p.BeginsWith b := by
  cases h : first b with
  | inr p => exact ⟨p, rfl, beginsWith_of_first h⟩
  | inl chunk =>
      rw [first_eq] at h
      repeat' split at h
      -- a branch is for octets that are too small or too large, or gives no chunk
      all_goals
        first
          | omega
          | cases h

theorem utf8EncodeChar_of_first {b : UInt8} {c : Char} (h : first b = .inl (.char c)) :
    String.utf8EncodeChar c = [b] := by
  unfold first at h
  repeat' split at h
  all_goals cases h
  rename_i hb
  have hshort : b.toNat < 0x80 := UInt8.lt_iff_toNat_lt.mp hb
  have hcode := toNat_ofNat (v := b.toNat) (.inl (by omega))
  rw [utf8EncodeChar_short (by rw [hcode]; exact hshort), hcode, UInt8.ofNat_toNat]

theorem Begun.BeginsWith.sound {p : Begun} {b : UInt8} (h : p.BeginsWith b) : p.Sound where
  low := h.low
  high := h.high
  spells v hv := by
    obtain ⟨hgroups, hvalid, hleast, hmost⟩ := (h.reads_iff v).mp hv
    have hcode := toNat_ofNat hvalid
    have hfirst : above v (p.more + 1) + marker p.more = b.toNat := by
      rw [hgroups, h.code]
    rw [← hcode] at hleast hmost
    refine ⟨Char.ofNat v, hcode, ?_⟩
    rw [utf8EncodeChar_long h.more hleast hmost, hcode, hfirst, UInt8.ofNat_toNat, h.octets]
    rfl

namespace Begun.Sound

variable {p q : Begun} {b : UInt8}

/-- An octet within the bounds is the next octet of the code points that it leads to. -/
theorem reads (h : p.Sound) (hb : p.low ≤ b ∧ b ≤ p.high) {v : Nat}
    (hv : above v p.more = p.code * 64 + (b.toNat - 0x80)) : carrier v p.more = b ∧ p.Reads v := by
  have hlow := UInt8.le_iff_toNat_le.mp (UInt8.le_trans h.low hb.1)
  have hhigh := UInt8.le_iff_toNat_le.mp (UInt8.le_trans hb.2 h.high)
  simp only [UInt8.reduceToNat] at hlow hhigh
  have hnext : carrier v p.more = b := by
    rw [← UInt8.toNat_inj, toNat_carrier, hv]
    omega
  refine ⟨hnext, ?_, hnext ▸ hb.1, hnext ▸ hb.2⟩
  show above v p.more / 64 = p.code
  rw [hv]
  omega

/-- The last octet completes the spelling of a character. -/
theorem utf8EncodeChar_extend (h : p.Sound) (hb : p.low ≤ b ∧ b ≤ p.high) {c : Char}
    (hextend : p.extend b = .inl c) : String.utf8EncodeChar c = p.octets ++ [b] := by
  unfold extend at hextend
  cases hmore : p.more with
  | succ n => simp [hmore] at hextend
  | zero =>
      simp only [hmore] at hextend
      obtain rfl := Sum.inl.inj hextend
      generalize hv : p.code * 64 + (b.toNat - 0x80) = v
      obtain ⟨hnext, hreads⟩ := h.reads hb (v := v) (by rw [hmore, hv]; rfl)
      obtain ⟨c, rfl, hspell⟩ := h.spells v hreads
      rw [hmore] at hnext hspell
      rw [Char.ofNat_toNat, hspell]
      exact congrArg (fun o => p.octets ++ [o]) hnext

/-- Any other octet brings the character one group further. -/
theorem extend (h : p.Sound) (hb : p.low ≤ b ∧ b ≤ p.high) (hextend : p.extend b = .inr q) :
    q.octets = p.octets ++ [b] ∧ q.Sound := by
  unfold Begun.extend at hextend
  cases hmore : p.more with
  | zero => simp [hmore] at hextend
  | succ n =>
      simp only [hmore] at hextend
      obtain rfl := Sum.inr.inj hextend
      refine ⟨rfl, UInt8.le_refl _, UInt8.le_refl _, fun v hv => ?_⟩
      obtain ⟨hnext, hreads⟩ := h.reads hb (v := v) (by rw [hmore]; exact hv.code)
      obtain ⟨c, hc, hspell⟩ := h.spells v hreads
      refine ⟨c, hc, ?_⟩
      rw [hmore] at hnext hspell
      rw [hspell, ← hnext, List.append_assoc]
      rfl

end Begun.Sound

/-! ## What is read is what is spelled -/

/-- What was read of a character that has begun, if one has. -/
def pending (p? : Option Begun) : Bytes := (p?.map Begun.octets).getD []

/-- **If all chunks are characters, then the octets spell them.** -/
theorem flatMap_of_chunksFrom {p? : Option Begun} {b : Bytes} {l : List Char}
    (hp : ∀ p, p? = some p → p.Sound) (h : chunksFrom p? b = l.map .char) :
    l.flatMap String.utf8EncodeChar = pending p? ++ b := by
  -- along the reader: what it has begun is sound, and no chunk that it gives is broken
  fun_induction chunksFrom p? b generalizing l with
  | case1 =>
      obtain rfl := List.map_eq_nil_iff.mp h.symm
      rfl
  | case2 p =>
      obtain ⟨c, rest, -, hc, -⟩ := List.map_eq_cons_iff.mp h.symm
      cases hc
  | case3 o rest chunk hfirst ih =>
      obtain ⟨c, l, rfl, rfl, hl⟩ := List.map_eq_cons_iff.mp h.symm
      rw [List.flatMap_cons, utf8EncodeChar_of_first hfirst, ih (by simp) hl.symm]
      rfl
  | case4 o rest p hfirst ih =>
      have hbegins := beginsWith_of_first hfirst
      rw [ih (by rintro _ ⟨⟩; exact hbegins.sound) h]
      show p.octets ++ rest = o :: rest
      rw [hbegins.octets]
      rfl
  | case5 p o rest hb c hextend ih =>
      obtain ⟨_, l, rfl, ⟨⟩, hl⟩ := List.map_eq_cons_iff.mp h.symm
      rw [List.flatMap_cons, (hp p rfl).utf8EncodeChar_extend hb hextend, ih (by simp) hl.symm,
        List.append_assoc]
      rfl
  | case6 p o rest hb q hextend ih =>
      obtain ⟨hoctets, hsound⟩ := (hp p rfl).extend hb hextend
      rw [ih (by rintro _ ⟨⟩; exact hsound) h]
      show q.octets ++ rest = p.octets ++ o :: rest
      rw [hoctets, List.append_assoc]
      rfl
  | case7 p o rest hb =>
      obtain ⟨c, l, -, hc, -⟩ := List.map_eq_cons_iff.mp h.symm
      cases hc

theorem eq_of_marked {m n b : Nat} (hm : m ≤ 2) (hn : n ≤ 2)
    (h : marker m ≤ b ∧ b < marker (m + 1)) (h' : marker n ≤ b ∧ b < marker (n + 1)) : m = n := by
  match m, n with
  | 0, 0 | 1, 1 | 2, 2 => rfl
  | 0, 1 | 0, 2 | 1, 0 | 1, 2 | 2, 0 | 2, 1 =>
      simp only [marker] at h h'
      omega
  | m + 3, _ | 0, n + 3 | 1, n + 3 | 2, n + 3 => omega

/-- The first octet of a longer spelling begins something that can come to its character. -/
theorem first_of_long {c : Char} {n : Nat} (hn : n ≤ 2) (hleast : least n ≤ c.toNat)
    (hmost : c.toNat < least (n + 1)) :
    ∃ p, first (UInt8.ofNat (above c.toNat (n + 1) + marker n)) = .inr p ∧ p.more = n ∧
      p.Reads c.toNat := by
  have hvalid : c.toNat.isValidChar := c.valid
  generalize c.toNat = v at hvalid hleast hmost
  have hfirst : 0xC2 ≤ above v (n + 1) + marker n ∧ above v (n + 1) + marker n ≤ 0xF4 ∧
      above v (n + 1) + marker n < marker (n + 1) := by
    match n, hn with
    | 0, _ | 1, _ | 2, _ =>
        unfold Nat.isValidChar at hvalid
        simp only [least, above, marker] at hleast hmost ⊢
        omega
  obtain ⟨hlow, hhigh, hmarked⟩ := hfirst
  have hbyte : (UInt8.ofNat (above v (n + 1) + marker n)).toNat = above v (n + 1) + marker n := by
    rw [UInt8.toNat_ofNat']
    omega
  rw [← hbyte] at hlow hhigh
  obtain ⟨p, hp, hbegins⟩ := exists_beginsWith hlow hhigh
  have hmarks := hbegins.marked
  rw [hbyte] at hmarks
  obtain rfl : p.more = n := eq_of_marked hbegins.more hn hmarks ⟨by omega, hmarked⟩
  have hcode : above v (p.more + 1) = p.code :=
    Nat.add_right_cancel (hbyte.symm.trans hbegins.code)
  exact ⟨p, hp, rfl, (hbegins.reads_iff v).mpr ⟨hcode, hvalid, hleast, hmost⟩⟩

/-- The groups behind a first octet are read to the end of the character. -/
theorem chunksFrom_carriers {p : Begun} {v : Nat} (h : p.Reads v) (rest : Bytes) :
    chunksFrom (some p) (carriers v (p.more + 1) ++ rest) =
      .char (Char.ofNat v) :: chunksFrom none rest := by
  have hcode : p.code * 64 + ((carrier v p.more).toNat - 0x80) = above v p.more := by
    have hcode := h.code
    simp only [above] at hcode
    rw [toNat_carrier, ← hcode]
    omega
  obtain ⟨octets, code, more, low, high⟩ := p
  dsimp only at hcode
  -- on the number of octets that are left; each one takes its group off the code point
  induction more generalizing octets code low high with
  | zero =>
      rw [show carriers v (0 + 1) ++ rest = carrier v 0 :: rest from rfl, chunksFrom,
        if_pos ⟨h.low, h.high⟩, Begun.extend]
      simp only [hcode]
      rfl
  | succ n ih =>
      rw [show carriers v (n + 1 + 1) ++ rest = carrier v (n + 1) :: (carriers v (n + 1) ++ rest)
        from rfl, chunksFrom, if_pos ⟨h.low, h.high⟩, Begun.extend]
      simp only [hcode]
      -- the bounds of the octets behind the second one let every group through
      refine ih _ _ _ _ ⟨rfl, ?_, ?_⟩ ?_
      · rw [UInt8.le_iff_toNat_le, toNat_carrier]
        simp
      · rw [UInt8.le_iff_toNat_le, toNat_carrier]
        simp only [UInt8.reduceToNat]
        omega
      · rw [toNat_carrier]
        simp only [above]
        omega

theorem chunksFrom_cons_of_first {b : UInt8} {p : Begun} (h : first b = .inr p) (rest : Bytes) :
    chunksFrom none (b :: rest) = chunksFrom (some p) rest := by
  rw [chunksFrom, h]

theorem chunksFrom_utf8EncodeChar (c : Char) (rest : Bytes) :
    chunksFrom none (String.utf8EncodeChar c ++ rest) = .char c :: chunksFrom none rest := by
  rcases short_or_long c with hshort | ⟨n, hn, hleast, hmost⟩
  · have hbyte : (UInt8.ofNat c.toNat).toNat = c.toNat := by
      rw [UInt8.toNat_ofNat']
      omega
    have hfirst : first (UInt8.ofNat c.toNat) = .inl (.char c) := by
      unfold first
      rw [if_pos (UInt8.lt_iff_toNat_lt.mpr (by rw [hbyte]; exact hshort)), hbyte,
        Char.ofNat_toNat]
    rw [utf8EncodeChar_short hshort, List.singleton_append, chunksFrom, hfirst]
  · obtain ⟨p, hfirst, rfl, hreads⟩ := first_of_long hn hleast hmost
    rw [utf8EncodeChar_long hn hleast hmost, List.cons_append, chunksFrom_cons_of_first hfirst,
      chunksFrom_carriers hreads, Char.ofNat_toNat]

theorem chunks_encode (s : String) : chunks (encode s) = s.toList.map .char := by
  unfold chunks encode
  induction s.toList with
  | nil => rfl
  | cons c rest ih => rw [List.flatMap_cons, chunksFrom_utf8EncodeChar, ih, List.map_cons]

theorem mapM_char?_eq_some_iff {cs : List Chunk} {l : List Char} :
    cs.mapM Chunk.char? = some l ↔ cs = l.map .char := by
  induction cs generalizing l with
  | nil => cases l <;> simp
  | cons chunk rest ih =>
      cases chunk with
      | broken octets => cases l <;> simp [Chunk.char?]
      | char c =>
          cases l with
          | nil => simp [Chunk.char?, Option.bind_eq_some_iff]
          | cons d l =>
              simp only [List.mapM_cons, Chunk.char?, Option.bind_eq_bind, Option.bind_some,
                Option.bind_eq_some_iff, ih, Option.pure_def, Option.some.injEq, List.cons.injEq,
                List.map_cons, Chunk.char.injEq]
              constructor
              · rintro ⟨l, rfl, rfl, rfl⟩
                exact ⟨rfl, rfl⟩
              · rintro ⟨rfl, rfl⟩
                exact ⟨l, rfl, rfl, rfl⟩

/-- **An octet string reads as a text exactly if the text is spelled by it.** -/
theorem text?_eq_some_iff {b : Bytes} {s : String} : text? b = some s ↔ encode s = b := by
  have hread (l : List Char) : (chunks b).mapM Chunk.char? = some l ↔
      encode (String.ofList l) = b := by
    rw [mapM_char?_eq_some_iff]
    constructor
    · intro h
      have hspell := @flatMap_of_chunksFrom none b l (by simp) h
      rwa [encode, String.toList_ofList]
    · rintro rfl
      rw [chunks_encode, String.toList_ofList]
  unfold text?
  rw [Option.map_eq_some_iff]
  constructor
  · rintro ⟨l, hl, rfl⟩
    exact (hread l).mp hl
  · intro h
    refine ⟨s.toList, (hread _).mpr ?_, String.ofList_toList⟩
    rwa [String.ofList_toList]

theorem text?_encode (s : String) : text? (encode s) = some s := text?_eq_some_iff.mpr rfl

/-- Exactly the octet strings that are no text are refused. -/
theorem text?_eq_none_iff {b : Bytes} : text? b = none ↔ ¬IsText b := by
  constructor
  · rintro hnone ⟨s, rfl⟩
    rw [text?_encode] at hnone
    exact absurd hnone (by simp)
  · intro h
    cases hread : text? b with
    | none => rfl
    | some s => exact absurd ⟨s, text?_eq_some_iff.mp hread⟩ h

/-- An overlong form and a surrogate are no text. -/
example : ¬IsText [0xE0, 0x80, 0x80] ∧ ¬IsText [0xED, 0xA0, 0x80] :=
  ⟨text?_eq_none_iff.mp (by decide), text?_eq_none_iff.mp (by decide)⟩

/-! ## Where an octet string can be cut -/

theorem isText_encode (s : String) : IsText (encode s) := ⟨s, rfl⟩

theorem IsText.append {a b : Bytes} (ha : IsText a) (hb : IsText b) : IsText (a ++ b) := by
  obtain ⟨s, rfl⟩ := ha
  obtain ⟨t, rfl⟩ := hb
  exact ⟨s ++ t, by simp [encode]⟩

/-- An octet below 0x80 is a character of its own. -/
theorem utf8EncodeChar_of_mem {c : Char} {o : UInt8} (ho : o < 0x80)
    (hmem : o ∈ String.utf8EncodeChar c) : String.utf8EncodeChar c = [o] := by
  have ho' : o.toNat < 0x80 := UInt8.lt_iff_toNat_lt.mp ho
  rcases short_or_long c with hshort | ⟨n, hn, hleast, hmost⟩
  · rw [utf8EncodeChar_short hshort] at hmem ⊢
    rw [List.mem_singleton.mp hmem]
  · obtain ⟨p, hfirst, rfl, -⟩ := first_of_long hn hleast hmost
    have hmarked := (beginsWith_of_first hfirst).marked.1
    rw [utf8EncodeChar_long hn hleast hmost] at hmem
    rcases List.mem_cons.mp hmem with rfl | hmem
    · have hmarker : 0xC0 ≤ marker p.more := by
        unfold marker
        split <;> omega
      omega
    · have hle := le_of_mem_carriers hmem
      omega

theorem flatMap_eq_append {l : List Char} {a b : Bytes} {o : UInt8} (ho : o < 0x80)
    (h : l.flatMap String.utf8EncodeChar = a ++ o :: b) :
    ∃ before behind : List Char, before.flatMap String.utf8EncodeChar = a ∧
      behind.flatMap String.utf8EncodeChar = b := by
  induction l generalizing a with
  | nil => exact absurd h (by simp)
  | cons c rest ih =>
      rw [List.flatMap_cons] at h
      rcases List.append_eq_append_iff.mp h with ⟨a', rfl, hrest⟩ | ⟨cut, hc, hcut⟩
      · -- the cut is behind this character
        obtain ⟨before, behind, rfl, hb⟩ := ih hrest
        exact ⟨c :: before, behind, rfl, hb⟩
      · cases cut with
        | nil =>
            obtain ⟨before, behind, hbefore, hb⟩ := ih (a := []) hcut.symm
            refine ⟨c :: before, behind, ?_, hb⟩
            rw [List.flatMap_cons, hbefore, hc]
            simp
        | cons o' cut =>
            -- the octet stands in this character, and so it is all of it
            obtain ⟨rfl, rfl⟩ := List.cons.inj hcut
            have halone := utf8EncodeChar_of_mem ho (c := c) (by rw [hc]; simp)
            rw [hc] at halone
            cases a with
            | cons o'' a => exact absurd halone (by simp)
            | nil =>
                obtain rfl : cut = [] := (List.cons.inj halone).2
                exact ⟨[], rest, rfl, rfl⟩

/-- **An octet string can be cut at an octet below 0x80**: it is text exactly if both sides are. -/
theorem isText_append_cons {a b : Bytes} {o : UInt8} (ho : o < 0x80) :
    IsText (a ++ o :: b) ↔ IsText a ∧ IsText b := by
  constructor
  · rintro ⟨s, hs⟩
    obtain ⟨before, behind, rfl, rfl⟩ := flatMap_eq_append ho (show s.toList.flatMap _ = _ from hs)
    exact ⟨⟨String.ofList before, by simp [encode]⟩, ⟨String.ofList behind, by simp [encode]⟩⟩
  · rintro ⟨ha, hb⟩
    have hfirst : first o = .inl (.char (Char.ofNat o.toNat)) := if_pos ho
    have halone : IsText [o] :=
      ⟨String.ofList [Char.ofNat o.toNat], by simp [encode, utf8EncodeChar_of_first hfirst]⟩
    exact ha.append (halone.append hb)

end Linkage.Utf8
