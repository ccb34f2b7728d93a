import Linkage.Proofs.Json.Values
import Mathlib.Data.List.DropRight

/-!
# Tokens as they may be written

The printer spells a value in one way only, the reader takes it in many: with gaps
between the tokens, with other escapes than those that are needed, with any exponent.
Here the spellings that are read are told without the reader, and for each kind of
token there are two facts:

* a spelling is read as what it stands for, and reading stops right behind it;
* whatever is read has such a spelling in front.

-/

namespace Linkage.Json

variable {ε : Type} {cs raw rest gap : List Char}

/-- Reading that goes on has read something. -/
theorem exists_of_bind {α β : Type} {x : Except (ReadError ε) α}
    {f : α → Except (ReadError ε) β} {b : β} (h : x >>= f = .ok b) :
    ∃ a, x = .ok a ∧ f a = .ok b := by
  cases x with
  | error e => cases h
  | ok a => exact ⟨a, rfl, h⟩

theorem exists_of_map {α β : Type} {x : Except (ReadError ε) α} {f : α → β} {b : β}
    (h : f <$> x = .ok b) : ∃ a, x = .ok a ∧ f a = b := by
  cases x with
  | error e => cases h
  | ok a => exact ⟨a, rfl, Except.ok.inj h⟩

/-! ## Gaps and marks -/

/-- Nothing but characters that may stand between two tokens. -/
def Gap (cs : List Char) : Prop := ∀ c ∈ cs, isGap c = true

theorem Gap.nil : Gap [] := by
  intro c hc
  exact absurd hc (by simp)

theorem skipGap_append (h : Gap gap) (cs : List Char) : skipGap (gap ++ cs) = skipGap cs :=
  List.dropWhile_append_of_pos h

theorem exists_gap (cs : List Char) : ∃ gap, Gap gap ∧ cs = gap ++ skipGap cs :=
  ⟨cs.takeWhile isGap, fun _ hc => List.mem_takeWhile_imp hc,
    List.takeWhile_append_dropWhile.symm⟩

theorem skipGap_skipGap (cs : List Char) : skipGap (skipGap cs) = skipGap cs :=
  List.dropWhile_idempotent _ cs

theorem skipGap_eq_nil_iff : skipGap cs = [] ↔ Gap cs :=
  List.dropWhile_eq_nil_iff

theorem readMark_gap {mark : Char} (hmark : isGap mark = false) (h : Gap gap)
    (rest : List Char) : readMark (ε := ε) mark (gap ++ mark :: rest) = .ok rest := by
  rw [readMark, skipGap_append h, skipGap_cons hmark]
  exact if_pos rfl

theorem exists_gap_of_readMark {mark : Char} (h : readMark (ε := ε) mark cs = .ok rest) :
    ∃ gap, Gap gap ∧ cs = gap ++ mark :: rest := by
  obtain ⟨gap, hgap, hcs⟩ := exists_gap cs
  rw [readMark] at h
  cases hskip : skipGap cs with
  | nil =>
      rw [hskip] at h
      cases h
  | cons c left =>
      rw [hskip] at h hcs
      dsimp only at h
      split at h
      case isTrue hc =>
        cases h
        subst hc
        exact ⟨gap, hgap, hcs⟩
      case isFalse => cases h

theorem eq_of_readWord {word : List Char} {u : Unit}
    (h : readWord (ε := ε) word cs = .ok (u, rest)) : cs = word ++ rest := by
  induction word generalizing cs with
  | nil =>
      cases h
      rfl
  | cons w word ih =>
      cases cs with
      | nil => cases h
      | cons c cs =>
          rw [readWord] at h
          split at h
          · next hc =>
            rw [ih h, hc, List.cons_append]
          · cases h

/-! ## Strings -/

/-- What stands between the quotes of a string, and the characters of the string. -/
inductive StringText : List Char → List Char → Prop where
  | nil : StringText [] []
  /-- A character as it is. -/
  | plain {c : Char} {raw s : List Char} : c ≠ '"' → c ≠ '\\' → 0x20 ≤ c.toNat →
      StringText raw s → StringText (c :: raw) (c :: s)
  /-- An escape of one letter. -/
  | letter {x c : Char} {raw s : List Char} : unescape? x = some c →
      StringText raw s → StringText ('\\' :: x :: raw) (c :: s)
  /-- An escape of four digits. -/
  | unit {a b c d : Char} {n : Nat} {raw s : List Char} : unit? a b c d = some n →
      n < 0xD800 ∨ 0xDFFF < n →
      StringText raw s → StringText ('\\' :: 'u' :: a :: b :: c :: d :: raw) (Char.ofNat n :: s)
  /-- A high and a low surrogate, of four digits each. -/
  | pair {a b c d e f g h : Char} {high low : Nat} {raw s : List Char} :
      unit? a b c d = some high → unit? e f g h = some low →
      0xD800 ≤ high ∧ high < 0xDC00 → 0xDC00 ≤ low ∧ low ≤ 0xDFFF → StringText raw s →
      StringText
        ('\\' :: 'u' :: a :: b :: c :: d :: '\\' :: 'u' :: e :: f :: g :: h :: raw)
        (joinSurrogates high low :: s)

theorem ne_u_of_unescape? {x : Char} (h : (unescape? x).isSome) : x ≠ 'u' := by
  rintro rfl
  exact absurd h (by decide)

/-- A string is read up to the quote that closes it. -/
theorem StringText.stringFrom {s : List Char} (h : StringText raw s) (read rest : List Char) :
    stringFrom (ε := ε) read (raw ++ '"' :: rest) =
      .ok (String.ofList (read.reverse ++ s), rest) := by
  induction h generalizing read with
  | nil => simpa using stringFrom_quote read rest
  | plain hquote hbackslash hc _ ih =>
      rw [List.cons_append, stringFrom.eq_def]
      dsimp only
      rw [if_neg hquote, if_neg hbackslash, if_neg (Nat.not_lt.mpr hc), ih]
      simp
  | letter hx _ ih =>
      have hu := ne_u_of_unescape? (Option.isSome_of_eq_some hx)
      rw [List.cons_append, List.cons_append, stringFrom.eq_def]
      simp [hx, hu, ih]
  | unit hn hplane _ ih =>
      simp only [List.cons_append]
      rw [stringFrom.eq_def]
      simp [hn, hplane, ih]
  | @pair _ _ _ _ _ _ _ _ high low _ _ hhigh hlow hh hl _ ih =>
      have hplane : ¬ (high < 0xD800 ∨ 0xDFFF < high) := by omega
      simp only [List.cons_append]
      rw [stringFrom.eq_def]
      simp [hhigh, hlow, hplane, Nat.not_le.mpr hh.2, hl, ih]

/-- What is read as a string spells it. -/
theorem exists_stringText {read : List Char} {s : String}
    (h : stringFrom (ε := ε) read cs = .ok (s, rest)) :
    ∃ raw t, cs = raw ++ '"' :: rest ∧ StringText raw t ∧ s.toList = read.reverse ++ t := by
  fun_induction stringFrom read cs
  case case2 read rest =>
    cases h
    exact ⟨[], [], rfl, .nil, by simp⟩
  case case4 hunit hplane _ ih =>
    obtain ⟨raw, t, rfl, htext, hs⟩ := ih h
    exact ⟨_, _, rfl, .unit hunit hplane htext, by simpa using hs⟩
  case case7 hhigh hplane hbelow _ _ _ _ _ _ hlow hlowplane _ ih =>
    obtain ⟨raw, t, rfl, htext, hs⟩ := ih h
    exact ⟨_, _, rfl, .pair hhigh hlow (by omega) hlowplane htext, by simpa using hs⟩
  case case11 hletter _ ih =>
    obtain ⟨raw, t, rfl, htext, hs⟩ := ih h
    exact ⟨_, _, rfl, .letter hletter htext, by simpa using hs⟩
  case case14 hquote hbackslash hc ih =>
    obtain ⟨raw, t, rfl, htext, hs⟩ := ih h
    exact ⟨_, _, rfl, .plain hquote hbackslash (Nat.not_lt.mp hc) htext, by simpa using hs⟩
  all_goals cases h

theorem readString_text {s : String} (h : StringText raw s.toList) (rest : List Char) :
    readString (ε := ε) (raw ++ '"' :: rest) = .ok (s, rest) := by
  rw [readString, h.stringFrom]
  simp

theorem exists_of_readString {s : String} (h : readString (ε := ε) cs = .ok (s, rest)) :
    ∃ raw, cs = raw ++ '"' :: rest ∧ StringText raw s.toList := by
  obtain ⟨raw, t, hcs, htext, hs⟩ := exists_stringText h
  rw [List.reverse_nil, List.nil_append] at hs
  exact ⟨raw, hcs, hs ▸ htext⟩

/-! ## Keys -/

/--
A text with a key and a colon in front of it. What may stand between the quotes of
the key is left open.
-/
def Labelled (IsKey : List Char → Prop) (text chars : List Char) : Prop :=
  ∃ raw before after, IsKey raw ∧ Gap before ∧ Gap after ∧
    chars = '"' :: (raw ++ '"' :: (before ++ ':' :: (after ++ text)))

theorem labelled_begins {IsKey : List Char → Prop} {text chars : List Char}
    (h : Labelled IsKey text chars) : Begins '\x7d' chars := by
  obtain ⟨raw, before, after, -, -, -, rfl⟩ := h
  exact ⟨'"', _, rfl, by decide, by decide⟩

/-- What is read in front of a colon and behind it makes up a text with a key. -/
theorem exists_labelled {IsKey : List Char → Prop} {text left left' : List Char}
    (hkey : IsKey raw) (hmark : readMark (ε := ε) ':' left = .ok left')
    (htext : skipGap left' = text ++ rest) :
    ∃ chars, Labelled IsKey text chars ∧ '"' :: (raw ++ '"' :: left) = chars ++ rest := by
  obtain ⟨before, hbefore, rfl⟩ := exists_gap_of_readMark hmark
  obtain ⟨after, hafter, hleft⟩ := exists_gap left'
  refine ⟨_, ⟨raw, before, after, hkey, hbefore, hafter, rfl⟩, ?_⟩
  rw [hleft, htext]
  simp

/-- A text with a key in front of it that stands for these characters. -/
abbrev Keyed (key : String) (text chars : List Char) : Prop :=
  Labelled (StringText · key.toList) text chars

theorem exists_keyed {key : String} {text left left' : List Char}
    (hkey : StringText raw key.toList) (hmark : readMark (ε := ε) ':' left = .ok left')
    (htext : skipGap left' = text ++ rest) :
    ∃ chars, Keyed key text chars ∧ '"' :: (raw ++ '"' :: left) = chars ++ rest :=
  exists_labelled hkey hmark htext

theorem Keyed.readKey {key : String} {text chars : List Char} (h : Keyed key text chars)
    (rest : List Char) :
    ∃ after, Gap after ∧ readKey (ε := ε) (chars ++ rest) = .ok (key, after ++ (text ++ rest)) := by
  obtain ⟨raw, before, after, hkey, hbefore, hafter, rfl⟩ := h
  refine ⟨after, hafter, ?_⟩
  simp only [List.cons_append, List.append_assoc, Json.readKey, readString_text hkey, ok_bind,
    readMark_gap (by decide : isGap ':' = false) hbefore]
  rfl

theorem exists_of_readKey {key : String} {left : List Char}
    (h : readKey (ε := ε) cs = .ok (key, left)) {text : List Char}
    (htext : skipGap left = text ++ rest) : ∃ chars, Keyed key text chars ∧ cs = chars ++ rest := by
  unfold Json.readKey at h
  split at h
  · obtain ⟨⟨key', left'⟩, hstring, hrest⟩ := exists_of_bind h
    obtain ⟨left'', hmark, heq⟩ := exists_of_bind hrest
    cases heq
    obtain ⟨raw, rfl, hraw⟩ := exists_of_readString hstring
    exact exists_keyed hraw hmark htext
  · cases h

/-! ## The text of a container -/

/-- What stands in front of a part: a gap, and a comma in it in front of all but the first. -/
inductive Lead : Bool → List Char → Prop where
  | first {gap : List Char} : Gap gap → Lead true gap
  | next {gap gap' : List Char} : Gap gap → Gap gap' → Lead false (gap ++ ',' :: gap')

/-- The text of a container behind its opening bracket, with gaps around its parts. -/
inductive Parts (close : Char) : Bool → List (List Char) → List Char → Prop where
  | done {first : Bool} {gap : List Char} : Gap gap → Parts close first [] (gap ++ [close])
  | part {first : Bool} {lead part cs : List Char} {parts : List (List Char)} : Lead first lead →
      Parts close false parts cs → Parts close first (part :: parts) (lead ++ (part ++ cs))

variable {close : Char} {first : Bool}

theorem nextItem_gap_close (hclose : Closes close) (h : Gap gap) (first : Bool)
    (rest : List Char) :
    nextItem (ε := ε) close first (gap ++ close :: rest) = .ok (.done rest) := by
  rw [nextItem, skipGap_append h, skipGap_cons hclose.no_gap]
  exact if_pos rfl

theorem nextItem_lead (hclose : Closes close) {lead part : List Char} (h : Lead first lead)
    (hpart : Begins close part) (rest : List Char) :
    nextItem (ε := ε) close first (lead ++ (part ++ rest)) = .ok (.item (part ++ rest)) := by
  obtain ⟨c, cs, rfl, hgap, hc⟩ := hpart
  have hcomma : isGap ',' = false := by decide
  cases h with
  | first hlead => simp [nextItem, skipGap_append hlead, skipGap_cons hgap, hc]
  | next hlead hlead' =>
      rw [List.append_assoc, nextItem, skipGap_append hlead, List.cons_append,
        skipGap_cons hcomma]
      simp [hclose.ne_comma.symm, skipGap_append hlead', skipGap_cons hgap]

theorem exists_gap_of_nextItem (h : nextItem (ε := ε) close first cs = .ok (.done rest)) :
    ∃ gap, Gap gap ∧ cs = gap ++ close :: rest := by
  obtain ⟨gap, hgap, hcs⟩ := exists_gap cs
  unfold nextItem at h
  cases hskip : skipGap cs with
  | nil =>
      rw [hskip] at h
      cases h
  | cons c left =>
      rw [hskip] at h hcs
      dsimp only at h
      split at h
      case isTrue hc =>
        cases h
        subst hc
        exact ⟨gap, hgap, hcs⟩
      case isFalse =>
        split at h
        · cases h
        · split at h
          · cases h
          · cases h

theorem exists_lead_of_nextItem (h : nextItem (ε := ε) close first cs = .ok (.item rest)) :
    skipGap rest = rest ∧ ∃ lead, Lead first lead ∧ cs = lead ++ rest := by
  obtain ⟨gap, hgap, hcs⟩ := exists_gap cs
  have hstart := skipGap_skipGap cs
  unfold nextItem at h
  cases hskip : skipGap cs with
  | nil =>
      rw [hskip] at h
      cases h
  | cons c left =>
      rw [hskip] at h hcs hstart
      dsimp only at h
      split at h
      case isTrue => cases h
      case isFalse =>
        cases first with
        | true =>
            cases h
            exact ⟨hstart, gap, .first hgap, hcs⟩
        | false =>
            rw [if_neg (by decide)] at h
            split at h
            case isTrue hc =>
              cases h
              subst hc
              obtain ⟨gap', hgap', hleft⟩ := exists_gap left
              refine ⟨skipGap_skipGap left, gap ++ ',' :: gap', .next hgap hgap', ?_⟩
              rw [List.append_assoc, List.cons_append, ← hleft, ← hcs]
            case isFalse => cases h

theorem endsNumeral_gap (h : Gap gap) (hrest : EndsNumeral rest) : EndsNumeral (gap ++ rest) := by
  cases gap with
  | nil => exact hrest
  | cons c gap =>
      -- no character of a gap goes on with a numeral
      have hc : isGap c = true := h c (by simp)
      refine endsNumeral_cons ?_
      simp only [isGap, Bool.or_eq_true, decide_eq_true_eq] at hc
      rcases hc with ((rfl | rfl) | rfl) | rfl
      all_goals decide

/-- Behind a part no numeral goes on. -/
theorem Parts.endsNumeral (hclose : Closes close) {parts : List (List Char)} {text : List Char}
    (h : Parts close false parts text) (rest : List Char) : EndsNumeral (text ++ rest) := by
  cases h with
  | done hgap =>
      rw [List.append_assoc]
      exact endsNumeral_gap hgap (hclose.ends rest)
  | part hlead _ =>
      cases hlead with
      | next hgap _ =>
          rw [List.append_assoc, List.append_assoc]
          exact endsNumeral_gap hgap (endsNumeral_cons (by decide))

/-- Where a bracket closes the container, no part is left. -/
theorem Parts.readMark (hclose : Closes close) {parts : List (List Char)} {text : List Char}
    (h : Parts close false parts text) {rest' : List Char}
    (hread : readMark (ε := ε) close (text ++ rest) = .ok rest') : parts = [] ∧ rest' = rest := by
  cases h with
  | done hgap =>
      rw [List.append_assoc, List.singleton_append, readMark_gap hclose.no_gap hgap] at hread
      cases hread
      exact ⟨rfl, rfl⟩
  | part hlead _ =>
      cases hlead with
      | next hgap _ =>
          rw [List.append_assoc, List.append_assoc, Json.readMark, skipGap_append hgap,
            List.cons_append, skipGap_cons (by decide)] at hread
          dsimp only at hread
          rw [if_neg hclose.ne_comma.symm] at hread
          cases hread

/-! ## The loop over the parts -/

section Loop

variable {σ α : Type} {item : σ → Reader ε σ} {part : α → List Char} {Got : List α → σ → Prop}

/--
A part that is taken as it is written: if it can be read at all, then the reader stops
right behind it and has got one part more.
-/
structure Takes (close : Char) (item : σ → Reader ε σ) (part : α → List Char)
    (Got : List α → σ → Prop) (x : α) : Prop where
  begins : Begins close (part x)
  takes : ∀ {done s s' rest rest'}, Got done s → EndsNumeral rest →
    item s (part x ++ rest) = .ok (s', rest') → Got (done ++ [x]) s' ∧ rest' = rest

theorem Parts.foldItems (hclose : Closes close) {xs done : List α} {text : List Char}
    (h : Parts close first (xs.map part) text) (htakes : ∀ x ∈ xs, Takes close item part Got x)
    {bound : Nat} {s s' : σ} {rest' : List Char} (hgot : Got done s)
    (hread : foldItems close item bound first s (text ++ rest) = .ok (s', rest')) :
    Got (done ++ xs) s' ∧ rest' = rest := by
  -- each part takes one step of the loop, with those before it done
  induction xs generalizing first text done bound s with
  | nil =>
      cases h with
      | done hgap =>
          cases bound with
          | zero => cases hread
          | succ bound =>
              rw [Json.foldItems, List.append_assoc, List.singleton_append,
                nextItem_gap_close hclose hgap] at hread
              cases hread
              exact ⟨by rwa [List.append_nil], rfl⟩
  | cons x xs ih =>
      cases h with
      | @part _ lead _ text _ hlead hparts =>
          obtain ⟨hbegins, htakes'⟩ := htakes x (by simp)
          cases bound with
          | zero => cases hread
          | succ bound =>
              rw [Json.foldItems, List.append_assoc, List.append_assoc,
                nextItem_lead hclose hlead hbegins, ok_bind] at hread
              obtain ⟨⟨s₁, rest₁⟩, hitem, hread⟩ := exists_of_bind hread
              obtain ⟨hgot₁, rfl⟩ := htakes' hgot (hparts.endsNumeral hclose rest) hitem
              obtain ⟨hall, hrest⟩ := ih hparts (fun y hy => htakes y (by simp [hy])) hgot₁ hread
              exact ⟨by rwa [List.append_assoc] at hall, hrest⟩

/-- **The parts of a container are taken as they are written.** -/
theorem Parts.readItems (hclose : Closes close) {xs : List α} {text : List Char}
    (h : Parts close true (xs.map part) text) (htakes : ∀ x ∈ xs, Takes close item part Got x)
    {size : Nat} {s s' : σ} {rest' : List Char} (hgot : Got [] s)
    (hread : readItems size close item s (text ++ rest) = .ok (s', rest')) :
    Got xs s' ∧ rest' = rest := by
  rw [Json.readItems] at hread
  simpa using h.foldItems hclose htakes hgot hread

/-- What the reader takes as a part is the text of one, and then it has got one part more. -/
structure Gives (item : σ → Reader ε σ) (part : α → List Char) (Got : List α → σ → Prop)
    (P : α → Prop) : Prop where
  gives : ∀ {done s s' cs rest}, Got done s → skipGap cs = cs → item s cs = .ok (s', rest) →
    ∃ x, P x ∧ cs = part x ++ rest ∧ Got (done ++ [x]) s'

theorem Gives.foldItems {P : α → Prop} (hgives : Gives item part Got P) {bound : Nat}
    {s s' : σ} {done : List α} (hgot : Got done s)
    (h : Json.foldItems close item bound first s cs = .ok (s', rest)) :
    ∃ xs text, (∀ x ∈ xs, P x) ∧ cs = text ++ rest ∧ Parts close first (xs.map part) text ∧
      Got (done ++ xs) s' := by
  induction bound generalizing first s cs done with
  | zero => cases h
  | succ bound ih =>
      rw [Json.foldItems] at h
      obtain ⟨next, hnext, hstep⟩ := exists_of_bind h
      cases next with
      | done left =>
          cases hstep
          obtain ⟨gap, hgap, rfl⟩ := exists_gap_of_nextItem hnext
          refine ⟨[], gap ++ [close], by simp, by simp, .done hgap, ?_⟩
          rwa [List.append_nil]
      | item left =>
          obtain ⟨⟨s₁, left₁⟩, hread, hloop⟩ := exists_of_bind hstep
          obtain ⟨hstart, lead, hlead, rfl⟩ := exists_lead_of_nextItem hnext
          obtain ⟨x, hx, rfl, hgot₁⟩ := hgives.gives hgot hstart hread
          obtain ⟨xs, text, hxs, rfl, hparts, hall⟩ := ih hgot₁ hloop
          refine ⟨x :: xs, lead ++ (part x ++ text), ?_, by simp, .part hlead hparts, ?_⟩
          · exact List.forall_mem_cons.mpr ⟨hx, hxs⟩
          · rwa [List.append_assoc] at hall

/-- **A container that has been read consists of parts.** -/
theorem Gives.readItems {P : α → Prop} (hgives : Gives item part Got P) {size : Nat}
    {s s' : σ} (hgot : Got [] s) (h : Json.readItems size close item s cs = .ok (s', rest)) :
    ∃ xs text, (∀ x ∈ xs, P x) ∧ cs = text ++ rest ∧ Parts close true (xs.map part) text ∧
      Got xs s' := by
  rw [Json.readItems] at h
  simpa using hgives.foldItems hgot h

end Loop

end Linkage.Json
