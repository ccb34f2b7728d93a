import Linkage.Proofs.Json.Numerals

/-!
# Values that are passed over

A value that nobody wants is passed over without a bound on its nesting, so the loop
that does it has a stack of the brackets that are still to come. `Passed` tells the
texts that it accepts, by their nesting: a text of this kind is passed over to its end
(`Passed.skipValue`), and what is passed over is such a text (`exists_passed`).

In the first direction a text is passed over with any stack below it. In the second
one, what is left to be passed over is told by `ClosesAll`: the rest of a container for
each bracket on the stack.
-/

namespace Linkage.Json

variable {ε : Type} {cs raw rest rest' gap : List Char}

/-! ## Strings -/

/-- What may stand between the quotes of a string: nobody looks at what escapes stand for. -/
inductive PassedString : List Char → Prop where
  | nil : PassedString []
  | plain {c : Char} {raw : List Char} : c ≠ '"' → c ≠ '\\' → 0x20 ≤ c.toNat →
      PassedString raw → PassedString (c :: raw)
  | letter {x : Char} {raw : List Char} : (unescape? x).isSome →
      PassedString raw → PassedString ('\\' :: x :: raw)
  | unit {a b c d : Char} {raw : List Char} : (unit? a b c d).isSome →
      PassedString raw → PassedString ('\\' :: 'u' :: a :: b :: c :: d :: raw)

theorem PassedString.skipString (h : PassedString raw) (rest : List Char) :
    skipString (ε := ε) (raw ++ '"' :: rest) = .ok rest := by
  induction h with
  | nil =>
      rw [List.nil_append, skipString.eq_def]
      exact if_pos rfl
  | plain hquote hbackslash hc _ ih =>
      rw [List.cons_append, skipString.eq_def]
      dsimp only
      rw [if_neg hquote, if_neg hbackslash, if_neg (Nat.not_lt.mpr hc), ih]
  | letter hx _ ih =>
      have hu := ne_u_of_unescape? hx
      rw [List.cons_append, List.cons_append, skipString.eq_def]
      simp [hx, hu, ih]
  | unit hn _ ih =>
      simp only [List.cons_append]
      rw [skipString.eq_def]
      simp [hn, ih]

theorem exists_passedString (h : skipString (ε := ε) cs = .ok rest) :
    ∃ raw, cs = raw ++ '"' :: rest ∧ PassedString raw := by
  fun_induction Json.skipString cs
  case case2 =>
    cases h
    exact ⟨[], rfl, .nil⟩
  case case3 hunit _ ih =>
    obtain ⟨raw, rfl, hraw⟩ := ih h
    exact ⟨_, rfl, .unit hunit hraw⟩
  case case5 hletter _ ih =>
    obtain ⟨raw, rfl, hraw⟩ := ih h
    exact ⟨_, rfl, .letter hletter hraw⟩
  case case9 hquote hbackslash hc ih =>
    obtain ⟨raw, rfl, hraw⟩ := ih h
    exact ⟨_, rfl, .plain hquote hbackslash (Nat.not_lt.mp hc) hraw⟩
  all_goals cases h

/-! ## Values -/

/-- What may stand where nobody wants the value. -/
inductive Passed : List Char → Prop where
  | word {word : List Char} : word ∈ ["null".toList, "true".toList, "false".toList] → Passed word
  | numeral {n : Numeral} {text : List Char} : NumeralText n text → Passed text
  | str {raw : List Char} : PassedString raw → Passed ('"' :: (raw ++ ['"']))
  | arr {items : List (List Char)} {text : List Char} : (∀ t ∈ items, Passed t) →
      Parts ']' true items text → Passed ('[' :: text)
  | obj {members : List (List Char × List Char)} {text : List Char} :
      (∀ m ∈ members, Labelled PassedString m.1 m.2) → (∀ m ∈ members, Passed m.1) →
      Parts '\x7d' true (members.map Prod.snd) text → Passed ('\x7b' :: text)

theorem Passed.begins (h : Passed cs) : Begins ']' cs := by
  cases h with
  | word hword =>
      simp only [List.mem_cons, List.not_mem_nil, or_false] at hword
      rcases hword with rfl | rfl | rfl
      all_goals exact ⟨_, _, rfl, by decide, by decide⟩
  | numeral htext =>
      obtain ⟨c, cs, rfl, hstart⟩ := htext.begins
      have hleads := leads_of_startsNumber hstart
      exact ⟨c, cs, rfl, hleads.no_gap, hleads.ne_bracket⟩
  | str _ => exact ⟨'"', _, rfl, by decide, by decide⟩
  | arr _ _ => exact ⟨'[', _, rfl, by decide, by decide⟩
  | obj _ _ _ => exact ⟨'\x7b', _, rfl, by decide, by decide⟩

/-! ## One step -/

/-- Passes over the value in front, and then over the rest of the containers that are open. -/
def skipOn (bound : Nat) (closes cs : List Char) : Except (ReadError ε) (List Char) := do
  match ← skipStart cs with
  | (some close, rest) => skipOpen bound (close :: closes) true rest
  | (none, rest) => skipOpen bound closes false rest

/-- Passes over a part of the container that a bracket closes. -/
def skipPart (bound : Nat) (close : Char) (closes cs : List Char) :
    Except (ReadError ε) (List Char) := do
  let rest ← if close = '\x7d' then skipKey cs else pure cs
  skipOn bound (close :: closes) rest

theorem skipOpen_nil (bound : Nat) (first : Bool) (cs : List Char) :
    skipOpen (ε := ε) bound [] first cs = .ok cs := by
  rw [skipOpen.eq_def]

theorem skipValue_eq (size : Nat) (cs : List Char) :
    skipValue (ε := ε) size cs = skipOn size [] cs := by
  unfold skipValue skipOn
  cases skipStart (ε := ε) cs with
  | error e => rfl
  | ok r =>
      obtain ⟨close, rest⟩ := r
      cases close with
      | none =>
          -- with nothing open it does not matter which part comes next
          show skipOpen size [] true rest = skipOpen size [] false rest
          rw [skipOpen_nil, skipOpen_nil]
      | some close => rfl

theorem skipOpen_succ (bound : Nat) (close : Char) (closes : List Char) (first : Bool)
    (cs : List Char) :
    skipOpen (ε := ε) (bound + 1) (close :: closes) first cs = (do
      match ← nextItem close first cs with
      | .done rest => skipOpen bound closes false rest
      | .item rest => skipPart bound close closes rest) := by
  rw [skipOpen.eq_def]
  rfl

theorem skipStart_gap (h : Gap gap) (cs : List Char) :
    skipStart (ε := ε) (gap ++ cs) = skipStart cs := by
  rw [skipStart, skipStart, skipGap_append h]

theorem skipOn_gap (h : Gap gap) (bound : Nat) (closes cs : List Char) :
    skipOn (ε := ε) bound closes (gap ++ cs) = skipOn bound closes cs := by
  rw [skipOn, skipOn, skipStart_gap h]

theorem skipValue_gap (h : Gap gap) (size : Nat) (cs : List Char) :
    skipValue (ε := ε) size (gap ++ cs) = skipValue size cs := by
  rw [skipValue_eq, skipValue_eq, skipOn_gap h]

theorem skipStart_of_startsNumber {c : Char} (h : startsNumber c = true) (cs : List Char) :
    skipStart (ε := ε) (c :: cs) = (fun r => (none, r.2)) <$> readNumeral (c :: cs) := by
  have hleads := leads_of_startsNumber h
  rw [skipStart, skipGap_cons hleads.no_gap]
  dsimp only
  rw [if_neg hleads.ne_null, if_neg (ne_of_startsNumber h (by decide)),
    if_neg (ne_of_startsNumber h (by decide)), if_neg (ne_of_startsNumber h (by decide)), if_pos h]

theorem skipStart_quote (cs : List Char) :
    skipStart (ε := ε) ('"' :: cs) = (fun rest => (none, rest)) <$> skipString cs := rfl

/-- What has been passed over at the front of a text: a value, or an opening bracket. -/
inductive Started : List Char → Option Char → List Char → Prop where
  | value {text rest : List Char} : Passed text → Started (text ++ rest) none rest
  | bracket {rest : List Char} : Started ('[' :: rest) (some ']') rest
  | brace {rest : List Char} : Started ('\x7b' :: rest) (some '\x7d') rest

theorem started_of_word {c : Char} {word : List Char} {close : Option Char}
    (hpassed : Passed (c :: word))
    (h : (fun r => (none, r.2)) <$> readWord (ε := ε) word cs = .ok (close, rest)) :
    Started (c :: cs) close rest := by
  obtain ⟨⟨u, left⟩, hword, heq⟩ := exists_of_map h
  cases heq
  rw [eq_of_readWord hword]
  exact .value hpassed

theorem started_of_skipStart {close : Option Char}
    (h : skipStart (ε := ε) cs = .ok (close, rest)) : Started (skipGap cs) close rest := by
  unfold skipStart at h
  generalize skipGap cs = cs at h ⊢
  split at h
  case h_1 => cases h
  case h_2 c left =>
    dsimp only at h
    split at h
    case isTrue hc =>
      subst hc
      exact started_of_word (.word (by decide)) h
    case isFalse =>
    split at h
    case isTrue hc =>
      subst hc
      exact started_of_word (.word (by decide)) h
    case isFalse =>
    split at h
    case isTrue hc =>
      subst hc
      exact started_of_word (.word (by decide)) h
    case isFalse =>
    split at h
    case isTrue hc =>
      subst hc
      obtain ⟨left', hstring, heq⟩ := exists_of_map h
      cases heq
      obtain ⟨raw, rfl, hraw⟩ := exists_passedString hstring
      have hvalue := @Started.value _ rest (.str hraw)
      rwa [List.cons_append, List.append_assoc] at hvalue
    case isFalse =>
    split at h
    case isTrue =>
      obtain ⟨⟨n, left'⟩, hnumeral, heq⟩ := exists_of_map h
      cases heq
      obtain ⟨text, hcs, htext⟩ := exists_of_readNumeral hnumeral
      rw [hcs]
      exact .value (.numeral htext)
    case isFalse =>
    split at h
    case isTrue hc =>
      subst hc
      cases h
      exact .bracket
    case isFalse =>
    split at h
    case isTrue hc =>
      subst hc
      cases h
      exact .brace
    case isFalse => cases h

/-! ## A text is passed over to its end -/

/-- If the rest can be passed over as well, then the text is passed over, whatever is open. -/
def PassedOver (ε : Type) (text : List Char) : Prop :=
  ∀ {bound : Nat} {closes rest rest' : List Char}, EndsNumeral rest →
    skipOn (ε := ε) bound closes (text ++ rest) = .ok rest' →
    ∃ bound', skipOpen (ε := ε) bound' closes false rest = .ok rest'

theorem passedOver_of_eq {text : List Char}
    (h : ∀ rest, EndsNumeral rest → skipStart (ε := ε) (text ++ rest) = .ok (none, rest)) :
    PassedOver ε text := by
  intro bound closes rest rest' hrest hskip
  rw [skipOn, h rest hrest] at hskip
  exact ⟨bound, hskip⟩

/-- A part of a container is passed over in the same way, and with it the key of a member. -/
structure PartPassed (ε : Type) (close : Char) (part : List Char) : Prop where
  begins : Begins close part
  passes : ∀ {bound : Nat} {closes rest rest' : List Char}, EndsNumeral rest →
    skipPart (ε := ε) bound close closes (part ++ rest) = .ok rest' →
    ∃ bound', skipOpen (ε := ε) bound' (close :: closes) false rest = .ok rest'

theorem Parts.skipOpen {close : Char} {first : Bool} {parts : List (List Char)}
    {text : List Char} (hclose : Closes close) (h : Parts close first parts text)
    (hparts : ∀ p ∈ parts, PartPassed ε close p) {bound : Nat} {closes : List Char}
    (hskip : skipOpen (ε := ε) bound (close :: closes) first (text ++ rest) = .ok rest') :
    ∃ bound', Json.skipOpen (ε := ε) bound' closes false rest = .ok rest' := by
  induction h generalizing bound with
  | done hgap =>
      cases bound with
      | zero => cases hskip
      | succ bound =>
          rw [skipOpen_succ, List.append_assoc, List.singleton_append,
            nextItem_gap_close hclose hgap] at hskip
          exact ⟨bound, hskip⟩
  | part hlead hrest ih =>
      cases bound with
      | zero => cases hskip
      | succ bound =>
          obtain ⟨hbegins, hpasses⟩ := hparts _ (List.mem_cons_self ..)
          rw [skipOpen_succ, List.append_assoc, List.append_assoc,
            nextItem_lead hclose hlead hbegins] at hskip
          obtain ⟨bound', hskip'⟩ := hpasses (hrest.endsNumeral hclose rest) hskip
          exact ih (fun p hp => hparts p (List.mem_cons_of_mem _ hp)) hskip'

theorem partPassed_item {t : List Char} (h : Passed t) (hover : PassedOver ε t) :
    PartPassed ε ']' t :=
  ⟨h.begins, hover⟩

theorem partPassed_member {text chars : List Char} (h : Labelled PassedString text chars)
    (hover : PassedOver ε text) : PartPassed ε '\x7d' chars where
  begins := labelled_begins h
  passes := by
    intro bound closes rest rest' hrest hskip
    obtain ⟨raw, before, after, hkey, hbefore, hafter, rfl⟩ := h
    have hskipkey : skipKey (ε := ε)
        ('"' :: (raw ++ '"' :: (before ++ ':' :: (after ++ text))) ++ rest) =
          .ok (after ++ (text ++ rest)) := by
      simp only [List.cons_append, List.append_assoc, Json.skipKey, hkey.skipString, ok_bind,
        readMark_gap (by decide : isGap ':' = false) hbefore]
    rw [skipPart, if_pos rfl, hskipkey, ok_bind] at hskip
    exact hover hrest ((skipOn_gap hafter bound _ _).symm.trans hskip)

/-- **A text is passed over to its end.** -/
theorem Passed.over {text : List Char} (h : Passed text) : PassedOver ε text := by
  induction h with
  | word hword =>
      refine passedOver_of_eq fun rest _ => ?_
      simp only [List.mem_cons, List.not_mem_nil, or_false] at hword
      rcases hword with rfl | rfl | rfl
      all_goals rfl
  | numeral htext =>
      refine passedOver_of_eq fun rest hrest => ?_
      have hread := htext.readNumeral (ε := ε) hrest
      obtain ⟨c, cs, rfl, hstart⟩ := htext.begins
      rw [List.cons_append] at hread ⊢
      rw [skipStart_of_startsNumber hstart, hread]
      rfl
  | str hraw =>
      refine passedOver_of_eq fun rest _ => ?_
      rw [List.cons_append, List.append_assoc, skipStart_quote, List.singleton_append,
        hraw.skipString]
      rfl
  | arr hitems hparts ih =>
      intro bound closes rest rest' _ hskip
      exact hparts.skipOpen closes_bracket (fun t ht => partPassed_item (hitems t ht) (ih t ht))
        hskip
  | obj hkeys hvalues hparts ih =>
      intro bound closes rest rest' _ hskip
      refine hparts.skipOpen closes_brace ?_ hskip
      intro p hp
      obtain ⟨m, hm, rfl⟩ := List.mem_map.mp hp
      exact partPassed_member (hkeys m hm) (ih m hm)

theorem Passed.skipValue {text : List Char} (h : Passed text) {size : Nat}
    (hrest : EndsNumeral rest) (hskip : skipValue (ε := ε) size (text ++ rest) = .ok rest') :
    rest' = rest := by
  rw [skipValue_eq] at hskip
  obtain ⟨bound, hdone⟩ := h.over hrest hskip
  rw [skipOpen_nil] at hdone
  exact (Except.ok.inj hdone).symm

/-! ## What is passed over -/

/-- A part of a container that a bracket closes, as it may stand where nobody wants it. -/
inductive PassedPart : Char → List Char → Prop where
  | item {close : Char} {text : List Char} : close ≠ '\x7d' → Passed text → PassedPart close text
  | member {text chars : List Char} : Labelled PassedString text chars → Passed text →
      PassedPart '\x7d' chars

/-- The rest of each of the containers that are open. -/
inductive ClosesAll : List Char → Bool → List Char → Prop where
  | nil {first : Bool} : ClosesAll [] first []
  | cons {close : Char} {closes text texts : List Char} {first : Bool}
      {parts : List (List Char)} : (∀ p ∈ parts, PassedPart close p) →
      Parts close first parts text → ClosesAll closes false texts →
      ClosesAll (close :: closes) first (text ++ texts)

theorem Passed.of_items {items : List (List Char)} {text : List Char}
    (hitems : ∀ p ∈ items, PassedPart ']' p) (hparts : Parts ']' true items text) :
    Passed ('[' :: text) := by
  refine .arr (fun t ht => ?_) hparts
  cases hitems t ht with
  | item _ ht => exact ht

theorem exists_members {parts : List (List Char)} (h : ∀ p ∈ parts, PassedPart '\x7d' p) :
    ∃ members : List (List Char × List Char), members.map Prod.snd = parts ∧
      (∀ m ∈ members, Labelled PassedString m.1 m.2) ∧ ∀ m ∈ members, Passed m.1 := by
  induction parts with
  | nil => exact ⟨[], rfl, by simp, by simp⟩
  | cons p parts ih =>
      obtain ⟨members, rfl, hkeys, hvalues⟩ := ih fun q hq => h q (List.mem_cons_of_mem _ hq)
      cases h p (List.mem_cons_self ..) with
      | item hne _ => exact absurd rfl hne
      | @member text chars hkey hvalue =>
          exact ⟨(text, p) :: members, rfl, List.forall_mem_cons.mpr ⟨hkey, hkeys⟩,
            List.forall_mem_cons.mpr ⟨hvalue, hvalues⟩⟩

theorem Passed.of_members {parts : List (List Char)} {text : List Char}
    (hmembers : ∀ p ∈ parts, PassedPart '\x7d' p) (hparts : Parts '\x7d' true parts text) :
    Passed ('\x7b' :: text) := by
  obtain ⟨members, rfl, hkeys, hvalues⟩ := exists_members hmembers
  exact .obj hkeys hvalues hparts

/-- One part more in front of the rest of a container. -/
theorem ClosesAll.part {close : Char} {closes lead part texts : List Char} {first : Bool}
    (hlead : Lead first lead) (hpart : PassedPart close part)
    (h : ClosesAll (close :: closes) false texts) :
    ClosesAll (close :: closes) first (lead ++ (part ++ texts)) := by
  cases h with
  | @cons _ _ text texts _ parts hall hparts hrest =>
      have hcons := ClosesAll.cons (List.forall_mem_cons.mpr ⟨hpart, hall⟩)
        (Parts.part hlead hparts) hrest
      simpa using hcons

section

variable {bound : Nat} (ih : ∀ {closes cs rest : List Char} {first : Bool},
  skipOpen (ε := ε) bound closes first cs = .ok rest →
    ∃ text, cs = text ++ rest ∧ ClosesAll closes first text)
include ih

/-- A value is passed over, and then the rest of what is open. -/
theorem exists_of_skipOn {closes : List Char}
    (h : skipOn (ε := ε) bound closes cs = .ok rest) :
    ∃ text texts, skipGap cs = text ++ (texts ++ rest) ∧ Passed text ∧
      ClosesAll closes false texts := by
  obtain ⟨⟨close, left⟩, hstart, hskip⟩ := exists_of_bind h
  have hstarted := started_of_skipStart hstart
  generalize skipGap cs = cs at hstarted ⊢
  cases hstarted with
  | @value text _ hpassed =>
      obtain ⟨texts, rfl, hcloses⟩ := ih hskip
      exact ⟨text, texts, rfl, hpassed, hcloses⟩
  | bracket =>
      -- the rest of the container that was opened last comes first
      obtain ⟨texts, rfl, hcloses⟩ := ih hskip
      cases hcloses with
      | @cons _ _ text texts _ _ hitems hparts hrest =>
          exact ⟨'[' :: text, texts, by simp, .of_items hitems hparts, hrest⟩
  | brace =>
      obtain ⟨texts, rfl, hcloses⟩ := ih hskip
      cases hcloses with
      | @cons _ _ text texts _ _ hmembers hparts hrest =>
          exact ⟨'\x7b' :: text, texts, by simp, .of_members hmembers hparts, hrest⟩

theorem exists_of_skipPart {close : Char} {closes : List Char} (hcs : skipGap cs = cs)
    (h : skipPart (ε := ε) bound close closes cs = .ok rest) :
    ∃ part texts, cs = part ++ (texts ++ rest) ∧ PassedPart close part ∧
      ClosesAll (close :: closes) false texts := by
  unfold skipPart at h
  split at h
  case isTrue hbrace =>
    subst hbrace
    obtain ⟨left, hkey, hskip⟩ := exists_of_bind h
    obtain ⟨text, texts, hleft, hpassed, hcloses⟩ := exists_of_skipOn ih hskip
    unfold skipKey at hkey
    split at hkey
    · obtain ⟨left', hstring, hmark⟩ := exists_of_bind hkey
      obtain ⟨raw, rfl, hraw⟩ := exists_passedString hstring
      obtain ⟨chars, hlabelled, heq⟩ := exists_labelled hraw hmark hleft
      exact ⟨chars, texts, heq, .member hlabelled hpassed, hcloses⟩
    · cases hkey
  case isFalse hne =>
    obtain ⟨text, texts, hleft, hpassed, hcloses⟩ := exists_of_skipOn ih h
    rw [hcs] at hleft
    exact ⟨text, texts, hleft, .item hne hpassed, hcloses⟩

end

theorem closesAll_of_skipOpen {bound : Nat} {closes : List Char} {first : Bool}
    (h : skipOpen (ε := ε) bound closes first cs = .ok rest) :
    ∃ text, cs = text ++ rest ∧ ClosesAll closes first text := by
  -- the stack grows and shrinks on the way, so the induction is on the bound of the loop
  induction bound generalizing closes cs first rest with
  | zero =>
      cases closes with
      | nil =>
          cases h
          exact ⟨[], rfl, .nil⟩
      | cons close closes => cases h
  | succ bound ih =>
      cases closes with
      | nil =>
          cases h
          exact ⟨[], rfl, .nil⟩
      | cons close closes =>
          rw [skipOpen_succ] at h
          obtain ⟨next, hnext, hskip⟩ := exists_of_bind h
          cases next with
          | done left =>
              obtain ⟨gap, hgap, rfl⟩ := exists_gap_of_nextItem hnext
              obtain ⟨texts, rfl, hcloses⟩ := ih hskip
              exact ⟨gap ++ [close] ++ texts, by simp, .cons (by simp) (.done hgap) hcloses⟩
          | item left =>
              obtain ⟨hstart, lead, hlead, rfl⟩ := exists_lead_of_nextItem hnext
              obtain ⟨part, texts, rfl, hpart, hcloses⟩ := exists_of_skipPart ih hstart hskip
              exact ⟨lead ++ (part ++ texts), by simp, hcloses.part hlead hpart⟩

/-- **What is passed over is a value.** -/
theorem exists_passed {size : Nat} (h : skipValue (ε := ε) size cs = .ok rest) :
    ∃ text, skipGap cs = text ++ rest ∧ Passed text := by
  rw [skipValue_eq] at h
  obtain ⟨text, texts, hcs, hpassed, hcloses⟩ := exists_of_skipOn closesAll_of_skipOpen h
  cases hcloses with
  | nil => exact ⟨text, hcs, hpassed⟩

end Linkage.Json
