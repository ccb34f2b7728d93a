import Linkage.Proofs.Json.Tokens

/-!
# Values are read back

A value that holds no floating-point number comes out of its compact text again,
as long as its containers are not nested too deeply for the reader. The proof
follows the nesting: a container is read part by part, each part is read by what
is known of the smaller values, and the state of the loop over the parts says
which parts were taken.

Objects keep their members sorted, and so the reader, which sorts, puts every
member behind those that it has already.
-/

namespace Linkage.Json

variable {ε : Type}

/-! ## The text of a container, part by part -/

/-- The text of a container behind its opening bracket: parts with commas between them. -/
def joined (close : Char) : Bool → List (List Char) → List Char
  | _, [] => [close]
  | first, part :: parts => (if first then [] else [',']) ++ part ++ joined close false parts

/-- The text of a member. -/
def memberChars (member : String × Json) : List Char :=
  quote member.1 ++ ':' :: compactChars member.2

theorem length_value_lt (member : String × Json) :
    (compactChars member.2).length < (memberChars member).length := by
  simp only [memberChars, List.length_append, List.length_cons]
  omega

theorem compactItems_eq (first : Bool) (items : List Json) :
    compactItems first items = joined ']' first (items.map compactChars) := by
  induction items generalizing first with
  | nil => simp [compactItems, joined]
  | cons v rest ih => simp [compactItems, joined, ih]

theorem compactMembers_eq (first : Bool) (members : List (String × Json)) :
    compactMembers first members = joined '\x7d' first (members.map memberChars) := by
  induction members generalizing first with
  | nil => simp [compactMembers, joined]
  | cons member rest ih => simp [compactMembers, joined, memberChars, ih]

theorem length_le_joined {α : Type} (close : Char) (part : α → List Char) (first : Bool)
    {x : α} {xs : List α} (h : x ∈ xs) :
    (part x).length ≤ (joined close first (xs.map part)).length := by
  induction xs generalizing first with
  | nil => exact absurd h (by simp)
  | cons y xs ih =>
      simp only [List.map_cons, joined, List.length_append]
      rcases List.mem_cons.mp h with rfl | hmem
      · omega
      · have hrest := ih false hmem
        omega

/-- A container has more characters than parts. -/
theorem length_lt_joined {α : Type} (close : Char) (part : α → List Char) (first : Bool)
    {xs : List α} (h : ∀ x ∈ xs, part x ≠ []) :
    xs.length < (joined close first (xs.map part)).length := by
  induction xs generalizing first with
  | nil => simp [joined]
  | cons x xs ih =>
      have hpart : 0 < (part x).length := List.length_pos_iff.mpr (h x (by simp))
      have hrest := ih false fun y hmem => h y (by simp [hmem])
      simp only [List.map_cons, joined, List.length_append, List.length_cons]
      omega

variable {close : Char} {part : List Char}

/-! ## The loop over the parts -/

/-- A part that begins with a character of its own: no gap, and not the closing bracket. -/
def Begins (close : Char) (part : List Char) : Prop :=
  ∃ c cs, part = c :: cs ∧ isGap c = false ∧ c ≠ close

/-- A bracket that closes a container. -/
structure Closes (close : Char) : Prop where
  no_gap : isGap close = false
  ne_comma : close ≠ ','
  ends : ∀ rest, EndsNumeral (close :: rest)

theorem closes_bracket : Closes ']' :=
  ⟨by decide, by decide, fun _ => endsNumeral_cons (by decide)⟩

theorem closes_brace : Closes '\x7d' :=
  ⟨by decide, by decide, fun _ => endsNumeral_cons (by decide)⟩

theorem skipGap_cons {c : Char} {cs : List Char} (h : isGap c = false) :
    skipGap (c :: cs) = c :: cs := by
  simp [skipGap, h]

theorem nextItem_close (hclose : Closes close) (first : Bool) (rest : List Char) :
    nextItem (ε := ε) close first (close :: rest) = .ok (.done rest) := by
  simp [nextItem, skipGap_cons hclose.no_gap]

/-- In front of a part stands a comma, unless it is the first one. -/
theorem nextItem_part (hclose : Closes close) (hpart : Begins close part) (first : Bool)
    (rest : List Char) :
    nextItem (ε := ε) close first ((if first then [] else [',']) ++ part ++ rest) =
      .ok (.item (part ++ rest)) := by
  obtain ⟨c, cs, rfl, hgap, hc⟩ := hpart
  have hcomma : isGap ',' = false := by decide
  cases first with
  | true => simp [nextItem, skipGap_cons hgap, hc]
  | false => simp [nextItem, skipGap_cons hcomma, skipGap_cons hgap, hclose.ne_comma.symm]

/--
Items that can be read one after the other: in a state that fits those to come, the
reader takes the first one, makes a step with it, and then fits the others.
-/
structure ReadsItems {σ α : Type} (close : Char) (item : σ → Reader ε σ) (step : σ → α → σ)
    (part : α → List Char) (Fits : σ → List α → Prop) : Prop where
  begins : ∀ {s x xs}, Fits s (x :: xs) → Begins close (part x)
  reads : ∀ {s x xs rest}, Fits s (x :: xs) → EndsNumeral rest →
    item s (part x ++ rest) = .ok (step s x, rest)
  next : ∀ {s x xs}, Fits s (x :: xs) → Fits (step s x) xs

/-- **A container is read part by part.** -/
theorem ReadsItems.foldItems {σ α : Type} {item : σ → Reader ε σ} {step : σ → α → σ}
    {part : α → List Char} {Fits : σ → List α → Prop}
    (h : ReadsItems close item step part Fits) (hclose : Closes close) {xs : List α} {s : σ}
    (hfits : Fits s xs) {bound : Nat} (hbound : xs.length < bound) (first : Bool)
    (rest : List Char) :
    Json.foldItems close item bound first s (joined close first (xs.map part) ++ rest) =
      .ok (xs.foldl step s, rest) := by
  induction xs generalizing s bound first with
  | nil =>
      obtain ⟨bound, rfl⟩ : ∃ n, bound = n + 1 := ⟨bound - 1, by simp at hbound; omega⟩
      rw [Json.foldItems]
      simp only [List.map_nil, joined, List.singleton_append, nextItem_close hclose, ok_bind]
      rfl
  | cons x xs ih =>
      obtain ⟨bound, rfl⟩ : ∃ n, bound = n + 1 := ⟨bound - 1, by simp at hbound; omega⟩
      -- behind the part stands the closing bracket or a comma, and a numeral goes on with neither
      have hends : EndsNumeral (joined close false (xs.map part) ++ rest) := by
        cases xs with
        | nil => exact hclose.ends rest
        | cons y ys => exact endsNumeral_cons (by decide)
      rw [Json.foldItems, List.map_cons, joined, List.append_assoc,
        nextItem_part hclose (h.begins hfits)]
      simp only [ok_bind, h.reads hfits hends]
      exact ih (h.next hfits) (by simpa using hbound) false

/-! ## Values that can be read back -/

/-- The members are sorted by key, each key once. -/
def SortedByKey (members : List (String × Json)) : Prop :=
  members.Pairwise fun m n => m.1 < n.1

/--
A value as a reader gives it, without floating-point numbers: integers fit in 64
bits, and the members of an object are sorted by key, each key once.
-/
inductive Readable : Json → Prop where
  | null : Readable .null
  | bool (b : Bool) : Readable (.bool b)
  | int {i : Int} : FitsInteger i → Readable (.int i)
  | str (s : String) : Readable (.str s)
  | arr {items : List Json} : (∀ v ∈ items, Readable v) → Readable (.arr items)
  | obj {members : List (String × Json)} : SortedByKey members →
      (∀ m ∈ members, Readable m.2) → Readable (.obj members)

theorem depth_le_depthItems {items : List Json} {v : Json} (h : v ∈ items) :
    depth v ≤ depthItems items := by
  induction items with
  | nil => exact absurd h (by simp)
  | cons w rest ih =>
      rw [depthItems]
      rcases List.mem_cons.mp h with rfl | hmem
      · omega
      · have hrest := ih hmem
        omega

theorem depth_le_depthMembers {members : List (String × Json)} {m : String × Json}
    (h : m ∈ members) : depth m.2 ≤ depthMembers members := by
  induction members with
  | nil => exact absurd h (by simp)
  | cons n rest ih =>
      rw [depthMembers]
      rcases List.mem_cons.mp h with rfl | hmem
      · omega
      · have hrest := ih hmem
        omega

/-- A key that comes after all others is put at the end. -/
theorem insert_eq_append {key : String} {members : List (String × Json)}
    (h : ∀ m ∈ members, m.1 < key) (v : Json) : insert key v members = members ++ [(key, v)] := by
  induction members with
  | nil => rfl
  | cons m rest ih =>
      have hm : m.1 < key := h m (by simp)
      have hne : key ≠ m.1 := by
        rintro rfl
        exact String.lt_irrefl _ hm
      rw [insert, if_neg hne, if_neg (String.lt_asymm hm), ih fun n hn => h n (by simp [hn])]
      rfl

/-! ## How a value begins -/

/-- A character that a value other than null can begin with. -/
structure Leads (c : Char) : Prop where
  no_gap : isGap c = false
  ne_bracket : c ≠ ']'
  ne_brace : c ≠ '\x7d'
  ne_null : c ≠ 'n'

theorem ne_of_startsNumber {c d : Char} (hc : startsNumber c = true)
    (hd : startsNumber d = false) : c ≠ d := by
  rintro rfl
  rw [hd] at hc
  exact absurd hc (by decide)

theorem leads_of_startsNumber {c : Char} (h : startsNumber c = true) : Leads c := by
  have hgap : isGap c = false := by
    cases hgap : isGap c with
    | false => rfl
    | true =>
        simp only [isGap, Bool.or_eq_true, decide_eq_true_eq] at hgap
        rcases hgap with ((rfl | rfl) | rfl) | rfl
        all_goals exact absurd h (by decide)
  exact ⟨hgap, ne_of_startsNumber h (by decide), ne_of_startsNumber h (by decide),
    ne_of_startsNumber h (by decide)⟩

theorem integerText_begins (i : Int) :
    ∃ c cs, integerText i = c :: cs ∧ startsNumber c = true := by
  cases i with
  | negSucc n => exact ⟨'-', _, rfl, rfl⟩
  | ofNat n =>
      cases hdigits : Linkage.Numeral.decimal n with
      | nil => exact absurd hdigits Nat.toDigits_ne_nil
      | cons d ds =>
          have hd : d.isDigit = true := isDigit_of_mem_decimal (n := n) (by simp [hdigits])
          exact ⟨d, ds, hdigits, by simp [startsNumber, hd]⟩

theorem Readable.leads {v : Json} (h : Readable v) (hne : v ≠ .null) :
    ∃ c cs, compactChars v = c :: cs ∧ Leads c := by
  cases h with
  | null => exact absurd rfl hne
  | bool b =>
      cases b with
      | false => exact ⟨'f', _, rfl, by decide, by decide, by decide, by decide⟩
      | true => exact ⟨'t', _, rfl, by decide, by decide, by decide, by decide⟩
  | int hi =>
      obtain ⟨c, cs, hc, hstart⟩ := integerText_begins _
      exact ⟨c, cs, by rw [compactChars, hc], leads_of_startsNumber hstart⟩
  | str s => exact ⟨'"', _, rfl, by decide, by decide, by decide, by decide⟩
  | arr hitems => exact ⟨'[', _, rfl, by decide, by decide, by decide, by decide⟩
  | obj hsorted hmembers => exact ⟨'\x7b', _, rfl, by decide, by decide, by decide, by decide⟩

theorem Readable.begins {v : Json} (h : Readable v) : Begins ']' (compactChars v) := by
  by_cases hnull : v = .null
  · subst hnull
    exact ⟨'n', _, rfl, by decide, by decide⟩
  · obtain ⟨c, cs, hc, hleads⟩ := h.leads hnull
    exact ⟨c, cs, hc, hleads.no_gap, hleads.ne_bracket⟩

/-! ## Reading values -/

/-- Reading takes a value from the front of a text again. -/
def ReadsBack (ε : Type) (size levels : Nat) (v : Json) : Prop :=
  ∀ rest, EndsNumeral rest → readValue (ε := ε) size levels (compactChars v ++ rest) = .ok (v, rest)

variable {size levels : Nat}

/-- What starts like a number is read as one. -/
theorem readValue_of_startsNumber {c : Char} (h : startsNumber c = true) (cs : List Char) :
    readValue (ε := ε) size levels (c :: cs) = readNumber (c :: cs) := by
  have hleads := leads_of_startsNumber h
  rw [readValue.eq_def]
  simp only [skipGap_cons hleads.no_gap]
  rw [if_neg hleads.ne_null, if_neg (ne_of_startsNumber h (by decide)),
    if_neg (ne_of_startsNumber h (by decide)), if_neg (ne_of_startsNumber h (by decide)), if_pos h]

theorem readValue_quote (cs : List Char) :
    readValue (ε := ε) size levels ('"' :: cs) = (do
      let (s, rest) ← readString cs
      return (.str s, rest)) := by
  rw [readValue.eq_def]
  rfl

theorem readsBack_null : ReadsBack ε size levels .null := by
  intro rest _
  rw [readValue.eq_def]
  rfl

theorem readsBack_bool (b : Bool) : ReadsBack ε size levels (.bool b) := by
  intro rest _
  rw [readValue.eq_def]
  cases b with
  | false => rfl
  | true => rfl

theorem readsBack_str (s : String) : ReadsBack ε size levels (.str s) := by
  intro rest _
  rw [compactChars, quote_append, readValue_quote, readString_escapes]
  rfl

theorem readsBack_int {i : Int} (hi : FitsInteger i) : ReadsBack ε size levels (.int i) := by
  intro rest hrest
  obtain ⟨c, cs, hc, hstart⟩ := integerText_begins i
  have hread := readNumber_integerText (ε := ε) hi hrest
  rw [hc] at hread
  rw [compactChars, hc]
  exact (readValue_of_startsNumber hstart _).trans hread

/-! ## Reading containers -/

/-- Reads an item and puts it in front of those before it. -/
def readItem (size levels : Nat) (items : List Json) : Reader ε (List Json) := fun cs => do
  let (v, cs) ← readValue size levels cs
  return (v :: items, cs)

/-- Reads a member into the members before it. -/
def readMember (size levels : Nat) (members : List (String × Json)) :
    Reader ε (List (String × Json)) := fun cs => do
  let (key, cs) ← readKey cs
  let (v, cs) ← readValue size levels cs
  return (insert key v members, cs)

theorem readValue_bracket (size levels : Nat) (cs : List Char) :
    readValue (ε := ε) size (levels + 1) ('[' :: cs) = (do
      let (items, rest) ← readItems size ']' (readItem size levels) [] cs
      return (.arr items.reverse, rest)) := by
  rw [readValue.eq_def]
  rfl

theorem readValue_brace (size levels : Nat) (cs : List Char) :
    readValue (ε := ε) size (levels + 1) ('\x7b' :: cs) = (do
      let (members, rest) ← readItems size '\x7d' (readMember size levels) [] cs
      return (.obj members, rest)) := by
  rw [readValue.eq_def]
  rfl

theorem readMark_colon (rest : List Char) : readMark (ε := ε) ':' (':' :: rest) = .ok rest := rfl

theorem readKey_memberChars (member : String × Json) (rest : List Char) :
    readKey (ε := ε) (memberChars member ++ rest) =
      .ok (member.1, compactChars member.2 ++ rest) := by
  rw [memberChars, List.append_assoc, quote_append, List.cons_append, readKey]
  simp only [readString_escapes, ok_bind, readMark_colon]
  rfl

/-- Items that are read back are read one after the other, each in front of those before it. -/
theorem readsItems_items {items : List Json} (hitems : ∀ v ∈ items, Readable v)
    (hread : ∀ v ∈ items, ReadsBack ε size levels v) :
    ReadsItems ']' (readItem (ε := ε) size levels) (fun items v => v :: items) compactChars
      fun _ left => left ⊆ items where
  begins hleft := (hitems _ (hleft (List.mem_cons_self ..))).begins
  reads hleft hends := by
    rw [readItem, hread _ (hleft (List.mem_cons_self ..)) _ hends]
    rfl
  next hleft := fun _ hv => hleft (List.mem_cons_of_mem _ hv)

/-- Members that are read back are read one after the other, each behind those before it. -/
theorem readsItems_members {members : List (String × Json)}
    (hread : ∀ m ∈ members, ReadsBack ε size levels m.2) :
    ReadsItems '\x7d' (readMember (ε := ε) size levels) (fun members m => members ++ [m])
      memberChars fun got left => left ⊆ members ∧ SortedByKey (got ++ left) where
  begins _ := ⟨'"', _, rfl, by decide, by decide⟩
  reads := by
    rintro got m left rest ⟨hleft, hsorted⟩ hends
    -- the members are sorted, so this one comes behind those that were got
    have hlast : ∀ n ∈ got, n.1 < m.1 := fun n hn =>
      (List.pairwise_append.mp hsorted).2.2 n hn m (List.mem_cons_self ..)
    rw [readMember, readKey_memberChars, ok_bind]
    dsimp only
    rw [hread m (hleft (List.mem_cons_self ..)) _ hends, ok_bind]
    dsimp only
    rw [insert_eq_append hlast]
    rfl
  next := by
    rintro got m left ⟨hleft, hsorted⟩
    exact ⟨fun _ hn => hleft (List.mem_cons_of_mem _ hn), by simpa [SortedByKey] using hsorted⟩

theorem readsBack_arr {items : List Json} (hitems : ∀ v ∈ items, Readable v)
    (hread : ∀ v ∈ items, ReadsBack ε size levels v)
    (hsize : (compactChars (.arr items)).length ≤ size) :
    ReadsBack ε size (levels + 1) (.arr items) := by
  intro rest _
  rw [compactChars, compactItems_eq] at hsize ⊢
  have hbound : items.length < size + 1 := by
    have hlt := length_lt_joined ']' compactChars true fun v hv => by
      obtain ⟨c, cs, hc, -⟩ := (hitems v hv).begins
      simp [hc]
    rw [List.length_cons] at hsize
    omega
  rw [List.cons_append, readValue_bracket, readItems,
    (readsItems_items hitems hread).foldItems closes_bracket (List.Subset.refl _) hbound true rest,
    ok_bind]
  have hgot : items.foldl (fun items v => v :: items) [] = items.reverse := by simp
  rw [hgot]
  dsimp only
  rw [List.reverse_reverse]
  rfl

theorem readsBack_obj {members : List (String × Json)} (hsorted : SortedByKey members)
    (hread : ∀ m ∈ members, ReadsBack ε size levels m.2)
    (hsize : (compactChars (.obj members)).length ≤ size) :
    ReadsBack ε size (levels + 1) (.obj members) := by
  intro rest _
  rw [compactChars, compactMembers_eq] at hsize ⊢
  have hbound : members.length < size + 1 := by
    have hlt := length_lt_joined '\x7d' memberChars true fun m (_ : m ∈ members) => by
      simp [memberChars, quote]
    rw [List.length_cons] at hsize
    omega
  have hfits : members ⊆ members ∧ SortedByKey ([] ++ members) := ⟨List.Subset.refl _, hsorted⟩
  have hgot : members.foldl (fun members m => members ++ [m]) [] = members := by
    rw [List.foldl_append_eq_append, List.nil_append, ← List.flatMap_def, List.flatMap_singleton']
  rw [List.cons_append, readValue_brace, readItems,
    (readsItems_members hread).foldItems closes_brace hfits hbound true rest, ok_bind, hgot]
  rfl

/-- **A value without floating-point numbers is read back.** -/
theorem Readable.readsBack {v : Json} (h : Readable v) {size levels : Nat}
    (hdepth : depth v ≤ levels) (hsize : (compactChars v).length ≤ size) :
    ReadsBack ε size levels v := by
  induction h generalizing levels with
  | null => exact readsBack_null
  | bool b => exact readsBack_bool b
  | int hi => exact readsBack_int hi
  | str s => exact readsBack_str s
  | @arr items hitems ih =>
      rw [depth] at hdepth
      obtain ⟨levels, rfl⟩ : ∃ n, levels = n + 1 := ⟨levels - 1, by omega⟩
      refine readsBack_arr hitems (fun v hv => ih v hv ?_ ?_) hsize
      · have hv := depth_le_depthItems hv
        omega
      · -- an item is no longer than the array
        rw [compactChars, compactItems_eq, List.length_cons] at hsize
        have hv := length_le_joined ']' compactChars true hv
        omega
  | @obj members hsorted hmembers ih =>
      rw [depth] at hdepth
      obtain ⟨levels, rfl⟩ : ∃ n, levels = n + 1 := ⟨levels - 1, by omega⟩
      refine readsBack_obj hsorted (fun m hm => ih m hm ?_ ?_) hsize
      · have hm := depth_le_depthMembers hm
        omega
      · rw [compactChars, compactMembers_eq, List.length_cons] at hsize
        have hvalue := length_value_lt m
        have hm := length_le_joined '\x7d' memberChars true hm
        omega

end Linkage.Json
