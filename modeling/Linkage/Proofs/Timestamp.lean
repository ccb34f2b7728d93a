import Linkage.Log.Entry
import Linkage.Proofs.Calendar
import Linkage.Proofs.TextOrder

/-!
# What a timestamp tells

A timestamp can be read: its fields are numerals with marks between them, its date
lies a count of days behind the epoch, and the fields of the day add up. What is
read is the instant that was written, not before 1970 and in whole milliseconds.
So different milliseconds have different timestamps.

As long as the year has four digits, timestamps are also ordered as the instants
are. Every field has one width then, and the step from a number of milliseconds to
its fields is a division each time, but for the date; dates have the order of the
days since they have the order of their counts.
-/

namespace Linkage

namespace Instant

/-! ## The instant that is shown -/

/-- A clock counts less than a second in nanoseconds. -/
def Regular (t : Instant) : Prop := t.nanoseconds < 1000000000

instance (t : Instant) : Decidable t.Regular :=
  inferInstanceAs (Decidable (t.nanoseconds < 1000000000))

/-- The nanoseconds from the beginning of 1970 to an instant. -/
def fromEpoch (t : Instant) : Int := t.seconds * 1000000000 + t.nanoseconds

/-- The instant so many milliseconds behind the beginning of 1970. -/
def ofMilliseconds (ms : Nat) : Instant := ⟨ms / 1000, ms % 1000 * 1000000⟩

/-- The instant that a timestamp shows, not before 1970 and in whole milliseconds. -/
def shown (t : Instant) : Instant := ofMilliseconds (max 0 t.fromEpoch / 1000000).toNat

theorem Regular.milliseconds_eq {t : Instant} (h : t.Regular) :
    t.milliseconds = (max 0 t.fromEpoch / 1000000).toNat := by
  obtain ⟨seconds, nanoseconds⟩ := t
  have hns : nanoseconds < 1000000000 := h
  unfold milliseconds fromEpoch
  dsimp only
  cases seconds with
  | ofNat s =>
      rw [Int.ofNat_eq_natCast]
      dsimp only
      omega
  | negSucc s =>
      dsimp only
      omega

theorem milliseconds_ofMilliseconds (ms : Nat) : (ofMilliseconds ms).milliseconds = ms := by
  unfold ofMilliseconds milliseconds
  show ms / 1000 * 1000 + ms % 1000 * 1000000 / 1000000 = ms
  omega

theorem Regular.shown_eq {t : Instant} (h : t.Regular) :
    t.shown = ofMilliseconds t.milliseconds := by
  rw [shown, h.milliseconds_eq]

theorem Regular.text_shown {t : Instant} (h : t.Regular) : t.shown.text = t.text := by
  rw [h.shown_eq, text, milliseconds_ofMilliseconds, text]

theorem regular_shown (t : Instant) : t.shown.Regular := by
  unfold Regular shown ofMilliseconds
  dsimp only
  omega

theorem fromEpoch_shown (t : Instant) :
    t.shown.fromEpoch = max 0 t.fromEpoch / 1000000 * 1000000 := by
  unfold shown ofMilliseconds
  rw [fromEpoch]
  dsimp only
  omega

theorem Regular.milliseconds_le {t u : Instant} (ht : t.Regular) (hu : u.Regular)
    (h : t.fromEpoch ≤ u.fromEpoch) : t.milliseconds ≤ u.milliseconds := by
  rw [ht.milliseconds_eq, hu.milliseconds_eq]
  omega

/-! ## Reading a timestamp -/

/-- Reads a numeral up to the mark behind it, if it has as many digits as the field wants. -/
def readField (fits : Nat → Bool) (mark : Char) (cs : List Char) : Option (Nat × List Char) :=
  let digits := cs.takeWhile Char.isDigit
  match cs.dropWhile Char.isDigit with
  | [] => none
  | c :: rest =>
    if c = mark ∧ fits digits.length then some (Numeral.ofDecimal digits, rest) else none

/-- The instant at which a date begins. -/
def ofDate (d : Calendar.Date) : Instant :=
  ⟨((d.count : Int) - Calendar.Date.epoch.count) * 86400, 0⟩

/-- Reads a timestamp: a year of four digits or more, and all other fields in their widths. -/
def ofText? (s : String) : Option Instant := do
  let (year, cs) ← readField (4 ≤ ·) '-' s.toList
  let (month, cs) ← readField (· = 2) '-' cs
  let (day, cs) ← readField (· = 2) 'T' cs
  let (hour, cs) ← readField (· = 2) ':' cs
  let (minute, cs) ← readField (· = 2) ':' cs
  let (second, cs) ← readField (· = 2) '.' cs
  let (millisecond, cs) ← readField (· = 3) 'Z' cs
  let date : Calendar.Date := ⟨year, month, day⟩
  if cs = [] ∧ date.Valid ∧ hour < 24 ∧ minute < 60 ∧ second < 60 then
    some ⟨(ofDate date).seconds + (hour * 3600 + minute * 60 + second : Nat),
      millisecond * 1000000⟩
  else none

theorem readField_padded {fits : Nat → Bool} {mark : Char} {w n : Nat} (rest : List Char)
    (hmark : mark.isDigit = false) (hfits : fits (Numeral.padded w n).length = true) :
    readField fits mark (Numeral.padded w n ++ mark :: rest) = some (n, rest) := by
  have hdigits : ∀ c ∈ Numeral.padded w n, c.isDigit = true :=
    fun _ => Numeral.isDigit_of_mem_padded
  have hstop : ¬ mark.isDigit = true := by simp [hmark]
  unfold readField
  dsimp only
  rw [List.takeWhile_append_of_pos hdigits, List.dropWhile_append_of_pos hdigits,
    List.takeWhile_cons_of_neg hstop, List.dropWhile_cons_of_neg hstop, List.append_nil]
  dsimp only
  rw [if_pos ⟨rfl, hfits⟩, Numeral.ofDecimal_padded]

/-- A field of two places, for a number that has no more. -/
theorem readField_two (mark : Char) (n : Nat) (rest : List Char) (hmark : mark.isDigit = false)
    (hn : n < 100) :
    readField (· = 2) mark (Numeral.padded 2 n ++ mark :: rest) = some (n, rest) :=
  readField_padded rest hmark (decide_eq_true ((Numeral.keepsOrder_padded 1).length_eq n hn))

/-- The text of a date. -/
def dateText (d : Calendar.Date) : List Char :=
  Numeral.padded 4 d.year ++ '-' :: Numeral.padded 2 d.month ++ '-' :: Numeral.padded 2 d.day

/-- The text of a date and a time of the day. -/
def fieldsText (d : Calendar.Date) (hour minute second millisecond : Nat) : List Char :=
  dateText d ++ 'T' :: Numeral.padded 2 hour ++ ':' :: Numeral.padded 2 minute ++ ':' ::
    Numeral.padded 2 second ++ '.' :: Numeral.padded 3 millisecond ++ ['Z']

theorem textOfMilliseconds_eq (ms : Nat) :
    textOfMilliseconds ms =
      fieldsText (Calendar.dateOfDay (ms / 1000 / 86400)) (ms / 1000 % 86400 / 3600)
        (ms / 1000 % 86400 % 3600 / 60) (ms / 1000 % 86400 % 60) (ms % 1000) := rfl

theorem ofText?_fieldsText {d : Calendar.Date} {hour minute second millisecond : Nat}
    (hd : d.Valid) (hhour : hour < 24) (hminute : minute < 60) (hsecond : second < 60)
    (hmillisecond : millisecond < 1000) :
    ofText? (String.ofList (fieldsText d hour minute second millisecond)) =
      some ⟨(ofDate d).seconds + (hour * 3600 + minute * 60 + second : Nat),
        millisecond * 1000000⟩ := by
  have hmonth := hd.month_le
  have hday := Nat.le_trans hd.day_le (Calendar.Date.daysInMonth_le _ _)
  have hlength : (Numeral.padded 3 millisecond).length = 3 :=
    (Numeral.keepsOrder_padded 2).length_eq _ hmillisecond
  unfold ofText? fieldsText dateText
  rw [String.toList_ofList]
  simp only [List.append_assoc, List.cons_append]
  -- field by field, each up to its mark
  rw [readField_padded _ rfl (decide_eq_true (Numeral.le_length_padded 4 d.year))]
  simp only [Option.bind_eq_bind, Option.bind_some]
  simp only [readField_two '-' d.month _ rfl (by omega), readField_two 'T' d.day _ rfl (by omega),
    readField_two ':' hour _ rfl (by omega), readField_two ':' minute _ rfl (by omega),
    readField_two '.' second _ rfl (by omega), Option.bind_some]
  rw [readField_padded _ rfl (decide_eq_true hlength), Option.bind_some]
  exact if_pos ⟨rfl, hd, hhour, hminute, hsecond⟩

/-- **A timestamp is read as the instant it shows.** -/
theorem ofText?_textOfMilliseconds (ms : Nat) :
    ofText? (String.ofList (textOfMilliseconds ms)) = some (ofMilliseconds ms) := by
  obtain ⟨hvalid, hcount⟩ := Calendar.dateOfDay_spec (ms / 1000 / 86400)
  rw [textOfMilliseconds_eq, ofText?_fieldsText hvalid (by omega) (by omega) (by omega) (by omega),
    ofMilliseconds, ofDate, hcount, Option.some.injEq, Instant.mk.injEq]
  refine ⟨?_, rfl⟩
  dsimp only
  omega

theorem Regular.ofText?_text {t : Instant} (h : t.Regular) : ofText? t.text = some t.shown := by
  rw [text, ofText?_textOfMilliseconds, h.shown_eq]

/-- Timestamps are told apart by the instants that they show. -/
theorem Regular.text_eq_iff {t u : Instant} (ht : t.Regular) (hu : u.Regular) :
    t.text = u.text ↔ t.shown = u.shown := by
  constructor
  · intro h
    have hread := ht.ofText?_text
    rw [h, hu.ofText?_text] at hread
    exact (Option.some.inj hread).symm
  · intro h
    rw [← ht.text_shown, h, hu.text_shown]

/-! ## The order of timestamps -/

/-- A mark and a field of two places behind it. -/
theorem keepsOrder_field (mark : Char) {bound : Nat} (h : bound ≤ 100) :
    Text.KeepsOrder bound 3 fun n => mark :: Numeral.padded 2 n :=
  ((Numeral.keepsOrder_padded 1).mono h).cons mark

/-- **Dates have the order of the days**, as long as the year has four digits. -/
theorem keepsOrder_dateText :
    Text.KeepsOrder 2932897 10 fun days => dateText (Calendar.dateOfDay days) := by
  have hdate := Calendar.dateOfDay_spec
  have hfigures := ((Numeral.keepsOrder_padded 3).split
    (keepsOrder_field '-' (Nat.le_refl 100))).split (keepsOrder_field '-' (Nat.le_refl 100))
  have hlt (m n : Nat) (hmn : m < n) (_ : n < 2932897) :
      (Calendar.dateOfDay m).number < (Calendar.dateOfDay n).number := by
    obtain ⟨hm, hmcount⟩ := hdate m
    obtain ⟨hn, hncount⟩ := hdate n
    exact hm.number_lt hn (by omega)
  have hbound (days : Nat) (h : days < 2932897) :
      (Calendar.dateOfDay days).number < 10000 * 100 * 100 := by
    obtain ⟨hvalid, hcount⟩ := hdate days
    have hlate := Calendar.Date.count_tenThousand
    have hafter : (Calendar.dateOfDay days).number < 100000101 :=
      hvalid.number_lt (e := ⟨10000, 1, 1⟩) (by decide) (by omega)
    -- the month and the day of what comes before are not zero
    have hfields := hvalid.number_fields
    have hmonth := hvalid.one_le_month
    have hday := hvalid.one_le_day
    omega
  refine (hfigures.comp hlt hbound).congr fun days _ => ?_
  obtain ⟨hyear, hmonth, hday⟩ := (hdate days).1.number_fields
  rw [hyear, hmonth, hday, dateText]

/-- **Timestamps have the order of their milliseconds**, as long as the year has four digits. -/
theorem keepsOrder_textOfMilliseconds :
    Text.KeepsOrder (2932897 * 24 * 60 * 60 * 1000) 24 textOfMilliseconds := by
  have hfields := ((((keepsOrder_dateText.split
    (keepsOrder_field 'T' (show 24 ≤ 100 by decide))).split
    (keepsOrder_field ':' (show 60 ≤ 100 by decide))).split
    (keepsOrder_field ':' (show 60 ≤ 100 by decide))).split
    ((Numeral.keepsOrder_padded 2).cons '.')).append ['Z']
  refine hfields.congr fun n _ => ?_
  have hdays : n / 1000 / 86400 = n / 1000 / 60 / 60 / 24 := by omega
  have hhour : n / 1000 % 86400 / 3600 = n / 1000 / 60 / 60 % 24 := by omega
  have hminute : n / 1000 % 86400 % 3600 / 60 = n / 1000 / 60 % 60 := by omega
  have hsecond : n / 1000 % 86400 % 60 = n / 1000 % 60 := by omega
  rw [textOfMilliseconds_eq, hdays, hhour, hminute, hsecond]
  rfl

theorem fromEpoch_tenThousand :
    (ofDate ⟨10000, 1, 1⟩).fromEpoch = 2932897 * 86400 * 1000000000 := by
  have hcount := Calendar.Date.count_tenThousand
  unfold fromEpoch ofDate
  dsimp only
  omega

theorem Regular.milliseconds_lt {t : Instant} (h : t.Regular)
    (hbefore : t.fromEpoch < (ofDate ⟨10000, 1, 1⟩).fromEpoch) :
    t.milliseconds < 2932897 * 24 * 60 * 60 * 1000 := by
  rw [fromEpoch_tenThousand] at hbefore
  rw [h.milliseconds_eq]
  omega

theorem length_text {t : Instant} (h : t.milliseconds < 2932897 * 24 * 60 * 60 * 1000) :
    t.text.length = 24 := by
  rw [text, String.length_ofList]
  exact keepsOrder_textOfMilliseconds.length_eq _ h

theorem text_lt_text {t u : Instant} (hlt : t.milliseconds < u.milliseconds)
    (hu : u.milliseconds < 2932897 * 24 * 60 * 60 * 1000) : t.text < u.text := by
  rw [String.lt_iff, text, text, String.toList_ofList, String.toList_ofList]
  exact keepsOrder_textOfMilliseconds.lt _ _ hlt hu

/-! ## The timestamps of entries -/

theorem timestamp_ofMilestone (t : Instant) (m : Milestone) :
    (Log.Entry.ofMilestone t m).timestamp = t.text := by
  cases m with
  | started => rfl
  | primaryLoaded => rfl
  | fallbackLoaded => rfl
  | ready => rfl
  | degraded => rfl

/--
**Timestamps tell their instants, and stand in the order of time.**

The timestamp of an entry is the text of the instant that is shown, which is not before 1970 and
has whole milliseconds, and this instant is what is read from it. Two timestamps are the same only
if they show the same instant. Before the year 10000 all of them have 24 characters, and a later
instant has no smaller timestamp; it has a greater one as soon as it is shown as another instant.
-/
theorem text_faithful {t : Instant} (ht : t.Regular) :
    (t.shown.Regular ∧ t.shown.fromEpoch = max 0 t.fromEpoch / 1000000 * 1000000) ∧
      (∀ level event, (Log.Entry.new t level event).timestamp = t.shown.text) ∧
      (∀ m, (Log.Entry.ofMilestone t m).timestamp = t.shown.text) ∧
      ofText? t.text = some t.shown ∧
      ∀ u : Instant, u.Regular →
        (t.text = u.text ↔ t.shown = u.shown) ∧
        (t.fromEpoch ≤ u.fromEpoch → u.fromEpoch < (ofDate ⟨10000, 1, 1⟩).fromEpoch →
          t.text.length = 24 ∧ u.text.length = 24 ∧ t.text ≤ u.text ∧
            (t.shown ≠ u.shown → t.text < u.text)) := by
  have hshown := ht.text_shown
  refine ⟨⟨regular_shown t, fromEpoch_shown t⟩, fun _ _ => hshown.symm,
    fun m => (timestamp_ofMilestone t m).trans hshown.symm, ht.ofText?_text,
    fun u hu => ⟨ht.text_eq_iff hu, fun hle hbefore => ?_⟩⟩
  have hms := ht.milliseconds_le hu hle
  have hlimit := hu.milliseconds_lt hbefore
  refine ⟨length_text (Nat.lt_of_le_of_lt hms hlimit), length_text hlimit, ?_⟩
  rcases Nat.lt_or_eq_of_le hms with hlt | heq
  · have htext := text_lt_text hlt hlimit
    exact ⟨String.not_lt.mp (String.lt_asymm htext), fun _ => htext⟩
  · have hsame : t.shown = u.shown := by
      rw [ht.shown_eq, heq, hu.shown_eq]
    rw [(ht.text_eq_iff hu).mpr hsame]
    exact ⟨String.le_refl _, fun hne => absurd hsame hne⟩

/-- One nanosecond before a leap day, and the leap day. -/
theorem text_faithful_leapDay :
    let t : Instant := ⟨951782399, 999999999⟩
    let u : Instant := ⟨951782400, 0⟩
    (t.Regular ∧ u.Regular ∧ t.fromEpoch ≤ u.fromEpoch ∧
      u.fromEpoch < (ofDate ⟨10000, 1, 1⟩).fromEpoch) ∧
      t.text = "2000-02-28T23:59:59.999Z" ∧ u.text = "2000-02-29T00:00:00.000Z" ∧
      ofText? t.text = some ⟨951782399, 999000000⟩ ∧ t.text < u.text := by
  intro t u
  have ht : t.Regular := by decide
  have hu : u.Regular := by decide
  have hle : t.fromEpoch ≤ u.fromEpoch := by decide
  have hbefore : u.fromEpoch < (ofDate ⟨10000, 1, 1⟩).fromEpoch := by
    rw [fromEpoch_tenThousand]
    decide
  obtain ⟨-, -, -, hread, hpair⟩ := text_faithful ht
  obtain ⟨-, horder⟩ := hpair u hu
  obtain ⟨-, -, -, hlt⟩ := horder hle hbefore
  have hshown : t.shown = ⟨951782399, 999000000⟩ := by decide
  exact ⟨⟨ht, hu, hle, hbefore⟩, by decide, by decide, hshown ▸ hread, hlt (by decide)⟩

end Instant

end Linkage
