import Linkage.Proofs.LogStream

/-!
# A line that is lost keeps its number

An output may refuse any line, or take it and refuse to be flushed. An emitter
takes the number of an entry before it turns to its output, so what becomes of the
line has no part in the numbering: the state of the emitter after a call depends on
the entry alone (`fst_emit`), and so do the identifiers of a whole run
(`carried_performAll`). Two runs over the same entries differ in what is refused and in
nothing else.

An identifier tells its run and its number. The name of a run may hold anything,
colons and digits included, but a number holds no colon, and so the last two colons
of an identifier are those between the two.
-/

namespace Linkage.Log

/-! ## What refuses a line -/

/-- Why a destination refuses what is written at the moment, if it does. -/
def Outputs.refusalAt? (o : Outputs) : Destination → Option Refusal
  | .stdout | .stderr => none
  | .buffer => o.refusal?
  | .file at_ => if o.files.look at_ = some (.device .full) then some (.file .noSpace) else none

/-- A write fails exactly if its destination refuses it, whatever the text is. -/
theorem Outputs.snd_write (o : Outputs) (d : Destination) (text : String) :
    (o.write d text).2 = (o.refusalAt? d).elim (.ok ()) .error := by
  cases d with
  | stdout | stderr => rfl
  | buffer =>
      cases h : o.refusal? with
      | none => simp [write, refusalAt?, h]
      | some refusal =>
          cases refusal with
          | write | flush | file cause => simp [write, refusalAt?, h]
  | file at_ =>
      by_cases hfull : o.files.look at_ = some (.device .full)
      · have happend : o.files.append at_ (Utf8.encode text) = .error .noSpace := by
          unfold FileSystem.append
          rw [hfull]
        simp [write, refusalAt?, hfull, happend]
      · obtain ⟨fs, hfs⟩ := (FileSystem.append_ok_iff (Utf8.encode text)).mpr hfull
        simp [write, refusalAt?, hfull, hfs]

namespace Emitter

/-! ## Identifiers -/

theorem eq_of_append_cons {α : Type} {a b : List α} {x : α} {c d : List α} (hc : x ∉ c)
    (hd : x ∉ d) (h : a ++ x :: c = b ++ x :: d) : a = b ∧ c = d := by
  rcases List.append_eq_append_iff.mp h with ⟨cut, rfl, hcut⟩ | ⟨cut, rfl, hcut⟩
  · cases cut with
    | nil => simpa using hcut
    | cons y cut =>
        obtain ⟨-, rfl⟩ := List.cons.inj hcut
        exact absurd (by simp) hc
  · cases cut with
    | nil => simpa [eq_comm] using hcut
    | cons y cut =>
        obtain ⟨-, rfl⟩ := List.cons.inj hcut
        exact absurd (by simp) hd

theorem colon_notMem_padded (width n : Nat) : ':' ∉ Numeral.padded width n := by
  intro h
  rcases List.mem_append.mp h with hzero | hdigit
  · exact absurd (List.eq_of_mem_replicate hzero) (by decide)
  · exact absurd (Json.isDigit_of_mem_decimal hdigit) (by decide)

/-- **An identifier tells its run and its number**, whatever the run is called. -/
theorem traceId_eq_iff {run run' : String} {m n : Nat} :
    traceId run m = traceId run' n ↔ run = run' ∧ m = n := by
  constructor
  · intro h
    -- the last colon stands in front of the number, whatever the run is called
    have hlists : ("syslookup::".toList ++ run.toList ++ [':']) ++ ':' :: Numeral.padded 3 m =
        ("syslookup::".toList ++ run'.toList ++ [':']) ++ ':' :: Numeral.padded 3 n := by
      have hlists := congrArg String.toList h
      simpa [traceId] using hlists
    obtain ⟨hfront, hdigits⟩ :=
      eq_of_append_cons (colon_notMem_padded 3 m) (colon_notMem_padded 3 n) hlists
    have hread := congrArg Numeral.ofDecimal hdigits
    rw [Numeral.ofDecimal_padded, Numeral.ofDecimal_padded] at hread
    refine ⟨?_, hread⟩
    rw [← String.toList_inj]
    simpa using hfront
  · rintro ⟨rfl, rfl⟩
    rfl

/-- The name of a run may end as if a number followed. -/
example : traceId "1::002" 3 = "syslookup::1::002::003" := by decide

/-! ## One call -/

/-- A call of an emitter: an entry, and what becomes of the outputs before it is written. -/
structure Call where
  entry : Entry
  meanwhile : Outputs → Outputs

/-- What came of a call. -/
structure Outcome where
  /-- The outputs that the call found. -/
  found : Outputs
  /-- The outputs that it left. -/
  left : Outputs
  /-- The entry as it was to be written. -/
  carried : Entry
  result : Except Refusal Unit

/-- Makes a call. -/
def perform (e : Emitter) (o : Outputs) (call : Call) : Emitter × Outcome :=
  let found := call.meanwhile o
  let (after, left, result) := e.emit call.entry found
  (after, { found, left, carried := (e.identify call.entry).2, result })

/-- Makes calls one after the other. -/
def performAll (e : Emitter) (o : Outputs) : List Call → Emitter × List Outcome
  | [] => (e, [])
  | call :: calls =>
    let (after, outcome) := e.perform o call
    let (last, outcomes) := after.performAll outcome.left calls
    (last, outcome :: outcomes)

/-- The entry needs a number. -/
def needsNumber (entry : Entry) : Bool := entry.traceId = ""

variable (e : Emitter) (o : Outputs) (entry : Entry) (call : Call) (calls : List Call)

/-- **A call takes one number or none**, and the outputs have no part in that. -/
theorem fst_emit : (e.emit entry o).1 = e.past (if entry.traceId = "" then 1 else 0) :=
  past_identify e entry

/-- The line of the entry that is carried is what the outputs are asked to take. -/
theorem snd_emit :
    (e.emit entry o).2 = o.write e.destination ((e.identify entry).2.line ++ "\n") := by
  have hwrite : (e.emit entry o).2 =
      o.write (e.identify entry).1.destination ((e.identify entry).2.line ++ "\n") := rfl
  rw [hwrite, destination_identify]

/-- The line of an outcome went to a destination, and the call failed if it was refused there. -/
structure Outcome.Follows (outcome : Outcome) (d : Destination) : Prop where
  left : outcome.left = (outcome.found.write d (outcome.carried.line ++ "\n")).1
  result : outcome.result = (outcome.found.refusalAt? d).elim (.ok ()) .error

theorem perform_follows : (e.perform o call).2.Follows e.destination where
  left := congrArg Prod.fst (snd_emit e (call.meanwhile o) call.entry)
  result := by
    have hresult : (e.perform o call).2.result =
        ((call.meanwhile o).write e.destination ((e.identify call.entry).2.line ++ "\n")).2 :=
      congrArg Prod.snd (snd_emit e (call.meanwhile o) call.entry)
    rw [hresult]
    exact Outputs.snd_write ..

/-! ## A run of calls -/

theorem performAll_cons :
    e.performAll o (call :: calls) =
      (((e.perform o call).1.performAll (e.perform o call).2.left calls).1,
        (e.perform o call).2 ::
          ((e.perform o call).1.performAll (e.perform o call).2.left calls).2) := rfl

theorem fst_perform :
    (e.perform o call).1 = e.past (if call.entry.traceId = "" then 1 else 0) :=
  fst_emit e (call.meanwhile o) call.entry

theorem fst_performAll :
    (e.performAll o calls).1 = e.past (calls.countP (needsNumber ·.entry)) := by
  induction calls generalizing e o with
  | nil => rfl
  | cons call calls ih =>
      -- what the first call leaves is no matter, for the hypothesis is about any outputs
      rw [performAll_cons, ih, fst_perform, past_past, List.countP_cons]
      simp [needsNumber, Nat.add_comm]

theorem length_performAll : (e.performAll o calls).2.length = calls.length := by
  induction calls generalizing e o with
  | nil => rfl
  | cons call calls ih => rw [performAll_cons, List.length_cons, List.length_cons, ih]

theorem follows_of_mem_performAll {outcome : Outcome} (h : outcome ∈ (e.performAll o calls).2) :
    outcome.Follows e.destination := by
  induction calls generalizing e o with
  | nil => exact absurd h (by simp [performAll])
  | cons call calls ih =>
      rw [performAll_cons] at h
      rcases List.mem_cons.mp h with rfl | hmem
      · exact perform_follows e o call
      · have hdest : (e.perform o call).1.destination = e.destination :=
          destination_identify e call.entry
        rw [← hdest]
        exact ih _ _ hmem

/-- The lines of some calls, with the numbers behind those that an emitter has taken. -/
def linesOfCalls : List Line := renumber e.run e.taken (calls.map (Line.of ·.entry))

/-- **The entries that a run carries depend on the entries alone.** -/
theorem carried_performAll :
    (e.performAll o calls).2.map (·.carried) = (e.linesOfCalls calls).map (·.entry) := by
  unfold linesOfCalls
  induction calls generalizing e o with
  | nil => rfl
  | cons call calls ih =>
      have hfirst : ((Line.of call.entry).number e.run (e.taken + 1)).entry =
          (e.perform o call).2.carried := by
        show _ = (e.identify call.entry).2
        unfold Line.number Line.of identify
        by_cases hid : call.entry.traceId = ""
        · simp [hid]
        · simp [hid]
      rw [performAll_cons, List.map_cons, List.map_cons, renumber_cons, List.map_cons, hfirst, ih,
        fst_perform]
      simp [past, Line.of]

/-- A call of an emitter whose buffer takes the line, or refuses it for a reason. -/
def Call.facing (entry : Entry) (refusal? : Option Refusal) : Call :=
  ⟨entry, fun o => { o with refusal? }⟩

/-- A buffer can refuse any of the lines and take the others. -/
theorem results_facing (h : e.destination = .buffer) (pattern : List (Entry × Option Refusal)) :
    (e.performAll o (pattern.map fun p => .facing p.1 p.2)).2.map (·.result) =
      pattern.map fun p => p.2.elim (.ok ()) .error := by
  induction pattern generalizing e o with
  | nil => rfl
  | cons p pattern ih =>
      have hdest : (e.perform o (.facing p.1 p.2)).1.destination = .buffer :=
        (destination_identify e p.1).trans h
      have hresult : (e.perform o (.facing p.1 p.2)).2.result = p.2.elim (.ok ()) .error := by
        rw [(perform_follows e o (.facing p.1 p.2)).result, h]
        rfl
      rw [List.map_cons, performAll_cons, List.map_cons, List.map_cons, hresult, ih _ _ hdest]

/-- The identifiers of the entries that came without one. -/
def chosenIds (lines : List Line) : List String :=
  (lines.filter (·.isAuto)).map (·.entry.traceId)

theorem chosenIds_linesOfCalls :
    chosenIds (e.linesOfCalls calls) =
      (List.range (calls.countP (needsNumber ·.entry))).map fun k =>
        traceId e.run (e.taken + k + 1) := by
  have hcount : (calls.map (Line.of ·.entry)).countP (·.isAuto) =
      calls.countP (needsNumber ·.entry) := by
    rw [List.countP_map]
    rfl
  rw [chosenIds, linesOfCalls, traceIds_renumber, hcount]

/--
**No identifier is given twice, whatever becomes of the lines.**

A call fails exactly if its line is refused, and any lines of a run may be. It takes one number if
its entry has no identifier, and none if it has one, in either case. So the entries that a run
carries are those of every other run over the same entries, one without refusals among them, and the
identifiers that were chosen count on from the numbers taken before. They are told apart by their
numbers, and those of emitters of two runs by the names of the runs.
-/
theorem performAll_keeps_numbers (e : Emitter) (o : Outputs) (calls : List Call) :
    let after := (e.performAll o calls).1
    let outcomes := (e.performAll o calls).2
    let count := calls.countP (needsNumber ·.entry)
    (outcomes.length = calls.length ∧ ∀ outcome ∈ outcomes, outcome.Follows e.destination) ∧
    (∀ pattern : List (Entry × Option Refusal), e.destination = .buffer →
      (e.performAll o (pattern.map fun p => .facing p.1 p.2)).2.map (·.result) =
        pattern.map fun p => p.2.elim (.ok ()) .error) ∧
    (∀ entry found, (e.emit entry found).1.taken =
      e.taken + if entry.traceId = "" then 1 else 0) ∧
    (after.taken = e.taken + count ∧ count ≤ calls.length) ∧
    outcomes.map (·.carried) = (e.linesOfCalls calls).map (·.entry) ∧
    (∀ o' calls', calls'.map (·.entry) = calls.map (·.entry) →
      (e.performAll o' calls').2.map (·.carried) = outcomes.map (·.carried)) ∧
    (chosenIds (e.linesOfCalls calls) = (List.range count).map fun k =>
      traceId e.run (e.taken + k + 1)) ∧
    (chosenIds (e.linesOfCalls calls)).Nodup ∧
    ∀ run run' m n, traceId run m = traceId run' n ↔ run = run' ∧ m = n := by
  intro after outcomes count
  refine ⟨⟨length_performAll e o calls, fun _ => follows_of_mem_performAll e o calls⟩,
    fun pattern h => results_facing e o h pattern, ?_, ⟨?_, List.countP_le_length⟩,
    carried_performAll e o calls, ?_, chosenIds_linesOfCalls e calls, ?_,
    fun _ _ _ _ => traceId_eq_iff⟩
  · intro entry found
    rw [fst_emit]
    rfl
  · show (e.performAll o calls).1.taken = _
    rw [fst_performAll]
    rfl
  · intro o' calls' hentries
    have hlines : e.linesOfCalls calls' = e.linesOfCalls calls := by
      have hof := congrArg (List.map Line.of) hentries
      rw [List.map_map, List.map_map] at hof
      exact congrArg (renumber e.run e.taken) hof
    show _ = (e.performAll o calls).2.map (·.carried)
    rw [carried_performAll, carried_performAll, hlines]
  · rw [chosenIds_linesOfCalls]
    refine List.Pairwise.map _ (fun m n hne h => ?_) List.nodup_range
    have hmn := (traceId_eq_iff.mp h).2
    omega

/-- The first of three lines is refused, and the last one is not flushed. -/
theorem performAll_keeps_numbers_three_entries :
    let e : Emitter := { destination := .buffer, run := "1::002" }
    let first := Entry.new ⟨0, 0⟩ .info "first"
    let fixed := { Entry.new ⟨0, 0⟩ .warn "second" with traceId := "fixed" }
    let last := Entry.new ⟨0, 0⟩ .error "third"
    let pattern := [(first, some Refusal.write), (fixed, none), (last, some Refusal.flush)]
    let calls := pattern.map fun p => Call.facing p.1 p.2
    let smooth := pattern.map fun p => Call.facing p.1 none
    (e.performAll {} calls).2.map (·.result) = [.error .write, .ok (), .error .flush] ∧
      (e.performAll {} smooth).2.map (·.carried) = (e.performAll {} calls).2.map (·.carried) ∧
      (e.performAll {} calls).2.map (·.carried.traceId) =
        ["syslookup::1::002::001", "fixed", "syslookup::1::002::002"] ∧
      (e.performAll {} calls).1.taken = 2 := by
  intro e first fixed last pattern calls smooth
  obtain ⟨-, hresults, -, ⟨htaken, -⟩, hcarried, hsame, -, -, -⟩ :=
    performAll_keeps_numbers e {} calls
  refine ⟨hresults pattern rfl, hsame {} smooth rfl, ?_, htaken⟩
  have hids := congrArg (List.map Entry.traceId) hcarried
  rw [List.map_map] at hids
  exact hids.trans (by decide)

end Emitter

end Linkage.Log
