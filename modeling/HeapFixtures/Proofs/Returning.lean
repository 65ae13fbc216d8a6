/-
# Runs that come back

A fixture turns down settings that it cannot run with.  With settings that it accepts, on an
allocator that does not panic, it should come back with an answer or a fault, whatever is refused
on the way.  It does, with a few exceptions, which are all due to the size of the settings.

* The growing fixture counts its requests in a word, and panics after the round whose requests
  the word does not take.
* A pool reserves room for the handles of its workers before the first of them is started.  It
  panics if no address space has that much room, and the process gives up on itself if the
  machine has not; nobody is told of either.
* A pool adds up the cycles of its workers for its last event, and panics over the sum if the
  event is written.

A thread that is refused is an ordinary fault, and shown to the hook.  Besides, a hook can end the
process, and so can a signal that nobody receives.
-/

import HeapFixtures.Proofs.Asking
import HeapFixtures.Proofs.Overrun
import Mathlib.Algebra.Group.Action.Defs
import Mathlib.Algebra.Order.BigOperators.Group.List

namespace HeapFixtures

namespace Sequential

/-- In a pause a signal arrives that nobody receives and that the process does not survive. -/
def Pauses.Kills (pauses : Pauses) (signal : Signal) : Prop :=
  signal.asksToStop = false ∧ signal.isHarmless = false ∧
    ∃ completed, pauses completed = some signal

/-- What a turn of a loop with a limit comes to.  One that is followed by another is within the
limit, so its number is a word. -/
inductive Advances (pauses : Pauses) (limit : UInt64) (session : Session) : Turn → Prop
  | again {next : Session} (sturdy : next.stack.Sturdy 0)
      (counted : next.completed.toNat = session.completed.toNat + 1)
      (within : next.completed.toNat ≤ limit.toNat) : Advances pauses limit session (.again next)
  | ended (cause : Cause) (next : Session) : Advances pauses limit session (.ended cause next)
  | failed (fault : Fault) (next : Session) :
      Advances pauses limit session (.stopped (.fault fault) next)
  | killed {signal : Signal} (kills : pauses.Kills signal) (next : Session) :
      Advances pauses limit session (.stopped (.exit (.signal signal)) next)

section Loop

variable {config : Config} {limit : UInt64} {pauses : Pauses} {session after : Session}

/-- An iteration comes back, and all its blocks are back. -/
theorem returns_step (sturdy : session.stack.Sturdy 0) (size : UInt64) :
    Returns (session.step size).1 ∧ (session.step size).2.stack.Sturdy 0 := by
  obtain ⟨effects, acts, -, hstep⟩ := acts_step session size
  have careful : Dealing.Careful [] (Effect.dealings effects) := by
    rcases hstep with ⟨-, whole⟩ | ⟨stop, -, cut⟩
    · exact (careful_of_paired whole.tally.paired).2
    · rcases cut.dealings_eq with hrefused | hpaired
      · rw [hrefused]
        exact .ungranted .main size stop
      · exact (careful_of_paired hpaired).2
  obtain ⟨returned, hsturdy⟩ := careful.answered (Nat.zero_le 1) sturdy acts.history
  refine ⟨?_, hsturdy⟩
  rcases hstep with ⟨hok, -⟩ | ⟨stop, herror, cut⟩
  · rw [hok]
    exact .ok ()
  · rw [herror]
    cases cut with
    | refused => exact Returns.of_error (returned _ List.mem_cons_self)
    | unwritten => exact .fault _
    | unflushed => exact .fault _

/-- After a pause the loop ends or goes on. -/
theorem advances_paused {paused : Session} (sturdy : paused.stack.Sturdy 0)
    (counted : paused.completed.toNat = session.completed.toNat + 1)
    (within : paused.completed.toNat ≤ limit.toNat) :
    Advances pauses limit session
      (if paused.stopRequested then .ended .stopRequest paused else .again paused) := by
  split
  · exact .ended _ _
  · exact .again sturdy counted within

/-- A signal is received or survived, or it ends the process. -/
theorem receive_cases (session : Session) (signal : Signal) :
    (∃ next, session.receive signal = .ok next ∧ next.completed = session.completed ∧
        next.stack.layers = session.stack.layers) ∨
      signal.asksToStop = false ∧ signal.isHarmless = false ∧
        session.receive signal = .error (.exit (.signal signal)) := by
  unfold Session.receive
  split
  next => exact .inl ⟨_, rfl, rfl, rfl⟩
  next asks =>
    split
    next => exact .inl ⟨_, rfl, rfl, rfl⟩
    next harms => exact .inr ⟨Bool.eq_false_iff.2 asks, Bool.eq_false_iff.2 harms, rfl⟩

theorem advances_afterStep (sturdy : after.stack.Sturdy 0)
    (same : after.completed = session.completed)
    (below : session.completed.toNat < limit.toNat) :
    Advances pauses limit session (afterStep config pauses after) := by
  have hroom : session.completed.toNat + 1 < UInt64.size :=
    (Nat.succ_le_of_lt below).trans_lt limit.toNat_lt
  have hadd : Word.add? after.completed 1 = some (after.completed + 1) := by
    rw [Word.add?_eq_some_iff, same]
    exact ⟨hroom, rfl⟩
  simp only [afterStep, hadd]
  generalize hreported : Session.emit { after with completed := after.completed + 1 } .debug
    "step written" [("iteration", .word (after.completed + 1))] = reported
  have hsturdy : reported.stack.Sturdy 0 := by
    rw [← hreported]
    exact sturdy.congr rfl
  have hcounted : reported.completed.toNat = session.completed.toNat + 1 := by
    rw [← hreported, ← same]
    exact Word.toNat_of_add? hadd
  split
  · exact .ended _ _
  · cases hpause : pauses (after.completed + 1) with
    | none => exact advances_paused hsturdy hcounted (hcounted.trans_le below)
    | some signal =>
        obtain ⟨next, hreceive, hcompleted, hlayers⟩ | ⟨asks, harms, hreceive⟩ :=
          receive_cases reported signal
        · simp only [hreceive]
          rw [← hcompleted] at hcounted
          exact advances_paused (hsturdy.congr hlayers) hcounted (hcounted.trans_le below)
        · simp only [hreceive]
          exact .killed ⟨asks, harms, _, hpause⟩ reported

theorem advances_turn (pauses : Pauses) (bounded : config.iterations = some limit)
    (sturdy : session.stack.Sturdy 0) :
    Advances pauses limit session (turn config pauses session) := by
  obtain ⟨returns, hsturdy⟩ := returns_step sturdy config.blockSize
  have hcompleted := session.completed_step config.blockSize
  unfold turn
  split
  next => exact .ended _ _
  next =>
    split
    next => exact .ended _ _
    next unfinished =>
      have below : session.completed.toNat < limit.toNat := by
        simpa [Session.atLimit, bounded, UInt64.le_iff_toNat_le] using unfinished
      generalize session.step config.blockSize = called at returns hsturdy hcompleted ⊢
      obtain ⟨stop | _, after⟩ := called
      · obtain ⟨fault, rfl⟩ := returns stop rfl
        exact .failed fault after
      · exact advances_afterStep hsturdy hcompleted below

/-- The run comes back, unless a signal ends the process. -/
def Pauses.Allow (pauses : Pauses) (result : Except Stop Summary) : Prop :=
  Returns result ∨ ∃ signal, pauses.Kills signal ∧ result = .error (.exit (.signal signal))

/-- A loop with a limit has room for all its turns. -/
theorem allow_loop (bounded : config.iterations = some limit) {room : Nat}
    (sturdy : session.stack.Sturdy 0) (within : session.completed.toNat ≤ limit.toNat)
    (enough : limit.toNat < room + session.completed.toNat) :
    pauses.Allow (loop config pauses room session).1 := by
  induction room generalizing session with
  | zero => omega
  | succ room ih =>
      have hturn := advances_turn pauses bounded sturdy
      unfold loop
      generalize turn config pauses session = made at hturn ⊢
      cases hturn with
      | again sturdy counted within => exact ih sturdy within (by omega)
      | ended cause next => exact .inl (.ok _)
      | failed fault next => exact .inl (.fault fault)
      | killed kills next => exact .inr ⟨_, kills, rfl⟩

/-- A run with a limit comes back, unless a signal ends the process. -/
theorem allow_run {stack : Stack} (bounded : config.iterations = some limit) (pauses : Pauses)
    (sturdy : stack.Sturdy 0) (sink : Sink) : pauses.Allow (run config pauses stack sink).1 := by
  unfold run
  split
  next fault hstart => exact .inl (.fault fault)
  next begun hstart =>
    unfold start at hstart
    split at hstart
    next => cases hstart
    next =>
      obtain rfl := Except.ok.inj hstart
      have enough : limit.toNat < UInt64.size + 0 := limit.toNat_lt
      exact allow_loop bounded (sturdy.congr rfl) (Nat.zero_le _) enough

end Loop
end Sequential

/-- The vector fixture always comes back. -/
theorem Vectors.returns_run (config : Config) (heap : Heap) (journal : Log.Journal) :
    Returns (run config heap journal).1 := by
  unfold run
  split
  next fault _ => exact .fault fault
  next =>
    dsimp only
    split
    next => exact .ok _
    next fault _ => exact .fault fault

namespace Workers

/-- The hook never panics. -/
def Hook.Gentle (hook : Hook) : Prop :=
  ∀ thread fault journal panic, (hook thread fault journal).1 ≠ some (.panic panic)

/-- The hook always comes back. -/
def Hook.Patient (hook : Hook) : Prop :=
  ∀ thread fault journal, (hook thread fault journal).1 = Option.none

/-- There is a fault over which the hook ends the process. -/
def Hook.Ends (hook : Hook) (exit : Exit) : Prop :=
  ∃ thread fault journal, (hook thread fault journal).1 = some (.exit exit)

/-- What a worker of a pool may come to.  It is the hook alone that ends the process. -/
inductive Emerges (config : Config) (hook : Hook) : Except Stop UInt64 → Prop
  | completed : Emerges config hook (.ok config.cycles)
  | failed (fault : Fault) : Emerges config hook (.error (.fault fault))
  | panicked (panic : Panic) : Emerges config hook (.error (.panic panic))
  | ended {exit : Exit} (ends : hook.Ends exit) : Emerges config hook (.error (.exit exit))

section Emerges

variable {config : Config} {hook : Hook} {surroundings : Surroundings} {count : Nat}

theorem emerges_work (config : Config) (hook : Hook) (pool : Pool) (index : UInt64) :
    Emerges config hook (pool.work config hook index).1 := by
  obtain ⟨fate, -, returns⟩ := performs_requests (.worker index) index config.cycles
    config.blockSize pool.stack
  unfold Pool.work
  dsimp only
  generalize runWorker (.worker index) index config.cycles config.blockSize pool.stack = called
    at returns ⊢
  obtain ⟨result, stack⟩ := called
  cases returns with
  | completed => exact .completed
  | panicked panic => exact .panicked panic
  | failed fault =>
      dsimp only
      split
      next =>
        split
        next => exact .failed fault
        next stop after hpresent =>
          cases stop with
          | fault fault => exact .failed fault
          | panic panic => exact .panicked panic
          | exit exit => exact .ended ⟨_, _, _, congrArg Prod.fst hpresent⟩
      next => exact .failed fault

/-- All workers come to their ends, or the hook ends the process. -/
theorem emerges_workAll (config : Config) (hook : Hook) (order : List Nat)
    {outcomes : Pool.Outcomes} (emerged : ∀ entry ∈ outcomes, Emerges config hook entry.2)
    (pool : Pool) :
    (∃ exit, hook.Ends exit ∧ (Pool.workAll config hook order outcomes pool).1 = .error exit) ∨
      ∃ collected, (Pool.workAll config hook order outcomes pool).1 = .ok collected ∧
        ∀ entry ∈ collected, Emerges config hook entry.2 := by
  induction order generalizing outcomes pool with
  | nil => exact .inr ⟨outcomes, rfl, emerged⟩
  | cons index rest ih =>
      have hwork := emerges_work config hook pool index.toUInt64
      have hrest := @ih ((index, (pool.work config hook index.toUInt64).1) :: outcomes)
        (List.forall_mem_cons.2 ⟨hwork, emerged⟩)
      unfold Pool.workAll
      generalize pool.work config hook index.toUInt64 = called at hwork hrest ⊢
      obtain ⟨outcome, after⟩ := called
      cases hwork with
      | completed => exact hrest after
      | failed fault => exact hrest after
      | panicked panic => exact hrest after
      | ended ends => exact .inl ⟨_, ends, rfl⟩

/-- The cycles that the pool notes are those of workers that have completed. -/
theorem sum_cyclesAt_le {outcomes : Pool.Outcomes}
    (emerged : ∀ entry ∈ outcomes, Emerges config hook entry.2) (count : Nat) :
    (((List.range count).filterMap (cyclesAt outcomes)).map UInt64.toNat).sum ≤
      count * config.cycles.toNat := by
  have hcycles : ∀ words ∈ ((List.range count).filterMap (cyclesAt outcomes)).map UInt64.toNat,
      words ≤ config.cycles.toNat := by
    intro words hwords
    obtain ⟨noted, hnoted, rfl⟩ := List.mem_map.1 hwords
    obtain ⟨index, -, hindex⟩ := List.mem_filterMap.1 hnoted
    obtain ⟨outcome, hlookup, hok⟩ := Option.bind_eq_some_iff.1 hindex
    obtain ⟨_, _, hentry, -⟩ := List.lookup_eq_some_iff.1 hlookup
    have hemerges := emerged (index, outcome) (by rw [hentry]; simp)
    cases hemerges with
    | completed => exact (congrArg UInt64.toNat (Option.some.inj hok)).ge
    | failed fault => cases hok
    | panicked panic => cases hok
    | ended ends => cases hok
  have hlength := List.length_filterMap_le (cyclesAt outcomes) (List.range count)
  rw [List.length_range] at hlength
  calc _ ≤ _ := List.sum_le_card_nsmul _ _ hcycles
    _ ≤ count * config.cycles.toNat := by
      rw [List.length_map, smul_eq_mul]
      exact Nat.mul_le_mul_right _ hlength

/-- How a run ends once its workers have been started. -/
inductive Concludes (hook : Hook) (most : Nat) : Except Stop Summary × Pool → Prop
  | returned {ended : Except Stop Summary × Pool} (returns : Returns ended.1) :
      Concludes hook most ended
  | ended {exit : Exit} (ends : hook.Ends exit) (after : Pool) :
      Concludes hook most (.error (.exit exit), after)
  /-- The last event is written, and the cycles are too many for a word. -/
  | unsummed {after : Pool} (written : writesTotal after.stack.site.journal.filter = true)
      (exceeds : UInt64.size ≤ most) :
      Concludes hook most (.error (.panic .addOverflow), after)

theorem concludes_finish (config : Config) (surroundings : Surroundings) (count : Nat)
    (first : Option Fault) (pool : Pool) :
    Concludes surroundings.hook (count * config.cycles.toNat)
      (finish config surroundings count first pool) := by
  obtain ⟨exit, ends, hwork⟩ | ⟨outcomes, hwork, emerged⟩ :=
    emerges_workAll config surroundings.hook (surroundings.order count) (List.forall_mem_nil _) pool
  · unfold finish
    generalize Pool.workAll config surroundings.hook (surroundings.order count) [] pool = called
      at hwork ⊢
    obtain ⟨result, after⟩ := called
    obtain rfl : result = .error exit := hwork
    exact .ended ends after
  · obtain ⟨joined, -, -, heq⟩ := finish_eq first pool hwork
    rw [heq]
    split
    next fault _ => exact .returned (.fault fault)
    next =>
      have hresult := fst_conclude ((List.range count).filterMap (cyclesAt outcomes)) joined
      have hsum := sum_cyclesAt_le emerged count
      generalize conclude ((List.range count).filterMap (cyclesAt outcomes)) joined = ended
        at hresult ⊢
      by_cases fits : (((List.range count).filterMap (cyclesAt outcomes)).map UInt64.toNat).sum <
          UInt64.size
      · rw [totalled_ok _ fits] at hresult
        refine .returned ?_
        rw [hresult]
        exact .ok _
      · rw [totalled_exceeding _ (Nat.not_lt.1 fits)] at hresult
        obtain ⟨result, after⟩ := ended
        obtain hresult : result = _ := hresult
        rw [hresult]
        split
        next written => exact .unsummed written ((Nat.not_lt.1 fits).trans hsum)
        next => exact .returned (.ok _)

theorem Concludes.mono {most more : Nat} {ended : Except Stop Summary × Pool}
    (h : Concludes hook most ended) (le : most ≤ more) : Concludes hook more ended := by
  cases h with
  | returned returns => exact .returned returns
  | ended ends after => exact .ended ends after
  | unsummed written exceeds => exact .unsummed written (exceeds.trans le)

/-- There is room for the handles of the workers, and memory. -/
structure Startable (config : Config) (surroundings : Surroundings) : Prop where
  room : hasRoomForHandles config.workers = true
  memory : surroundings.lacks (handlesSize config.workers) = false

theorem concludes_run (valid : config.validate = .ok ()) (startable : Startable config surroundings)
    (gentle : surroundings.hook.Gentle) (stack : Stack) :
    Concludes surroundings.hook (config.workers.toNat * config.cycles.toNat)
      (run config surroundings stack) := by
  have hcount := spawned_le surroundings.refusal config.workers.toNat 0
  rw [Nat.zero_add] at hcount
  rw [run_eq valid startable.room startable.memory]
  generalize spawned surroundings.refusal config.workers.toNat 0 = started at hcount ⊢
  obtain ⟨count, _ | error⟩ := started
  · exact (concludes_finish config surroundings count none _).mono (Nat.mul_le_mul_right _ hcount)
  · obtain ⟨journal, after, -, -, hreport⟩ :=
      reportRefusal_eq surroundings.hook count error (opened config stack)
    simp only [hreport]
    rcases hreaction : (surroundings.hook .main (.threadCreateFailed count.toUInt64 error)
      journal).1 with _ | (fault | panic | exit)
    · exact (concludes_finish config surroundings count _ after).mono
        (Nat.mul_le_mul_right _ hcount)
    · exact .returned (.fault fault)
    · exact absurd hreaction (gentle _ _ _ panic)
    · exact .ended ⟨_, _, _, hreaction⟩ after

end Emerges

section Reports

variable {config : Config} {surroundings : Surroundings} {hook : Hook} {thread : Thread}
  {size : UInt64} {left : Nat} {dealings : List Dealing} {met fate : Fate} {before after : Pool}
  {reports : List Report}

theorem Hook.Patient.tame (patient : hook.Patient) : Tame hook := by
  intro thread fault journal stop hstop
  rw [patient] at hstop
  cases hstop

/-- A worker is a careful user, wherever it stops. -/
theorem Performs.careful (performs : Performs thread size left dealings fate) :
    Dealing.Careful [] dealings := by
  induction performs with
  | done => exact .nil
  | cycle block rest ih => exact ih.cycle thread size block
  | failed | panicked => exact .ungranted thread size _

/-- A worker panics only where the allocator does. -/
theorem Performs.ne_panicked (performs : Performs thread size left dealings fate)
    (returned : ∀ dealing ∈ dealings, dealing.Returned) : fate ≠ .panicked := by
  induction performs with
  | done => exact nofun
  | cycle block rest ih => exact ih (List.forall_mem_cons.1 (List.forall_mem_cons.1 returned).2).2
  | failed => exact nofun
  | panicked left panic => exact absurd (returned _ List.mem_cons_self _ rfl) panic.not_fault

theorem Fate.Becomes.ne_panicked (becomes : met.Becomes hook thread fate) (patient : hook.Patient)
    (unpanicked : met ≠ .panicked) : fate ≠ .panicked := by
  rintro rfl
  cases becomes with
  | panicked => exact unpanicked rfl
  | raised resource seen =>
      rw [patient] at seen
      cases seen

/-- On a sturdy allocator no worker panics. -/
theorem Worked.ne_panicked (worked : Worked config hook before reports after)
    (patient : hook.Patient) (sturdy : before.stack.Sturdy 0) :
    ∀ report ∈ reports, report.fate ≠ .panicked := by
  have careful : Dealing.Careful [] (reports.flatMap Report.dealings) := by
    have hperforms := worked.performs
    clear worked
    induction reports with
    | nil => exact .nil
    | cons report reports ih =>
        rw [List.flatMap_cons]
        obtain ⟨hreport, hreports⟩ := List.forall_mem_cons.1 hperforms
        exact hreport.careful.append (ih hreports)
  obtain ⟨returned, -⟩ := careful.answered (Nat.zero_le 1) sturdy worked.history
  intro report hreport
  apply (worked.becomes report hreport).ne_panicked patient
  apply (worked.performs report hreport).ne_panicked
  intro dealing hdealing
  exact returned dealing (List.mem_flatMap.2 ⟨report, hreport, hdealing⟩)

/-- The total of equal cycles is a panic to those who listen if it is no word. -/
theorem totalled_replicate_eq_panic_iff (count : Nat) (cycles : UInt64) (written : Bool) :
    totalled written (.ok ⟨List.replicate count cycles⟩) = .error (.panic .addOverflow) ↔
      UInt64.size ≤ count * cycles.toNat ∧ written = true := by
  have hsum : ((List.replicate count cycles).map UInt64.toNat).sum = count * cycles.toNat := by
    simp
  by_cases fits : count * cycles.toNat < UInt64.size
  · rw [totalled_ok written (by rw [hsum]; exact fits)]
    exact iff_of_false nofun fun h => absurd fits (Nat.not_lt.2 h.1)
  · rw [totalled_exceeding written (by rw [hsum]; exact Nat.not_lt.1 fits),
      and_iff_right (Nat.not_lt.1 fits)]
    cases written
    · exact iff_of_false nofun nofun
    · exact iff_of_true rfl rfl

end Reports

/-- What is to be said of the end of a pool with settings that it accepts. -/
structure Resolves (config : Config) (surroundings : Surroundings) (stack : Stack)
    (ended : Except Stop Summary × Pool) : Prop where
  /-- No address space has room for the handles, and the hook does not hear of it. -/
  tooManyWorkers : hasRoomForHandles config.workers = false →
    ended.1 = .error (.panic .capacityOverflow) ∧ ended.2.shown = #[]
  /-- The machine has no memory for the handles, and the hook does not hear of it. -/
  poor : hasRoomForHandles config.workers = true →
    surroundings.lacks (handlesSize config.workers) = true →
    ended.1 = .error (.exit (.signal .abort)) ∧ ended.2.shown = #[]
  /-- Otherwise the pool comes back, unless the hook ends the process or the total is no word. -/
  concludes : Startable config surroundings → surroundings.hook.Gentle →
    Concludes surroundings.hook (config.workers.toNat * config.cycles.toNat) ended
  /-- A thread that is refused is shown to the hook, and is the answer. -/
  refused : Startable config surroundings → surroundings.hook.Patient →
    (∀ count ≤ config.workers.toNat, (surroundings.order count).Perm (List.range count)) →
    ∀ count < config.workers.toNat, ∀ error, surroundings.refusal count = some error →
      (∀ index < count, surroundings.refusal index = none) →
      ended.1 = .error (.fault (.threadCreateFailed count.toUInt64 error)) ∧
        ended.2.shown.toList.head? = some (.main, .threadCreateFailed count.toUInt64 error)
  /-- If all threads are granted, no worker panics, and the pool does so only over the total of
  workers that have all completed. -/
  granted : Startable config surroundings → surroundings.hook.Patient →
    (∀ count ≤ config.workers.toNat, (surroundings.order count).Perm (List.range count)) →
    (∀ index < config.workers.toNat, surroundings.refusal index = none) →
    ∃ reports, reports.map Report.index = surroundings.order config.workers.toNat ∧
      Worked config surroundings.hook ⟨stack, #[]⟩ reports ended.2 ∧
      (∀ report ∈ reports, report.fate ≠ .panicked) ∧
      (ended.1 = .error (.panic .addOverflow) ↔
        (∀ report ∈ reports, report.fate = .completed) ∧
          UInt64.size ≤ config.workers.toNat * config.cycles.toNat ∧
          writesTotal ended.2.stack.site.journal.filter = true)

theorem resolves_run {config : Config} (surroundings : Surroundings) {stack : Stack}
    (valid : config.validate = .ok ()) (sturdy : stack.Sturdy 0) :
    Resolves config surroundings stack (run config surroundings stack) := by
  have hopened : (⟨stack, #[]⟩ : Pool).stack.History [] (opened config stack).stack :=
    (Stack.aside_emit ..).history
  constructor
  case tooManyWorkers =>
    intro room
    simp only [run, valid, room]
    exact ⟨rfl, rfl⟩
  case poor =>
    intro room memory
    simp only [run, valid, room, memory]
    exact ⟨rfl, rfl⟩
  case concludes =>
    intro startable gentle
    exact concludes_run valid startable gentle stack
  case refused =>
    intro startable patient order count hcount error refused granted
    rw [run_eq valid startable.room startable.memory, spawned_refused hcount refused granted]
    obtain ⟨journal, after, -, hshown, hreport⟩ :=
      reportRefusal_eq surroundings.hook count error (opened config stack)
    simp only [hreport, patient .main]
    obtain ⟨reports, -, worked, hfault, -⟩ := answers_finish config patient.tame
      (order count hcount.le) (some (.threadCreateFailed count.toUInt64 error)) after
    refine ⟨hfault _ rfl, ?_⟩
    rw [worked.shown, hshown]
    rfl
  case granted =>
    intro startable patient order granted
    rw [run_eq valid startable.room startable.memory, spawned_all granted]
    obtain ⟨reports, hmap, worked, -, hcompleted, hfailed⟩ := answers_finish config
      patient.tame (order _ le_rfl) none (opened config stack)
    have hworked : Worked config surroundings.hook ⟨stack, #[]⟩ reports _ :=
      .append (.of_aside hopened rfl) worked
    refine ⟨reports, hmap, hworked, hworked.ne_panicked patient sturdy, ?_⟩
    by_cases completed : ∀ report ∈ reports, report.fate = .completed
    · rw [and_iff_right completed]
      dsimp only
      rw [hcompleted rfl completed]
      exact totalled_replicate_eq_panic_iff ..
    · obtain ⟨fault, hfault⟩ := hfailed (by simpa using completed)
      dsimp only
      rw [hfault]
      refine iff_of_false ?_ fun h => completed h.1
      rintro ⟨⟩

end Workers

/-- On an allocator that does not panic, a sequential run with a limit comes back, unless a signal
ends the process, and a run of vectors comes back in any case.  A growing run comes back, unless it
has a round that goes well and cannot be counted; then it panics, and it takes more than `2 ^ 57`
rounds to do so.  A pool comes back as `Workers.Resolves` says: all refusals come back and are shown
to the hook, but that of room or memory for the handles of the workers. -/
theorem accepted_runs_come_back {stack : Stack} (sturdy : stack.Sturdy 0) :
    (∀ (config : Sequential.Config) limit, config.iterations = some limit → ∀ pauses sink,
        Sequential.Pauses.Allow pauses (Sequential.run config pauses stack sink).1) ∧
      (∀ config heap journal, Returns (Vectors.run config heap journal).1) ∧
      (∀ config : Growth.Config,
        (¬ config.Overruns stack → Returns (Growth.run config stack).1) ∧
          (config.Overruns stack →
            (Growth.run config stack).1 = .error (.panic .addOverflow) ∧
              UInt64.size ≤ config.rounds.toNat * 65)) ∧
      ∀ (config : Workers.Config) surroundings, config.validate = .ok () →
        Workers.Resolves config surroundings stack (Workers.run config surroundings stack) := by
  refine ⟨?_, Vectors.returns_run, ?_, ?_⟩
  · intro config limit bounded pauses sink
    exact Sequential.allow_run bounded pauses sturdy sink
  · intro config
    obtain ⟨returns, within⟩ | ⟨panics, overruns⟩ := Growth.run_cases config sturdy
    · exact ⟨fun _ => returns, fun overruns => absurd overruns within⟩
    · exact ⟨fun within => absurd overruns within, fun _ => ⟨panics, overruns.size_le⟩⟩
  · intro config surroundings valid
    exact Workers.resolves_run surroundings valid sturdy

/-- The system refuses every thread. -/
def Workers.Surroundings.refusing : Surroundings :=
  { Surroundings.plain with refusal := refuseAll }

/-- A line that the sink does not take, a block that a gate keeps from growing, and a thread that
the system refuses all come back. -/
theorem failed_runs_come_back :
    Stack.layered.Sturdy 0 ∧
      Returns (Sequential.run ⟨16, ⟨0, 0⟩, some 2⟩ .quiet .layered .full).1 ∧
      Returns (Growth.run ⟨1, 8, 64⟩ .layered).1 ∧
      (Workers.run .three .refusing .layered).1 =
        .error (.fault (.threadCreateFailed 0 .tryAgain)) ∧
      (Workers.run .three .refusing .layered).2.shown.toList.head? =
        some (.main, .threadCreateFailed 0 .tryAgain) := by
  have unused : Stack.layered.Unused := by
    simp [Stack.Unused, Stack.layered]
  have sturdy : Stack.layered.Sturdy 0 := unused.sturdy Stack.calm_layered
  obtain ⟨hsequential, -, hgrowth, hpool⟩ := accepted_runs_come_back sturdy
  have hresolves := hpool .three .refusing rfl
  have hrefused := hresolves.refused ⟨by decide, rfl⟩ (fun _ _ _ => rfl)
    (fun _ _ => List.Perm.refl _) 0 (by decide) .tryAgain rfl
    fun _ h => absurd h (Nat.not_lt_zero _)
  refine ⟨sturdy, ?_, ?_, hrefused⟩
  · rcases hsequential ⟨16, ⟨0, 0⟩, some 2⟩ 2 rfl .quiet .full with
      returns | ⟨signal, ⟨-, -, completed, hsignal⟩, -⟩
    · exact returns
    · cases hsignal
  · apply (hgrowth ⟨1, 8, 64⟩).1
    intro overruns
    exact absurd overruns.size_le (by decide)

/-- More workers than an address space has room for the handles of. -/
def Workers.Config.tooManyWorkers : Config := ⟨384307168202282326, 1, 1⟩

/-- `2 ^ 63` rounds of two requests each. -/
def Growth.Config.endless : Config := ⟨9223372036854775808, 1, 2⟩

/-- Settings that are accepted, and with which a run panics on a heap that refuses nothing.  There
is no room for the handles of the workers, and nobody is told, although every thread would have
been refused; the cycles of all workers are too many for a word; and so are the requests of all
rounds. -/
theorem accepted_runs_panic :
    let stack : Stack := ⟨[], .fresh .claimed (.start (.upTo .info))⟩
    stack.Sturdy 0 ∧
      Workers.Config.tooManyWorkers.validate = .ok () ∧
      (Workers.run .tooManyWorkers .refusing stack).1 = .error (.panic .capacityOverflow) ∧
      (Workers.run .tooManyWorkers .refusing stack).2.shown = #[] ∧
      Workers.Config.endless.validate = .ok () ∧
      (Workers.run .endless .plain stack).1 = .error (.panic .addOverflow) ∧
      Growth.Config.endless.validate = .ok () ∧
      (Growth.run .endless stack).1 = .error (.panic .addOverflow) := by
  intro stack
  have lavish : stack.Lavish := ⟨rfl, fun _ _ => rfl⟩
  refine ⟨lavish.sturdy, rfl, rfl, rfl, rfl, ?_, rfl, ?_⟩
  · exact Workers.fst_run_of_lavish .endless rfl (by decide) (by decide) lavish (.upTo .info)
  · have overruns : Growth.Config.endless.Overruns stack :=
      Growth.overruns_of_lavish rfl lavish (by decide)
    obtain ⟨-, within⟩ | ⟨panics, -⟩ :=
      Growth.run_cases .endless lavish.sturdy
    · exact absurd overruns within
    · exact panics

end HeapFixtures
