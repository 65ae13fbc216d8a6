/-
# A schedule for the program's pool

The program lets the workers of its pool run one after another, and has the calling thread wait
for them when the last one has ended.  That is a call for a pool in which the threads take their
turns in a particular order: all starts, then all turns of one worker after those of another,
then the joins.  Its answer, its events, its dealings and what it shows to the hook are those of
this schedule, so whatever holds of a call in every schedule holds of the program.
-/

import HeapFixtures.Proofs.PoolTurns

namespace HeapFixtures
namespace Workers
namespace PoolCall

/-- Some turns of the threads lead from one moment to another. -/
def Leads (config : Config) (surroundings : Surroundings) (call after : PoolCall) : Prop :=
  ∃ schedule, call.exec config surroundings schedule = after

section Leads

variable {config : Config} {surroundings : Surroundings} {call between after : PoolCall}

theorem Leads.refl (config : Config) (surroundings : Surroundings) (call : PoolCall) :
    Leads config surroundings call call := ⟨[], rfl⟩

theorem Leads.trans (h : Leads config surroundings call between)
    (h' : Leads config surroundings between after) : Leads config surroundings call after := by
  obtain ⟨schedule, rfl⟩ := h
  obtain ⟨rest, rfl⟩ := h'
  exact ⟨schedule ++ rest, List.foldl_append ..⟩

/-- A turn of the calling thread. -/
theorem leads_of_main (running : call.Running)
    (turn : call.callerTurn config surroundings = after) :
    Leads config surroundings call after :=
  ⟨[.main], (turn_main running).trans turn⟩

end Leads

section Work

variable {config : Config} {surroundings : Surroundings} {call : PoolCall} {index : UInt64}
  {thread next : WorkerThread} {pool after : Pool}

/-- A worker's thread that has moved on can move on from there. -/
theorem leads_put (running : call.Running)
    (stays : thread.exit? = none)
    (step : thread.step config surroundings.hook index pool = (next, after)) :
    Leads config surroundings (call.put index thread pool) (call.put index next after) := by
  have hrunning : (call.put index thread pool).Running := by
    rw [put_eq stays]
    exact running
  refine ⟨[.worker index], (turn_worker hrunning index).trans ?_⟩
  rw [workerTurn_eq, put_eq stays]
  simp only [Function.update_self, step]
  unfold put
  simp only [Function.update_idem]

/-- Where a worker's thread goes from its cycles. -/
def afterCycles (count : UInt64) : Except Stop Unit → WorkerThread
  | .ok () => .ended (.ok count)
  | .error (.fault fault) => .fails fault
  | .error stop => .ended (.error stop)

/-- A worker makes the cycles that it has left. -/
theorem leads_cycles (running : call.Running) (left : Nat) (stack : Stack)
    (shown : Array (Thread × Fault)) :
    Leads config surroundings (call.put index (.next config.cycles left) ⟨stack, shown⟩)
      (call.put index
        (afterCycles config.cycles (cycles (.worker index) config.blockSize left stack).1)
        ⟨(cycles (.worker index) config.blockSize left stack).2, shown⟩) := by
  induction left generalizing stack with
  | zero => exact .refl ..
  | succ left ih =>
      rcases hcall : stack.allocate (.worker index) config.blockSize with ⟨answer, between⟩
      cases answer with
      | error stop =>
          rw [cycles_of_stopped left hcall]
          cases stop <;>
            exact leads_put running rfl (by simp only [WorkerThread.step, hcall]; rfl)
      | ok block =>
          have hstep : (WorkerThread.asks left).step config surroundings.hook index
              ⟨stack, shown⟩ = (.releases left block, ⟨between, shown⟩) := by
            simp only [WorkerThread.step, hcall]
          rw [cycles_of_granted left hcall]
          refine (leads_put running rfl hstep).trans ?_
          exact (leads_put running rfl rfl).trans (ih (between.release (.worker index) block))

/-- A worker that has met a fault writes so, and shows a resource fault to the hook. -/
theorem leads_fails (running : call.Running) (fault : Fault) (pool : Pool) :
    let noted := pool.emit (.worker index) .error "worker failed"
      [("index", .word index), ("error", .shown fault.message)]
    let reaction : Except Stop UInt64 × Pool :=
      if fault.isResource then
        match noted.present surroundings.hook (.worker index) fault with
        | (none, pool) => (.error (.fault fault), pool)
        | (some stop, pool) => (.error stop, pool)
      else (.error (.fault fault), noted)
    Leads config surroundings (call.put index (.fails fault) pool)
      (call.put index (.ended reaction.1) reaction.2) := by
  intro noted reaction
  by_cases resource : fault.isResource = true
  · have hfails : (WorkerThread.fails fault).step config surroundings.hook index pool =
        (.shows fault, noted) := if_pos resource
    refine (leads_put running rfl hfails).trans ?_
    simp only [reaction, if_pos resource]
    rcases hpresent : noted.present surroundings.hook (.worker index) fault with ⟨_ | stop, after⟩
    · exact leads_put running rfl (by simp only [WorkerThread.step, hpresent])
    · exact leads_put running rfl (by simp only [WorkerThread.step, hpresent])
  · have hfails : (WorkerThread.fails fault).step config surroundings.hook index pool =
        (.ended (.error (.fault fault)), noted) := if_neg resource
    simp only [reaction, if_neg resource]
    exact leads_put running rfl hfails

/-- A worker that nobody disturbs does what it does in the pool of the program. -/
theorem leads_work (config : Config) (surroundings : Surroundings) (running : call.Running)
    (begins : call.threads index = .begins) :
    Leads config surroundings call
      (call.put index (.ended (call.pool.work config surroundings.hook index).1)
        (call.pool.work config surroundings.hook index).2) := by
  have hstart : call.put index .begins call.pool = call := by
    rw [put_eq rfl, ← begins, Function.update_eq_self]
  have hbegun : Leads config surroundings (call.put index .begins call.pool)
      (call.put index (.next config.cycles config.cycles.toNat)
        ⟨announced (.worker index) index config.cycles call.pool.stack, call.pool.shown⟩) :=
    leads_put running rfl rfl
  rw [hstart] at hbegun
  refine hbegun.trans ((leads_cycles running _ _ _).trans ?_)
  simp only [Pool.work, runWorker_eq]
  generalize cycles (.worker index) config.blockSize config.cycles.toNat
    (announced (.worker index) index config.cycles call.pool.stack) = ended
  obtain ⟨(fault | panic | exit) | _, stack⟩ := ended
  · exact leads_fails running fault ⟨stack, call.pool.shown⟩
  · exact .refl ..
  · exact .refl ..
  · exact .refl ..

end Work

/-- The workers with some numbers have yet to begin, and all others below a count have come to
their ends, as the pool knows. -/
structure Pending (count : Nat) (pending : List Nat) (outcomes : Pool.Outcomes)
    (threads : UInt64 → WorkerThread) : Prop where
  begins : ∀ index ∈ pending, threads index.toUInt64 = .begins
  ended : ∀ index < count, index ∉ pending →
    ∃ outcome, outcomes.lookup index = some outcome ∧ threads index.toUInt64 = .ended outcome

section Finish

variable {config : Config} {surroundings : Surroundings} {count : Nat} {call : PoolCall}
  {outcomes : Pool.Outcomes}

theorem toUInt64_ne {index other : Nat} (small : index < UInt64.size) (small' : other < UInt64.size)
    (ne : other ≠ index) : other.toUInt64 ≠ index.toUInt64 := by
  intro h
  have hnat := congrArg UInt64.toNat h
  rw [UInt64.toNat_ofNat_of_lt' small, UInt64.toNat_ofNat_of_lt' small'] at hnat
  exact ne hnat

/-- One of the workers has come to its end. -/
theorem Pending.settle {index : Nat} {rest : List Nat} {threads : UInt64 → WorkerThread}
    (pending : Pending count (index :: rest) outcomes threads) (small : count ≤ UInt64.size)
    (below : ∀ other ∈ index :: rest, other < count) (once : (index :: rest).Nodup)
    (outcome : Except Stop UInt64) :
    Pending count rest ((index, outcome) :: outcomes)
      (Function.update threads index.toUInt64 (.ended outcome)) := by
  have hindex := (below index List.mem_cons_self).trans_le small
  refine ⟨fun other mem => ?_, fun other hother absent => ?_⟩
  · have ne : other ≠ index := fun h => (List.nodup_cons.1 once).1 (h ▸ mem)
    have hsmall := (below other (List.mem_cons_of_mem _ mem)).trans_le small
    rw [Function.update_of_ne (toUInt64_ne hindex hsmall ne)]
    exact pending.begins other (List.mem_cons_of_mem _ mem)
  · by_cases same : other = index
    · subst same
      exact ⟨outcome, List.lookup_cons_self, Function.update_self ..⟩
    · rw [Function.update_of_ne (toUInt64_ne hindex (hother.trans_le small) same),
        List.lookup_cons, beq_false_of_ne same]
      exact pending.ended other hother (by simp [same, absent])

/-- Workers that work one after another do what they do in the pool of the program. -/
theorem leads_workAll (config : Config) (surroundings : Surroundings) {order : List Nat}
    (running : call.Running) (pending : Pending count order outcomes call.threads)
    (small : count ≤ UInt64.size)
    (below : ∀ index ∈ order, index < count) (once : order.Nodup) :
    match Pool.workAll config surroundings.hook order outcomes call.pool with
    | (.error exit, after) => ∃ threads, Leads config surroundings call
        ⟨after, threads, .returned (.error (.exit exit))⟩
    | (.ok outcomes, after) => ∃ threads, Pending count [] outcomes threads ∧
        Leads config surroundings call ⟨after, threads, call.caller⟩ := by
  induction order generalizing outcomes call with
  | nil => exact ⟨call.threads, pending, .refl ..⟩
  | cons index rest ih =>
      have leads := leads_work config surroundings running
        (pending.begins index List.mem_cons_self)
      rcases hwork : call.pool.work config surroundings.hook index.toUInt64 with ⟨outcome, after⟩
      rw [hwork] at leads
      have goes (stays : (WorkerThread.ended outcome).exit? = none) :
          match Pool.workAll config surroundings.hook rest ((index, outcome) :: outcomes) after with
          | (.error exit, after) => ∃ threads, Leads config surroundings call
              ⟨after, threads, .returned (.error (.exit exit))⟩
          | (.ok outcomes, after) => ∃ threads, Pending count [] outcomes threads ∧
              Leads config surroundings call ⟨after, threads, call.caller⟩ := by
        rw [put_eq stays] at leads
        have later := @ih ⟨after, Function.update call.threads index.toUInt64 (.ended outcome),
          call.caller⟩ _ running (pending.settle small below once outcome)
          (fun other mem => below other (List.mem_cons_of_mem _ mem)) (List.nodup_cons.1 once).2
        dsimp only at later
        split at later
        · exact later.imp fun _ => leads.trans
        · exact later.imp fun _ => And.imp_right leads.trans
      rw [Pool.workAll, hwork]
      rcases outcome with (fault | panic | exit) | cycles
      · exact goes rfl
      · exact goes rfl
      · exact ⟨_, leads⟩
      · exact goes rfl

/-- The calling thread finds all workers at their ends, one after another. -/
theorem leads_join (config : Config) (surroundings : Surroundings)
    {threads : UInt64 → WorkerThread} (pending : Pending count [] outcomes threads)
    {next left : Nat} (all : next + left = count) (first : Option Fault) (done : List UInt64)
    (pool : Pool) :
    match Pool.join outcomes (List.range' next left) first done pool with
    | ((failure, cycles), after) => ∃ collected, cycles = collected.reverse ∧
        Leads config surroundings ⟨pool, threads, .joining next count first done⟩
          ⟨after, threads, .joining count count failure collected⟩ := by
  induction left generalizing next first done pool with
  | zero =>
      obtain rfl : next = count := all
      exact ⟨done, rfl, .refl ..⟩
  | succ left ih =>
      obtain ⟨outcome, hlookup, hthread⟩ := pending.ended next (by omega) List.not_mem_nil
      have hturn : (⟨pool, threads, .joining next count first done⟩ : PoolCall).callerTurn config
          surroundings = join next count first done
            ⟨pool, threads, .joining next count first done⟩ :=
        if_pos (show next < count by omega)
      have leads := leads_of_main (running_joining _ _ _ _ _ _) hturn
      rw [List.range'_succ]
      unfold Pool.join
      simp only [hlookup]
      unfold join at leads
      simp only [hthread] at leads
      cases outcome with
      | ok cycles =>
          have later := ih (show next + 1 + left = count by omega) first (cycles :: done)
            (pool.emit .main .debug "worker joined"
              [("index", .word next.toUInt64), ("cycles", .word cycles)])
          dsimp only at later
          exact later.imp fun _ => And.imp_right leads.trans
      | error stop =>
          have later := ih (show next + 1 + left = count by omega)
            (first.or (Pool.failure? next (.error stop))) done pool
          dsimp only at later
          exact later.imp fun _ => And.imp_right leads.trans

/-- The part of a call after all threads were started, or one was refused. -/
theorem leads_finish {threads : UInt64 → WorkerThread} (small : count ≤ UInt64.size)
    (order : (surroundings.order count).Perm (List.range count))
    (begins : ∀ index < count, threads index.toUInt64 = .begins) (first : Option Fault)
    (pool : Pool) :
    ∃ after, Leads config surroundings ⟨pool, threads, .joining 0 count first []⟩ after ∧
      after.pool = (finish config surroundings count first pool).2 ∧
      after.caller = .returned (finish config surroundings count first pool).1 := by
  have hmem (index : Nat) : index ∈ surroundings.order count ↔ index < count := by
    rw [order.mem_iff, List.mem_range]
  have pending : Pending count (surroundings.order count) [] threads :=
    ⟨fun index mem => begins index ((hmem index).1 mem),
      fun index hindex absent => absurd ((hmem index).2 hindex) absent⟩
  have running : Running ⟨pool, threads, .joining 0 count first []⟩ :=
    running_joining _ _ _ _ _ _
  have worked := leads_workAll config surroundings running pending small
    (fun index => (hmem index).1) (order.nodup_iff.2 List.nodup_range)
  unfold finish
  dsimp only at worked
  generalize Pool.workAll config surroundings.hook (surroundings.order count) [] pool = ended
    at worked ⊢
  obtain ⟨exit | outcomes, between⟩ := ended
  · obtain ⟨threads, leads⟩ := worked
    exact ⟨_, leads, rfl, rfl⟩
  · obtain ⟨threads, ended, leads⟩ := worked
    have joined := leads_join config surroundings ended (Nat.zero_add count) first [] between
    dsimp only
    rw [List.range_eq_range']
    generalize Pool.join outcomes (List.range' 0 count) first [] between = waited at joined ⊢
    obtain ⟨⟨failure, cycles⟩, last⟩ := waited
    obtain ⟨collected, rfl, joins⟩ := joined
    have hturn : (⟨last, threads, .joining count count failure collected⟩ : PoolCall).callerTurn
        config surroundings = answer failure collected
          ⟨last, threads, .joining count count failure collected⟩ :=
      if_neg (Nat.lt_irrefl count)
    refine ⟨_, leads.trans (joins.trans (leads_of_main (running_joining _ _ _ _ _ _) hturn)), ?_⟩
    cases failure <;> exact ⟨rfl, rfl⟩

end Finish

section Start

variable {config : Config} {surroundings : Surroundings} {count : Nat} {error? : Option IoError}

/-- The threads when the workers below a number have been started, and none has had a turn. -/
def employed (count : Nat) (index : UInt64) : WorkerThread :=
  if index.toNat < count then .begins else .unborn

theorem update_employed {next : Nat} (small : next < UInt64.size) :
    Function.update (employed next) next.toUInt64 .begins = employed (next + 1) := by
  funext index
  by_cases same : index = next.toUInt64
  · subst same
    rw [Function.update_self, employed, if_pos]
    rw [UInt64.toNat_ofNat_of_lt' small]
    exact Nat.lt_succ_self next
  · have ne : index.toNat ≠ next := fun h => same (by rw [← h]; simp)
    rw [Function.update_of_ne same]
    exact if_congr (by omega) rfl rfl

/-- What the calling thread does after the last thread that it was granted. -/
def afterStarts (pool : Pool) (count : Nat) : Option IoError → PoolCall
  | none => ⟨pool, employed count, .joining 0 count none []⟩
  | some error =>
    ⟨pool.emit .main .error "failed to spawn worker"
        [("index", .word count.toUInt64), ("error", .shown error.message)],
      employed count, .refused count error⟩

/-- The calling thread starts the workers that it gets threads for. -/
theorem leads_starts (pool : Pool) {next left : Nat} (all : next + left = config.workers.toNat)
    (hspawned : spawned surroundings.refusal left next = (count, error?)) :
    Leads config surroundings ⟨pool, employed next, .starting next⟩
      (afterStarts pool count error?) := by
  induction left generalizing next with
  | zero =>
      cases hspawned
      exact leads_of_main (running_starting _ _ _) (if_neg (by omega))
  | succ left ih =>
      have hturn : (⟨pool, employed next, .starting next⟩ : PoolCall).callerTurn config
          surroundings = start surroundings.refusal next
            ⟨pool, employed next, .starting next⟩ :=
        if_pos (show next < config.workers.toNat by omega)
      have leads := leads_of_main (running_starting _ _ _) hturn
      rw [spawned] at hspawned
      unfold start at leads
      cases hrefusal : surroundings.refusal next with
      | some error =>
          rw [hrefusal] at hspawned leads
          cases hspawned
          exact leads
      | none =>
          rw [hrefusal] at hspawned leads
          have small : next < UInt64.size := by
            have hlt := config.workers.toNat_lt
            simp only [UInt64.size]
            omega
          dsimp only at leads
          rw [update_employed small] at leads
          exact leads.trans (ih (by omega) hspawned)

theorem employed_begins {index : Nat} (small : count ≤ UInt64.size) (h : index < count) :
    employed count index.toUInt64 = .begins := by
  rw [employed, UInt64.toNat_ofNat_of_lt' (h.trans_le small), if_pos h]

/-- The hook is shown that a thread was refused, and the call goes on if the hook comes back. -/
theorem leads_notify (config : Config) (surroundings : Surroundings) {pool : Pool}
    (error : IoError) :
    Leads config surroundings (afterStarts pool count (some error))
      (match reportRefusal surroundings.hook count error pool with
      | (.error stop, pool) => ⟨pool, employed count, .returned (.error stop)⟩
      | (.ok fault, pool) => ⟨pool, employed count, .joining 0 count (some fault) []⟩) := by
  refine leads_of_main (running_refused _ _ _ _) ?_
  simp only [callerTurn, notify, afterStarts, reportRefusal]
  generalize Pool.present _ _ _ _ = shown
  obtain ⟨_ | stop, after⟩ := shown <;> rfl

/-- A call that has room for its workers comes to the end that the program's pool comes to. -/
theorem exists_leads_finish (config : Config) (surroundings : Surroundings) (pool : Pool)
    (order : ∀ count ≤ config.workers.toNat,
      (surroundings.order count).Perm (List.range count)) :
    let ended :=
      match spawned surroundings.refusal config.workers.toNat 0 with
      | (count, none) => finish config surroundings count none pool
      | (count, some error) =>
        match reportRefusal surroundings.hook count error pool with
        | (.error stop, pool) => (.error stop, pool)
        | (.ok fault, pool) => finish config surroundings count (some fault) pool
    ∃ after, Leads config surroundings ⟨pool, fun _ => .unborn, .starting 0⟩ after ∧
      after.pool = ended.2 ∧ after.caller = .returned ended.1 := by
  intro ended
  rcases hspawned : spawned surroundings.refusal config.workers.toNat 0 with ⟨count, error?⟩
  simp only [ended, hspawned]
  have few := le_of_spawned hspawned
  have small : count ≤ UInt64.size := (few.trans_lt config.workers.toNat_lt).le
  have starts := leads_starts pool (Nat.zero_add _) hspawned
  have finishes := @leads_finish config surroundings count (employed count) small
    (order count few) fun _ => employed_begins small
  cases error? with
  | none =>
      obtain ⟨after, leads, ends⟩ := finishes none pool
      exact ⟨after, starts.trans leads, ends⟩
  | some error =>
      have notified := starts.trans (leads_notify config surroundings error)
      dsimp only
      generalize reportRefusal surroundings.hook count error pool = reported at notified ⊢
      obtain ⟨stop | fault, reached⟩ := reported
      · exact ⟨_, notified, rfl, rfl⟩
      · obtain ⟨after, leads, ends⟩ := finishes (some fault) reached
        exact ⟨after, notified.trans leads, ends⟩

/-- The run of the program's pool is a call for the pool in one of its schedules. -/
theorem exists_schedule_run (config : Config) (surroundings : Surroundings) (stack : Stack)
    (order : ∀ count ≤ config.workers.toNat,
      (surroundings.order count).Perm (List.range count)) :
    ∃ schedule,
      ((first config surroundings stack).exec config surroundings schedule).pool =
          (run config surroundings stack).2 ∧
        ((first config surroundings stack).exec config surroundings schedule).caller =
          .returned (run config surroundings stack).1 := by
  suffices h : ∃ after, Leads config surroundings (first config surroundings stack) after ∧
      after.pool = (run config surroundings stack).2 ∧
      after.caller = .returned (run config surroundings stack).1 by
    obtain ⟨_, ⟨schedule, rfl⟩, hpool, hcaller⟩ := h
    exact ⟨schedule, hpool, hcaller⟩
  cases valid : config.validate with
  | error fault =>
      rw [run, first, valid]
      exact ⟨_, .refl .., rfl, rfl⟩
  | ok _ =>
      cases room : hasRoomForHandles config.workers with
      | false =>
          simp only [run, first, valid, room]
          exact ⟨_, .refl .., rfl, rfl⟩
      | true =>
          cases memory : surroundings.lacks (handlesSize config.workers) with
          | true =>
              simp only [run, first, valid, room, memory]
              exact ⟨_, .refl .., rfl, rfl⟩
          | false =>
              rw [run_eq valid room memory, first_eq valid room memory]
              exact exists_leads_finish config surroundings (opened config stack) order

end Start

end PoolCall
end Workers
end HeapFixtures
