/-
# One thread after another

A program lets the workers of its pool run one after another, and has its main thread wait for
them when the last one has ended.  Among the turns that the threads of a process can take,
there are those that have just this effect: they lead to the same exit, and to the same
journal, event by event.  So whatever holds of a process whose threads take their turns in any
order holds of the program.
-/

import HeapFixtures.Proofs.ProcessTurns
import HeapFixtures.Proofs.Departure
import HeapFixtures.Proofs.Joining

namespace HeapFixtures
namespace Workers

variable {workers : Nat} {Tree : Type}

namespace SharedPool

variable {config : Config} {shared : SharedPool workers} {i j : Fin workers}

theorem step_of_ended {outcome : Except Stop UInt64}
    (ended : (shared.states i).phase = .ended outcome) : shared.step config i = shared := by
  have hview : (shared.view i).step config (number i) = shared.view i :=
    WorkerView.step_of_ended config (number i) ended
  unfold step
  rw [hview]
  exact congrArg (SharedPool.mk shared.counters shared.inner)
    (Function.update_eq_self i shared.states)

theorem states_exec_replicate_of_ne (h : j ≠ i) (n : Nat) :
    (shared.exec config (List.replicate n i)).states j = shared.states j := by
  induction n with
  | zero => rfl
  | succ n ih => rw [List.replicate_succ', exec_concat, states_step_of_ne h, ih]

end SharedPool

/-- What the hook does that takes the process down. -/
theorem Pool.present_ofPolicy_eq (policy : Policy) (pool : Pool) (thread : Thread) (fault : Fault) :
    pool.present (.ofPolicy policy) thread fault =
      (some (.exit (policy.exit fault)),
        ⟨pool.stack.write fun journal => (policy.handle thread fault journal).2,
          pool.shown.push (thread, fault)⟩) :=
  Prod.ext (congrArg (fun exit => some (Stop.exit exit)) (policy.exit_handle ..)) rfl

/-- The pool goes on to the next worker with what it has learnt of one. -/
theorem Pool.join_of_lookup {outcomes : Pool.Outcomes} {index : Nat}
    {outcome : Except Stop UInt64} (hlookup : outcomes.lookup index = some outcome)
    (rest : List Nat) (first : Option Fault) (done : List UInt64) (pool : Pool) :
    ∃ between, Pool.join outcomes (index :: rest) first done pool =
        Pool.join outcomes rest (first.or (Pool.failure? index outcome)) (collect done outcome)
          between ∧
      between.stack = pool.stack.write (noteJoined index outcome) := by
  rw [Pool.join, hlookup]
  cases outcome with
  | ok cycles =>
      rw [Pool.failure?, Option.or_none]
      exact ⟨_, rfl, rfl⟩
  | error stop => exact ⟨pool, rfl, rfl⟩

namespace Process

/-- The journal of the process. -/
def journal (process : Process workers) : Log.Journal := process.shared.inner.site.journal

/-- The allocator of the process: the counting layer, and what is below it. -/
def stack (process : Process workers) : Stack :=
  process.shared.inner.push (.counting process.shared.counters)

/-- Some turns of the threads lead from one moment to another. -/
def Leads (orders : Orders) (process after : Process workers) : Prop :=
  ∃ schedule, process.exec orders schedule = after

/-- Some turns of the threads lead to the end. -/
def LeadsToEnd (orders : Orders) (process : Process workers) (exit : Exit)
    (journal : Log.Journal) : Prop :=
  ∃ after, Leads orders process after ∧ after.exit = some exit ∧ after.journal = journal

section Leads

variable {orders : Orders} {process between after : Process workers} {exit : Exit}
  {journal : Log.Journal} {i : Fin workers}

theorem Leads.refl (orders : Orders) (process : Process workers) : Leads orders process process :=
  ⟨[], rfl⟩

theorem Leads.trans (h : Leads orders process between) (h' : Leads orders between after) :
    Leads orders process after := by
  obtain ⟨schedule, rfl⟩ := h
  obtain ⟨rest, rfl⟩ := h'
  exact ⟨schedule ++ rest, List.foldl_append ..⟩

/-- A turn that is known. -/
theorem leads_of_turn (who : PoolThread workers) (turn : process.turn orders who = after) :
    Leads orders process after := ⟨[who], turn⟩

theorem Leads.toEnd (h : Leads orders process between)
    (ends : LeadsToEnd orders between exit journal) : LeadsToEnd orders process exit journal := by
  obtain ⟨after, h', hexit, hjournal⟩ := ends
  exact ⟨after, h.trans h', hexit, hjournal⟩

theorem turn_main (running : process.exit = none) :
    process.turn orders .main = process.mainTurn orders := by
  unfold turn
  rw [running]

theorem turn_worker (running : process.exit = none) (i : Fin workers) :
    process.turn orders (.worker i) = process.workerTurn orders i := by
  unfold turn
  rw [running]

theorem turn_of_exiting {who : PoolThread workers} {fault : Fault} (running : process.exit = none)
    (exiting : process.exiting who = some fault) :
    process.turn orders who = process.bringDown orders.policy who fault := by
  cases who with
  | main =>
      rw [turn_main running]
      unfold mainTurn
      cases hmainStatus : process.mainStatus with
      | refused other =>
          rw [Process.exiting, hmainStatus] at exiting
          obtain rfl := Option.some.inj exiting
          rfl
      | ending failure =>
          rw [Process.exiting, hmainStatus] at exiting
          cases failure with
          | none => cases exiting
          | some other =>
              obtain rfl := Option.some.inj exiting
              rfl
      | _ =>
          rw [Process.exiting, hmainStatus] at exiting
          cases exiting
  | worker i =>
      rw [turn_worker running]
      unfold workerTurn
      cases hstatus : process.statuses i with
      | exiting other =>
          rw [Process.exiting, hstatus] at exiting
          obtain rfl := Option.some.inj exiting
          rfl
      | _ =>
          rw [Process.exiting, hstatus] at exiting
          cases exiting

section ExitRight

variable {who : PoolThread workers} {fault : Fault}

theorem turn_of_exitRight {exitStep : ExitStep} (running : process.exit = none)
    (exiting : process.exiting who = some fault)
    (taken : process.exitRight = some ⟨who, fault, exitStep⟩) :
    process.turn orders who = process.exitTurn orders.policy ⟨who, fault, exitStep⟩ := by
  rw [turn_of_exiting running exiting, bringDown, taken]
  exact if_pos rfl

theorem leadsToEnd_of_leaves (running : process.exit = none)
    (exiting : process.exiting who = some fault)
    (taken : process.exitRight = some ⟨who, fault, .leaves⟩) :
    LeadsToEnd orders process (orders.policy.exit fault) process.journal :=
  ⟨_, leads_of_turn who (turn_of_exitRight running exiting taken), rfl, rfl⟩

theorem leadsToEnd_of_prints (running : process.exit = none)
    (exiting : process.exiting who = some fault)
    (taken : process.exitRight = some ⟨who, fault, .prints⟩) :
    LeadsToEnd orders process (orders.policy.exit fault)
      (orders.policy.say fault process.journal) :=
  (leads_of_turn who (turn_of_exitRight running exiting taken)).toEnd
    (leadsToEnd_of_leaves running exiting rfl)

theorem leadsToEnd_of_tells (running : process.exit = none)
    (exiting : process.exiting who = some fault)
    (taken : process.exitRight = some ⟨who, fault, .tells⟩) :
    LeadsToEnd orders process (orders.policy.exit fault)
      (orders.policy.say fault (orders.policy.tell who.thread fault process.journal)) :=
  (leads_of_turn who (turn_of_exitRight running exiting taken)).toEnd
    (leadsToEnd_of_prints running exiting rfl)

/-- A thread that nobody disturbs takes the process down. -/
theorem leadsToEnd_of_exiting (exiting : process.exiting who = some fault)
    (running : process.exit = none) (free : process.exitRight = none) :
    LeadsToEnd orders process (orders.policy.exit fault)
      (orders.policy.handle who.thread fault process.journal).2 := by
  have htakes : process.turn orders who =
      { process with exitRight := some ⟨who, fault, .tells⟩ } := by
    rw [turn_of_exiting running exiting, bringDown, free]
  rw [Policy.handle_eq]
  exact (leads_of_turn who htakes).toEnd (leadsToEnd_of_tells running exiting rfl)

end ExitRight

/-- A worker works until it has come to its end. -/
theorem leads_work (running : process.exit = none) (working : process.statuses i = .working)
    (n : Nat) :
    Leads orders process
      { process with shared := process.shared.exec orders.config (List.replicate n i) } := by
  induction n with
  | zero => exact .refl orders process
  | succ n ih =>
      rw [List.replicate_succ', SharedPool.exec_concat]
      refine ih.trans ?_
      generalize process.shared.exec orders.config (List.replicate n i) = shared
      by_cases hbusy : ∃ outcome, (shared.states i).phase = .ended outcome
      · obtain ⟨outcome, ended⟩ := hbusy
        rw [SharedPool.step_of_ended ended]
        exact .refl orders _
      · refine leads_of_turn (.worker i) ?_
        have hworking :
            ({ process with shared := shared } : Process workers).statuses i = .working :=
          working
        rw [turn_worker (show ({ process with shared := shared } : Process workers).exit = none from
          running), workerTurn, hworking]
        dsimp only
        split
        · rename_i outcome ended
          exact absurd ⟨outcome, ended⟩ hbusy
        · rfl

theorem turn_of_ended (orders : Orders) {outcome : Except Stop UInt64}
    (running : process.exit = none) (working : process.statuses i = .working)
    (ended : process.phase i = .ended outcome) :
    process.turn orders (.worker i) = process.finish i outcome := by
  rw [turn_worker running, workerTurn, working]
  dsimp only
  rw [ended]

/-- One worker has come to its end, and its thread has nothing left to do. -/
structure WorkDone (i : Fin workers) (outcome : Except Stop UInt64)
    (process after : Process workers) : Prop where
  running : after.exit = none
  free : after.exitRight = process.exitRight
  mainStatus : after.mainStatus = process.mainStatus
  status : after.statuses i = .finished
  phase : after.phase i = .ended outcome
  others : ∀ j ≠ i, after.statuses j = process.statuses j ∧
    after.shared.states j = process.shared.states j

theorem workDone_finish {shared : SharedPool workers} {outcome : Except Stop UInt64}
    (running : process.exit = none) (finished : WorkerStatus.after outcome = .finished)
    (ended : (shared.states i).phase = .ended outcome)
    (others : ∀ j ≠ i, shared.states j = process.shared.states j) :
    WorkDone i outcome process (finish i outcome { process with shared := shared }) where
  running := running
  free := rfl
  mainStatus := rfl
  status := (Function.update_self ..).trans finished
  phase := ended
  others := fun j hj => ⟨Function.update_of_ne hj .., others j hj⟩

/-- A worker that nobody disturbs has come to what its run on the allocator comes to. -/
theorem exists_alone (orders : Orders) (running : process.exit = none) (idle : process.stack.Idle)
    (working : process.statuses i = .working) (first : process.shared.states i = .first) :
    ∃ shared : SharedPool workers, Leads orders process { process with shared := shared } ∧
      (shared.states i).phase =
        .ended (alone orders.config (SharedPool.number i) process.stack).1 ∧
      shared.inner.push (.counting shared.counters) =
        (alone orders.config (SharedPool.number i) process.stack).2 ∧
      ∀ j ≠ i, shared.states j = process.shared.states j := by
  have room : process.shared.counters.live.toNat + 1 < UInt64.size := by
    obtain ⟨counters, hlayers, balanced⟩ := idle
    obtain rfl := Layer.counting.inj (List.cons.inj hlayers).1
    obtain ⟨-, hlive⟩ : process.shared.counters.allocations = process.shared.counters.releases ∧
        process.shared.counters.live = 0 := by simpa [Counters.isBalanced] using balanced
    rw [hlive]
    decide
  have finishes := WorkerView.finishes orders.config (SharedPool.number i) process.shared.counters
    process.shared.inner room (Nat.le_refl _)
  have hview : process.shared.view i = ⟨process.shared.counters, process.shared.inner, .first⟩ :=
    congrArg (WorkerView.mk process.shared.counters process.shared.inner) first
  rw [← hview, ← SharedPool.view_exec_replicate] at finishes
  exact ⟨_, leads_work running working _, finishes.phase, finishes.stack,
    fun j hj => SharedPool.states_exec_replicate_of_ne hj _⟩

/-- A worker that nobody disturbs does what it does in the pool of the program. -/
theorem leads_or_ends_of_working (orders : Orders) (running : process.exit = none)
    (free : process.exitRight = none) (idle : process.stack.Idle)
    (working : process.statuses i = .working) (first : process.shared.states i = .first)
    {pool : Pool} (mirrors : process.stack = pool.stack) :
    (∃ after, Leads orders process after ∧
        Ordinary (pool.work orders.config (.ofPolicy orders.policy) (SharedPool.number i)).1 ∧
        WorkDone i (pool.work orders.config (.ofPolicy orders.policy) (SharedPool.number i)).1
          process after ∧
        after.stack =
          (pool.work orders.config (.ofPolicy orders.policy) (SharedPool.number i)).2.stack) ∨
      ∃ exit, (pool.work orders.config (.ofPolicy orders.policy) (SharedPool.number i)).1 =
          .error (.exit exit) ∧
        LeadsToEnd orders process exit (pool.work orders.config (.ofPolicy orders.policy)
          (SharedPool.number i)).2.stack.site.journal := by
  obtain ⟨shared, leads, ended, hstack, others⟩ :=
    exists_alone orders running idle working first
  have returns :=
    (idle.runWorker (.worker (SharedPool.number i)) (SharedPool.number i) orders.config.cycles
    orders.config.blockSize).2
  rw [mirrors] at ended hstack returns
  unfold alone at ended hstack
  have hfinish := turn_of_ended orders
    (show ({ process with shared := shared } : Process workers).exit = none from running)
    working ended
  unfold Pool.work
  dsimp only
  generalize runWorker (.worker (SharedPool.number i)) (SharedPool.number i) orders.config.cycles
    orders.config.blockSize pool.stack = called at ended hstack returns hfinish ⊢
  obtain ⟨stop | count, stack⟩ := called
  · obtain ⟨fault, rfl⟩ := returns stop rfl
    dsimp only at hstack ⊢
    subst hstack
    split
    · rename_i isResource
      have hstatus :
          (finish i (.error (.fault fault)) { process with shared := shared }).statuses i =
          .exiting fault := (Function.update_self ..).trans (if_pos isResource)
      have hexiting : (finish i (.error (.fault fault)) { process with shared := shared }).exiting
          (.worker i) = some fault := by rw [exiting, hstatus]
      rw [Pool.present_ofPolicy_eq]
      refine .inr ⟨_, rfl, (leads.trans (leads_of_turn _ hfinish)).toEnd ?_⟩
      exact leadsToEnd_of_exiting hexiting running free
    · rename_i ordinary
      refine .inl ⟨_, leads.trans (leads_of_turn _ hfinish), ?_,
        workDone_finish running (if_neg ordinary) ended others, rfl⟩
      intro stop hstop
      exact ⟨fault, (Except.error.inj hstop).symm, Bool.eq_false_iff.2 ordinary⟩
  · refine .inl ⟨_, leads.trans (leads_of_turn _ hfinish), ?_,
      workDone_finish running rfl ended others, hstack⟩
    intro stop hstop
    cases hstop

/-- The workers with some numbers have yet to work, one after another; all others have come to
their ends, as the pool knows. -/
structure WorkQueue (process : Process workers) (pool : Pool) (pending : List Nat)
    (outcomes : Pool.Outcomes) : Prop where
  running : process.exit = none
  free : process.exitRight = none
  mainStatus : process.mainStatus = .joining 0 none []
  mirrors : process.stack = pool.stack
  idle : pool.stack.Idle
  fresh : ∀ i, i.val ∈ pending →
    process.statuses i = .working ∧ process.shared.states i = .first
  done : ∀ i, i.val ∉ pending → process.statuses i = .finished ∧
    ∃ outcome, outcomes.lookup i.val = some outcome ∧ process.phase i = .ended outcome

/-- One worker less has yet to work. -/
theorem WorkQueue.next {pool between : Pool} {rest : List Nat} {outcomes : Pool.Outcomes}
    {outcome : Except Stop UInt64} (queue : WorkQueue process pool (i.val :: rest) outcomes)
    (once : i.val ∉ rest) (done : WorkDone i outcome process after)
    (mirrors : after.stack = between.stack) (idle : between.stack.Idle) :
    WorkQueue after between rest ((i.val, outcome) :: outcomes) where
  running := done.running
  free := done.free.trans queue.free
  mainStatus := done.mainStatus.trans queue.mainStatus
  mirrors := mirrors
  idle := idle
  fresh := by
    intro j hj
    have hne : j ≠ i := fun h => once (h ▸ hj)
    obtain ⟨hstatus, hstate⟩ := done.others j hne
    rw [hstatus, hstate]
    exact queue.fresh j (List.mem_cons_of_mem _ hj)
  done := by
    intro j hj
    by_cases hne : j = i
    · subst hne
      exact ⟨done.status, outcome, List.lookup_cons_self .., done.phase⟩
    · obtain ⟨hstatus, hstate⟩ := done.others j hne
      obtain ⟨finished, other, hlookup, ended⟩ := queue.done j
        (List.not_mem_cons_of_ne_of_not_mem (fun h => hne (Fin.ext h)) hj)
      refine ⟨hstatus.trans finished, other, ?_, ?_⟩
      · rw [List.lookup_cons, beq_false_of_ne (fun h => hne (Fin.ext h))]
        exact hlookup
      · rw [phase, hstate]
        exact ended

/-- The workers have worked one after another, or one of them has taken the process down. -/
inductive QueueDone (orders : Orders) (process : Process workers) :
    Except Exit Pool.Outcomes × Pool → Prop
  | goes {after : Process workers} {outcomes : Pool.Outcomes} {pool : Pool}
      (leads : Leads orders process after) (queue : WorkQueue after pool [] outcomes) :
      QueueDone orders process (.ok outcomes, pool)
  | ends {exit : Exit} {pool : Pool}
      (ends : LeadsToEnd orders process exit pool.stack.site.journal) :
      QueueDone orders process (.error exit, pool)

theorem QueueDone.of_leads {result : Except Exit Pool.Outcomes × Pool}
    (h : QueueDone orders between result) (leads : Leads orders process between) :
    QueueDone orders process result := by
  cases h with
  | goes leads' queue => exact .goes (leads.trans leads') queue
  | ends ends => exact .ends (leads.toEnd ends)

/-- The workers of a process work as those of the pool. -/
theorem WorkQueue.queueDone (orders : Orders) {pool : Pool} {pending : List Nat}
    {outcomes : Pool.Outcomes} (queue : WorkQueue process pool pending outcomes)
    (nodup : pending.Nodup) (known : ∀ index ∈ pending, index < workers) :
    QueueDone orders process
      (Pool.workAll orders.config (.ofPolicy orders.policy) pending outcomes pool) := by
  induction pending generalizing process pool outcomes with
  | nil => exact .goes (.refl orders process) queue
  | cons index rest ih =>
      obtain ⟨once, hrest⟩ := List.nodup_cons.1 nodup
      obtain ⟨hindex, hknown⟩ := List.forall_mem_cons.1 known
      obtain ⟨working, first⟩ := queue.fresh ⟨index, hindex⟩ List.mem_cons_self
      have hwork := work_cases orders.policy orders.config queue.idle index.toUInt64
      have hleads := leads_or_ends_of_working orders queue.running queue.free
        (queue.mirrors ▸ queue.idle) working first queue.mirrors
      rw [show SharedPool.number ⟨index, hindex⟩ = index.toUInt64 from rfl] at hleads
      unfold Pool.workAll
      generalize pool.work orders.config (.ofPolicy orders.policy) index.toUInt64 = called
        at hwork hleads ⊢
      obtain ⟨outcome, between⟩ := called
      rcases hleads with ⟨after, leads, ordinary, done, hstack⟩ | ⟨exit, rfl, ends⟩
      · have idle : between.stack.Idle := by
          rcases hwork with ⟨-, unharmed⟩ | ⟨fault, houtcome, -⟩
          · exact unharmed.idle
          · obtain ⟨other, hother, -⟩ := ordinary _ houtcome
            cases hother
        have hothers := (ih (queue.next once done hstack idle) hrest hknown).of_leads leads
        -- The outcome is no end of the process, so the others work.
        obtain stop | count := outcome
        · obtain ⟨fault, rfl, -⟩ := ordinary stop rfl
          exact hothers
        · exact hothers
      · exact .ends ends

/-- The main thread has waited for the workers before a number, as the pool has. -/
structure Waiting (process : Process workers) (pool : Pool) (outcomes : Pool.Outcomes) (next : Nat)
    (first : Option Fault) (done : List UInt64) : Prop where
  running : process.exit = none
  free : process.exitRight = none
  mainStatus : process.mainStatus = .joining next first done
  mirrors : process.stack = pool.stack
  idle : pool.stack.Idle
  done : ∀ i, process.statuses i = .finished ∧
    ∃ outcome, outcomes.lookup i.val = some outcome ∧ process.phase i = .ended outcome

theorem WorkQueue.waiting {pool : Pool} {outcomes : Pool.Outcomes}
    (queue : WorkQueue process pool [] outcomes) : Waiting process pool outcomes 0 none [] :=
  ⟨queue.running, queue.free, queue.mainStatus, queue.mirrors, queue.idle,
    fun i => queue.done i List.not_mem_nil⟩

/-- The main thread takes up what the worker has come to that it has waited for. -/
theorem Waiting.turn_eq (orders : Orders) (i : Fin workers) {pool : Pool} {outcomes : Pool.Outcomes}
    {first : Option Fault} {done : List UInt64}
    (waiting : Waiting process pool outcomes i.val first done) :
    ∃ outcome, outcomes.lookup i.val = some outcome ∧
      process.turn orders .main = process.takeUp i outcome first done := by
  obtain ⟨finished, outcome, hlookup, ended⟩ := waiting.done i
  refine ⟨outcome, hlookup, ?_⟩
  rw [turn_main waiting.running, mainTurn, waiting.mainStatus]
  dsimp only
  rw [dif_pos i.isLt, join, finished, ended]

theorem Waiting.takeUp {pool between : Pool} {outcomes : Pool.Outcomes} {first : Option Fault}
    {done : List UInt64} (waiting : Waiting process pool outcomes i.val first done)
    (outcome : Except Stop UInt64)
    (welcomed : between.stack = pool.stack.write (noteJoined i.val outcome)) :
    Waiting (process.takeUp i outcome first done) between outcomes (i.val + 1)
      (first.or (Pool.failure? i.val outcome)) (collect done outcome) where
  running := waiting.running
  free := waiting.free
  mainStatus := rfl
  mirrors := (congrArg (Stack.write (noteJoined i.val outcome)) waiting.mirrors).trans welcomed.symm
  idle := welcomed ▸ waiting.idle
  done := waiting.done

/-- The main thread waits for all workers as the pool does. -/
theorem Waiting.leads (orders : Orders) {pool : Pool} {outcomes : Pool.Outcomes} {next : Nat}
    {first : Option Fault} {done : List UInt64}
    (waiting : Waiting process pool outcomes next first done)
    {count : Nat} (hcount : next + count = workers) :
    ∃ after last failure cycles,
      Pool.join outcomes (List.range' next count) first done pool =
          ((failure, cycles.reverse), last) ∧
        Leads orders process after ∧ Waiting after last outcomes workers failure cycles := by
  induction count generalizing next first done process pool with
  | zero =>
      obtain rfl : next = workers := hcount
      exact ⟨process, pool, first, done, rfl, .refl orders process, waiting⟩
  | succ count ih =>
      obtain ⟨outcome, hlookup, hturn⟩ := waiting.turn_eq orders ⟨next, by omega⟩
      obtain ⟨between, hstep, welcomed⟩ :=
        Pool.join_of_lookup hlookup (List.range' (next + 1) count) first done pool
      have hcount' : next + 1 + count = workers := by omega
      obtain ⟨after, last, failure, cycles, hjoin, leads, hwaiting⟩ :=
        ih (waiting.takeUp outcome welcomed) hcount'
      refine ⟨after, last, failure, cycles, ?_, (leads_of_turn .main hturn).trans leads, hwaiting⟩
      rw [List.range'_succ, hstep]
      exact hjoin

end Leads

end Process

/-- What the program hands on from its pool. -/
def Pool.finished (result : Except Stop Summary) (pool : Pool) : Execution.Finished :=
  ⟨Execution.stopOf result, pool.stack.site.journal, "", some (Execution.counted pool.stack)⟩

/-- What a process does with its pool. -/
def Orders.ofLaunch (launch : Execution.Launch Tree) (values : Command.Values) : Orders :=
  ⟨values.workers, values.policy, values.report,
    fun _ => launch.refusal.map Thread.Refusal.error⟩

/-- The counting layer does not hear of the total of the cycles. -/
theorem conclude_push (cycles : List UInt64) (inner : Stack) (layer : Layer)
    (shown : Array (Thread × Fault)) :
    conclude cycles ⟨inner.push layer, shown⟩ =
      ((conclude cycles ⟨inner, #[]⟩).1,
        ⟨(conclude cycles ⟨inner, #[]⟩).2.stack.push layer, shown⟩) := by
  unfold conclude
  dsimp only
  have hsite : (inner.push layer).site = inner.site := rfl
  rw [hsite]
  split
  · split <;> rfl
  · rfl

namespace Process

section End

variable {launch : Execution.Launch Tree} {values : Command.Values} {process : Process workers}
  {pool : Pool}

/-- The counters that the program shows are those of the process. -/
theorem counted_eq (mirrors : process.stack = pool.stack) (idle : pool.stack.Idle) :
    Execution.counted pool.stack = process.shared.counters := by
  obtain ⟨counters, hlayers, -⟩ := idle
  rw [Execution.counted_of_layers hlayers]
  rw [← mirrors] at hlayers
  exact (Layer.counting.inj (List.cons.inj hlayers).1).symm

theorem journal_publish (values : Command.Values) (failure : Option Fault)
    (result : Except Stop Summary) (mirrors : process.stack = pool.stack)
    (idle : pool.stack.Idle) :
    (process.publish values.report failure).journal =
      Execution.report values (pool.finished result) := by
  have hjournal : pool.stack.site.journal = process.journal :=
    congrArg (fun stack => stack.site.journal) mirrors.symm
  unfold Execution.report Pool.finished
  dsimp only
  rw [counted_eq mirrors idle, hjournal]
  show (process.shared.counters.tally values.report).foldl Log.Journal.print process.journal = _
  unfold Counters.tally
  split <;> rfl

/-- The main thread prints the counters and ends the process. -/
theorem leadsToEnd_of_reporting {failure : Option Fault} {result : Except Stop Summary}
    (running : process.exit = none) (free : process.exitRight = none)
    (mainStatus : process.mainStatus = .reporting failure) (mirrors : process.stack = pool.stack)
    (idle : pool.stack.Idle) (stop : Execution.stopOf result = failure.map .fault) :
    LeadsToEnd (.ofLaunch launch values) process
      (Execution.conclude values (pool.finished result)).exit
      (Execution.conclude values (pool.finished result)).journal := by
  have hturn : process.turn (.ofLaunch launch values) .main =
      process.publish values.report failure := by
    rw [turn_main running, mainTurn, mainStatus]
    rfl
  have hpublished := journal_publish values failure result mirrors idle
  refine (leads_of_turn .main hturn).toEnd ?_
  unfold Execution.conclude
  rw [show (pool.finished result).stop = failure.map .fault from stop]
  cases failure with
  | none =>
      have hleave : (process.publish values.report none).turn (.ofLaunch launch values) .main =
          (process.publish values.report none).leave (.code 0) := turn_main running
      exact ⟨_, leads_of_turn .main hleave, rfl, hpublished⟩
  | some fault =>
      have hexiting : (process.publish values.report (some fault)).exiting .main = some fault := rfl
      have hends : LeadsToEnd (.ofLaunch launch values) _ (values.policy.exit fault)
          (values.policy.handle .main fault
            (process.publish values.report (some fault)).journal).2 :=
        leadsToEnd_of_exiting hexiting running free
      rw [hpublished, ← Policy.exit_handle values.policy .main fault
        (Execution.report values (pool.finished result))] at hends
      exact hends

/-- The main thread has waited for all workers, has the answer of the pool and ends the
process. -/
theorem Waiting.leadsToEnd {outcomes : Pool.Outcomes} {failure : Option Fault}
    {cycles : List UInt64}
    (waiting : Waiting process pool outcomes workers failure cycles)
    {result : Except Stop Summary} {last : Pool}
    (answer : (match (failure, pool) with
      | (some fault, pool) => (.error (.fault fault), pool)
      | (none, pool) => Workers.conclude cycles.reverse pool) = (result, last)) :
    LeadsToEnd (.ofLaunch launch values) process
      (Execution.conclude values (last.finished result)).exit
      (Execution.conclude values (last.finished result)).journal := by
  have hturn : process.turn (.ofLaunch launch values) .main = process.answer failure cycles := by
    rw [turn_main waiting.running, mainTurn, waiting.mainStatus]
    dsimp only
    rw [dif_neg (Nat.lt_irrefl workers)]
  refine (leads_of_turn .main hturn).toEnd ?_
  cases failure with
  | some fault =>
      obtain ⟨rfl, rfl⟩ := Prod.mk.inj answer
      exact @leadsToEnd_of_reporting _ _ launch values (process.answer (some fault) cycles) pool
        (some fault) (.error (.fault fault)) waiting.running waiting.free rfl
        waiting.mirrors waiting.idle rfl
  | none =>
      obtain ⟨stack, shown⟩ := pool
      obtain rfl : process.stack = stack := waiting.mirrors
      dsimp only at answer
      rw [Process.stack, conclude_push] at answer
      unfold Process.answer
      obtain ⟨after, hconclude, -, hlayers, -⟩ | ⟨panic, hconclude⟩ :=
        conclude_cases cycles.reverse ⟨process.shared.inner, #[]⟩
      · rw [hconclude] at answer ⊢
        obtain ⟨rfl, rfl⟩ := Prod.mk.inj answer
        have idle : (after.stack.push (.counting process.shared.counters)).Idle := by
          obtain ⟨counters, hidle, balanced⟩ := waiting.idle
          refine ⟨counters, ?_, balanced⟩
          rw [← hidle]
          exact congrArg (Layer.counting process.shared.counters :: ·) hlayers
        exact @leadsToEnd_of_reporting _ _ launch values (process.answered none after.stack) _
          none _
          waiting.running waiting.free rfl rfl idle rfl
      · rw [hconclude] at answer ⊢
        obtain ⟨rfl, rfl⟩ := Prod.mk.inj answer
        exact ⟨_, .refl _ _, rfl, rfl⟩

end End

section Start

variable {launch : Execution.Launch Tree} {values : Command.Values} {orders : Orders}
  {inner : Stack}

/-- The main thread has started the workers before a number, and no one else has had a turn. -/
def employed (inner : Stack) (count : Nat) : Process workers :=
  { first inner with
    statuses := fun i => if i.val < count then .working else .unborn
    mainStatus := .starting count }

theorem startWorker_employed {count : Nat} (hcount : count < workers) :
    startWorker ⟨count, hcount⟩ (employed inner count) = employed inner (count + 1) := by
  have hstatuses : Function.update
      (fun i : Fin workers => if i.val < count then .working else .unborn)
      ⟨count, hcount⟩ .working =
        fun i => if i.val < count + 1 then WorkerStatus.working else .unborn := by
    funext i
    by_cases hi : i = ⟨count, hcount⟩
    · subst hi
      rw [Function.update_self, if_pos count.lt_succ_self]
    · have hne : i.val ≠ count := fun h => hi (Fin.ext h)
      rw [Function.update_of_ne hi]
      exact if_congr (by omega) rfl rfl
  show Process.mk _ _ _ _ _ = Process.mk _ _ _ _ _
  exact congrArg (fun statuses => Process.mk _ statuses _ _ _) hstatuses

theorem leads_employed {count : Nat} (hcount : count ≤ workers)
    (granted : ∀ index < count, orders.refusal index = none) :
    Leads orders (first inner) (employed inner count : Process workers) := by
  induction count with
  | zero => exact .refl orders _
  | succ count ih =>
      have hbefore := ih (Nat.le_of_succ_le hcount) fun index h =>
        granted index (Nat.lt_succ_of_lt h)
      have hlt : count < workers := hcount
      refine hbefore.trans (leads_of_turn .main ?_)
      rw [turn_main rfl, ← startWorker_employed hlt]
      show (if h : count < workers then _ else _) = _
      rw [dif_pos hlt, spawn, granted count count.lt_succ_self]

/-- All workers have been started, and have yet to work. -/
theorem leads_queue {pending : List Nat} (everyone : ∀ index < workers, index ∈ pending)
    (granted : ∀ index < workers, orders.refusal index = none) {pool : Pool}
    (mirrors : inner.push (.counting .zero) = pool.stack) (idle : pool.stack.Idle) :
    ∃ process : Process workers, Leads orders (first inner) process ∧
      WorkQueue process pool pending [] := by
  have hturn : (employed inner workers : Process workers).turn orders .main =
      { employed inner workers with mainStatus := .joining 0 none [] } := by
    rw [turn_main rfl]
    exact dif_neg (Nat.lt_irrefl workers)
  refine ⟨_, (leads_employed (Nat.le_refl workers) granted).trans (leads_of_turn .main hturn), ?_⟩
  refine ⟨rfl, rfl, rfl, mirrors, idle, fun i _ => ⟨if_pos i.isLt, rfl⟩, ?_⟩
  intro i hi
  exact absurd (everyone i.val i.isLt) hi

/-- The workers of a program work in their order, and the process ends as the program does. -/
theorem leadsToEnd_finish {order : List Nat} (perm : order.Perm (List.range workers))
    (launch : Execution.Launch Tree) (values : Command.Values)
    (granted : launch.refusal = none) {pool : Pool}
    (mirrors : inner.push (.counting .zero) = pool.stack) (idle : pool.stack.Idle)
    {surroundings : Surroundings} (horder : surroundings.order workers = order)
    (hook : surroundings.hook = .ofPolicy values.policy) {result : Except Stop Summary}
    {last : Pool}
    (answer : Workers.finish values.workers surroundings workers none pool = (result, last)) :
    LeadsToEnd (.ofLaunch launch values) (first inner : Process workers)
      (Execution.conclude values (last.finished result)).exit
      (Execution.conclude values (last.finished result)).journal := by
  have hgranted : ∀ index < workers, (Orders.ofLaunch launch values).refusal index = none :=
    fun _ _ => congrArg (Option.map Thread.Refusal.error) granted
  have hmem (index : Nat) : index ∈ order ↔ index < workers := by
    rw [perm.mem_iff, List.mem_range]
  obtain ⟨process, leads, queue⟩ :=
    leads_queue (fun index => (hmem index).2) hgranted mirrors idle
  refine leads.toEnd ?_
  have hworked := queue.queueDone (.ofLaunch launch values)
    (perm.nodup_iff.2 List.nodup_range) fun index => (hmem index).1
  unfold Workers.finish at answer
  rw [hook, horder] at answer
  generalize hcalled : Pool.workAll values.workers (.ofPolicy values.policy) order [] pool = called
    at answer
  have hworked : QueueDone (.ofLaunch launch values) process called := hcalled ▸ hworked
  cases hworked with
  | ends ends =>
      obtain ⟨rfl, rfl⟩ := Prod.mk.inj answer
      exact ends
  | goes leads queue =>
      refine leads.toEnd ?_
      dsimp only at answer
      obtain ⟨after, joined, failure, cycles, hjoin, leads, waiting⟩ :=
        queue.waiting.leads (.ofLaunch launch values) (Nat.zero_add workers)
      rw [List.range_eq_range', hjoin] at answer
      refine leads.toEnd (waiting.leadsToEnd ?_)
      cases failure with
      | none => exact answer
      | some fault => exact answer

/-- The system refuses the first thread, and the process ends as the program does. -/
theorem leadsToEnd_refused (launch : Execution.Launch Tree) (values : Command.Values)
    (hworker : 0 < workers) {refusal : Thread.Refusal} (refused : launch.refusal = some refusal)
    {pool : Pool} (mirrors : inner.push (.counting .zero) = pool.stack)
    {result : Except Stop Fault} {last : Pool}
    (report : reportRefusal (.ofPolicy values.policy) 0 refusal.error pool = (result, last)) :
    ∃ exit, result = .error (.exit exit) ∧
      LeadsToEnd (.ofLaunch launch values) (first inner : Process workers) exit
        last.stack.site.journal := by
  have hrefusal : (Orders.ofLaunch launch values).refusal 0 = some refusal.error :=
    congrArg (Option.map Thread.Refusal.error) refused
  have hturn : (first inner : Process workers).turn (.ofLaunch launch values) .main =
      (first inner).reject ⟨0, hworker⟩ refusal.error := by
    rw [turn_main rfl]
    show (if h : 0 < workers then _ else _) = _
    rw [dif_pos hworker, spawn, hrefusal]
  have hexiting : ((first inner).reject ⟨0, hworker⟩ refusal.error).exiting .main =
      some (.threadCreateFailed 0 refusal.error) := rfl
  obtain ⟨stack, shown⟩ := pool
  obtain rfl : inner.push (.counting .zero) = stack := mirrors
  rw [reportRefusal, Pool.present_ofPolicy_eq] at report
  obtain ⟨rfl, rfl⟩ := Prod.mk.inj report
  exact ⟨_, rfl, (leads_of_turn .main hturn).toEnd (leadsToEnd_of_exiting hexiting rfl rfl)⟩

end Start

end Process

/-- What is below the counting layer of a program when its pool has been opened. -/
def started (launch : Execution.Launch Tree) (values : Command.Values) (journal : Log.Journal) :
    Stack :=
  (opened values.workers ⟨[], .fresh launch.heap journal⟩).stack

open Process in
/-- If the settings of a pool can be run with and there is memory for the handles of its threads,
then some turns of these lead to the exit of the program and to its journal. -/
theorem leadsToEnd_runFixture (launch : Execution.Launch Tree) (values : Command.Values)
    (journal : Log.Journal) (program : launch.program = .threaded)
    (valid : values.workers.validate = .ok ())
    (room : hasRoomForHandles values.workers.workers = true)
    (memory : launch.system.lacks (handlesSize values.workers.workers) = false)
    (order : ∀ count, (launch.order count).Perm (List.range count)) :
    LeadsToEnd (.ofLaunch launch values)
      (first (started launch values journal) : Process values.workers.workers.toNat)
      (Execution.conclude values (Execution.runFixture launch values journal)).exit
      (Execution.conclude values (Execution.runFixture launch values journal)).journal := by
  have hfixture : Execution.runFixture launch values journal =
      (Execution.pool launch values journal).2.finished
        (Execution.pool launch values journal).1 := by
    simp only [Execution.runFixture, program]
    rfl
  have hrun := @run_eq values.workers (Execution.surroundings launch values)
    (Execution.allocator launch.heap journal) valid room memory
  rw [hfixture]
  unfold Execution.pool
  rw [hrun]
  cases hrefusal : launch.refusal with
  | none =>
      have hgranted : ∀ index < values.workers.workers.toNat,
          (Execution.surroundings launch values).refusal index = none :=
        fun _ _ => congrArg (Option.map Thread.Refusal.error) hrefusal
      rw [spawned_all hgranted]
      exact leadsToEnd_finish (order _) launch values hrefusal rfl
        ((Execution.idle_allocator launch.heap journal).emit ..) rfl rfl rfl
  | some refusal =>
      have hworker : 0 < values.workers.workers.toNat := by
        unfold Config.validate at valid
        split at valid
        · cases valid
        · rename_i hne
          exact Nat.pos_of_ne_zero fun h => hne (UInt64.toNat_inj.1 h)
      have hrefused : (Execution.surroundings launch values).refusal 0 = some refusal.error :=
        congrArg (Option.map Thread.Refusal.error) hrefusal
      rw [spawned_refused hworker hrefused fun _ h => absurd h (Nat.not_lt_zero _)]
      rcases hreport : reportRefusal (Execution.surroundings launch values).hook 0 refusal.error
        (opened values.workers (Execution.allocator launch.heap journal)) with ⟨answer, last⟩
      obtain ⟨exit, rfl, ends⟩ := @leadsToEnd_refused _ _ (started launch values journal) launch
        values hworker refusal hrefusal _ rfl _ _ hreport
      simp only [hreport]
      exact ends

end Workers
end HeapFixtures
