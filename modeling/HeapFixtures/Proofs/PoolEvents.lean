/-
# What a pool says of itself

The threads of a pool write to one log, and each of them tells its own part of the story.  A
worker that fails says so itself, before the hook is asked, so it has said it whatever the hook
does then.  The main thread tells of the workers that completed, in the order of their numbers,
and has a last word only if none failed.  A failure that the result does not show, since one
with a lower number took precedence, is in the log all the same.

The hook writes to the same log, and what it says is its own affair.
-/

import HeapFixtures.Proofs.PolicyExit
import HeapFixtures.Proofs.Ending
import HeapFixtures.Proofs.Joining
import HeapFixtures.Proofs.Reporting
import HeapFixtures.Proofs.Returning
import HeapFixtures.Proofs.Vetting
import Mathlib.Data.List.Nodup

namespace HeapFixtures
namespace Workers

/-- The event that begins a run. -/
def Config.opening (config : Config) : Log.Event :=
  ⟨.main, .info, .workers, "threaded fixture started",
    [("workers", .word config.workers), ("cycles", .word config.cycles),
      ("block_size", .word config.blockSize)]⟩

/-- The event of a thread that is refused. -/
def spawnFailed (index : Nat) (error : IoError) : Log.Event :=
  ⟨.main, .error, .workers, "failed to spawn worker",
    [("index", .word index.toUInt64), ("error", .shown error.message)]⟩

/-- The event of a worker that fails, on its own thread. -/
def workerFailed (index : Nat) (fault : Fault) : Log.Event :=
  ⟨.worker index.toUInt64, .error, .workers, "worker failed",
    [("index", .word index.toUInt64), ("error", .shown fault.message)]⟩

/-- The event of a worker that has come back with its cycles. -/
def workerJoined (index : Nat) (cycles : UInt64) : Log.Event :=
  ⟨.main, .debug, .workers, "worker joined",
    [("index", .word index.toUInt64), ("cycles", .word cycles)]⟩

/-- The event that ends a run in which no worker failed. -/
def Summary.ending (summary : Summary) (total : UInt64) : Log.Event :=
  ⟨.main, .info, .workers, "threaded fixture finished", totals summary total⟩

/-- What a worker says of its own work: nothing, unless it is refused a block. -/
def failureEvents (index : Nat) : Except Stop UInt64 → List Log.Event
  | .error (.fault fault) => [workerFailed index fault]
  | _ => []

/-- What the main thread says of a worker that it has waited for. -/
def joinEvent (index : Nat) (result : Except Stop UInt64) : Option Log.Event :=
  result.toOption.map (workerJoined index)

/-- The last word of a run, with the cycles of all workers that completed. -/
inductive Closes (done : List UInt64) : Except Stop Summary → List Log.Event → Prop
  | finished {total : UInt64} (sums : Summary.totalCycles ⟨done⟩ = .ok total) :
      Closes done (.ok ⟨done⟩) [Summary.ending ⟨done⟩ total]
  | failed (fault : Fault) : Closes done (.error (.fault fault)) []

/-- Among some events those of the pool. -/
def fromPool (said : List Log.Event) : List Log.Event :=
  said.filter fun event => event.origin = .workers

/-- Among some events those of a thread. -/
def on (thread : Thread) (said : List Log.Event) : List Log.Event :=
  said.filter fun event => event.thread = thread

/-- A hook that adds to the log what it likes, but nothing in the name of the pool. -/
def Hook.Apart (hook : Hook) : Prop :=
  ∀ (thread : Thread) (fault : Fault) (journal : Log.Journal), ∃ said : List Log.Event,
    journal.Writes said (hook thread fault journal).2 ∧ ∀ event ∈ said, event.origin ≠ .workers

/-- A hook that says what the policy of a program says, and panics. -/
def Hook.raising (policy : Policy) : Hook := fun thread fault journal =>
  (some (.panic (.raised fault.message)), (policy.handle thread fault journal).2)

theorem writes_handle (policy : Policy) (thread : Thread) (fault : Fault)
    (journal : Log.Journal) :
    ∃ said, journal.Writes said (policy.handle thread fault journal).2 ∧
      ∀ event ∈ said, event.origin ≠ .workers := by
  have hemit (message : String) (fields : List (String × Log.Value)) :
      ∃ said, journal.Writes said (journal.emit thread .error .fault message fields) ∧
        ∀ event ∈ said, event.origin ≠ .workers := by
    refine ⟨_, ⟨Log.Journal.filter_emit .., Log.Journal.events_emit ..⟩, ?_⟩
    split
    · exact List.forall_mem_singleton.2 nofun
    · exact List.forall_mem_nil _
  unfold Policy.handle
  dsimp only
  split
  · exact hemit ..
  · obtain ⟨said, hwrites, hothers⟩ := hemit "fixture failed"
      [("error", .shown fault.message), ("code", .word fault.exitCode.toUInt64)]
    exact ⟨said, ⟨hwrites.filter, (Log.Journal.events_print ..).trans hwrites.events⟩, hothers⟩

theorem Hook.apart_raising (policy : Policy) : (Hook.raising policy).Apart :=
  writes_handle policy

theorem Hook.faultless_raising (policy : Policy) : (Hook.raising policy).Faultless :=
  fun _ _ _ _ => nofun

/-- The pool has told this part of its story since. -/
def Tells (before : Log.Journal) (told : List Log.Event) (after : Log.Journal) : Prop :=
  ∃ said, before.Writes said after ∧ fromPool said = told

/-- The pool as a worker finds it: those before it in the order have worked. -/
def Pool.awaiting (config : Config) (hook : Hook) (order : List Nat) (pool : Pool)
    (index : Nat) : Pool :=
  (order.takeWhile (· ≠ index)).foldl
    (fun pool other => (pool.work config hook other.toUInt64).2) pool

/-- What the work of one worker comes to, before the hook is asked. -/
def result (config : Config) (hook : Hook) (order : List Nat) (pool : Pool) (index : Nat) :
    Except Stop UInt64 :=
  (runWorker (.worker index.toUInt64) index.toUInt64 config.cycles config.blockSize
    (pool.awaiting config hook order index).stack).1

section Story

variable {before between after : Log.Journal} {first rest told : List Log.Event}

theorem fromPool_append (first rest : List Log.Event) :
    fromPool (first ++ rest) = fromPool first ++ fromPool rest :=
  List.filter_append ..

theorem Tells.nothing (journal : Log.Journal) : Tells journal [] journal :=
  ⟨[], .nothing journal, rfl⟩

theorem Tells.append (h : Tells before first between) (h' : Tells between rest after) :
    Tells before (first ++ rest) after := by
  obtain ⟨said, hwrites, rfl⟩ := h
  obtain ⟨more, hmore, rfl⟩ := h'
  exact ⟨said ++ more, hwrites.append hmore, fromPool_append said more⟩

theorem Tells.atDebug (h : Tells before told after) (debug : before.AtDebug) : after.AtDebug := by
  obtain ⟨said, hwrites, -⟩ := h
  exact hwrites.atDebug debug

/-- What the pool itself writes is a part of its story. -/
theorem tells_own (debug : before.AtDebug) (event : Log.Event)
    (loud : decide (event.level ≠ .trace) = true) (own : event.origin = .workers) :
    Tells before [event]
      (before.emit event.thread event.level event.origin event.message event.fields) :=
  ⟨[event], debug.writes event loud, List.filter_cons_of_pos (decide_eq_true own)⟩

/-- What the hook says is none. -/
theorem tells_present {hook : Hook} (apart : hook.Apart) (pool : Pool) (thread : Thread)
    (fault : Fault) :
    Tells pool.stack.site.journal [] (pool.present hook thread fault).2.stack.site.journal := by
  obtain ⟨said, hwrites, hothers⟩ := apart thread fault pool.stack.site.journal
  refine ⟨said, hwrites, List.filter_eq_nil_iff.2 fun event hevent => ?_⟩
  simpa using hothers event hevent

end Story

section Work

variable {config : Config} {hook : Hook} {pool : Pool} {index other : Nat} {order rest : List Nat}

/-- The work of a worker is not in the log, not even its beginning. -/
theorem journal_runWorker (thread : Thread) (number count size : UInt64) {stack : Stack}
    (debug : stack.site.journal.AtDebug) :
    (runWorker thread number count size stack).2.site.journal = stack.site.journal := by
  have hquiet : (announced thread number count stack).site.journal = stack.site.journal :=
    debug.emit_trace ..
  have hcycles := hears_cycles thread size count.toNat (announced thread number count stack)
  rw [hquiet] at hcycles
  rw [runWorker_eq]
  exact hcycles.eq_of_atDebug debug

/-- The failure is written before the hook is asked. -/
theorem tells_reportFailure (apart : hook.Apart) (debug : pool.stack.site.journal.AtDebug)
    (index : Nat)
    (fault : Fault) :
    Tells pool.stack.site.journal [workerFailed index fault]
        (reportFailure hook index fault pool).2.stack.site.journal ∧
      (reportFailure hook index fault pool).1.toOption = none := by
  have hnoted : Tells pool.stack.site.journal [workerFailed index fault]
      (pool.emit (.worker index.toUInt64) .error "worker failed"
        [("index", .word index.toUInt64), ("error", .shown fault.message)]).stack.site.journal :=
    tells_own debug (workerFailed index fault) rfl rfl
  simp only [reportFailure]
  generalize pool.emit (.worker index.toUInt64) .error "worker failed"
    [("index", .word index.toUInt64), ("error", .shown fault.message)] = noted at hnoted ⊢
  split
  · have hshown := hnoted.append (tells_present apart noted (.worker index.toUInt64) fault)
    generalize noted.present hook (.worker index.toUInt64) fault = shown at hshown ⊢
    obtain ⟨_ | stop, after⟩ := shown <;> exact ⟨hshown, rfl⟩
  · exact ⟨hnoted, rfl⟩

/-- A worker says whether it fails, and its outcome is its cycles if it does not. -/
theorem tells_work (apart : hook.Apart) (config : Config)
    (debug : pool.stack.site.journal.AtDebug) (index : Nat) :
    let alone := runWorker (.worker index.toUInt64) index.toUInt64 config.cycles config.blockSize
      pool.stack
    Tells pool.stack.site.journal (failureEvents index alone.1)
        (pool.work config hook index.toUInt64).2.stack.site.journal ∧
      (pool.work config hook index.toUInt64).1.toOption = alone.1.toOption := by
  have hsilent := journal_runWorker (.worker index.toUInt64) index.toUInt64 config.cycles
    config.blockSize debug
  rcases hrun : runWorker (.worker index.toUInt64) index.toUInt64 config.cycles
    config.blockSize pool.stack with ⟨(fault | panic | exit) | count, stack⟩
  all_goals
    rw [hrun] at hsilent
    have hjournal : stack.site.journal = pool.stack.site.journal := hsilent
    dsimp only
  case error.fault =>
    have hwork : pool.work config hook index.toUInt64 =
        reportFailure hook index fault ⟨stack, pool.shown⟩ := by
      simp only [Pool.work, hrun]
      rfl
    rw [← hjournal] at debug ⊢
    rw [hwork]
    exact tells_reportFailure apart
      (show (⟨stack, pool.shown⟩ : Pool).stack.site.journal.AtDebug from debug)
      index fault
  all_goals
    simp only [Pool.work, hrun]
    rw [hjournal]
    exact ⟨.nothing _, trivial⟩

theorem result_cons_self :
    result config hook (index :: rest) pool index =
      (runWorker (.worker index.toUInt64) index.toUInt64 config.cycles config.blockSize
        pool.stack).1 := by
  have hfirst : (index :: rest).takeWhile (· ≠ index) = [] :=
    List.takeWhile_cons_of_neg (by simp)
  rw [result, Pool.awaiting, hfirst]
  rfl

/-- A worker that is not the first one finds what the first one has left. -/
theorem result_cons_of_ne (h : other ≠ index) :
    result config hook (index :: rest) pool other =
      result config hook rest (pool.work config hook index.toUInt64).2 other := by
  have hfirst : (index :: rest).takeWhile (· ≠ other) = index :: rest.takeWhile (· ≠ other) :=
    List.takeWhile_cons_of_pos (by simpa using h.symm)
  rw [result, Pool.awaiting, hfirst]
  rfl

/-- Every worker tells its part, in the order in which they work. -/
theorem tells_workAll (apart : hook.Apart) (config : Config) (once : order.Nodup)
    (noted : Pool.Outcomes) (debug : pool.stack.site.journal.AtDebug) {outcomes : Pool.Outcomes}
    (h : (Pool.workAll config hook order noted pool).1 = .ok outcomes) :
    Tells pool.stack.site.journal
        (order.flatMap fun index => failureEvents index (result config hook order pool index))
        (Pool.workAll config hook order noted pool).2.stack.site.journal ∧
      (∀ index ∈ order,
        cyclesAt outcomes index = (result config hook order pool index).toOption) ∧
      ∀ index ∉ order, outcomes.lookup index = noted.lookup index := by
  induction order generalizing noted pool with
  | nil =>
      obtain rfl := Except.ok.inj h
      exact ⟨.nothing _, List.forall_mem_nil _, fun _ _ => rfl⟩
  | cons index rest ih =>
      obtain ⟨hindex, hrest⟩ := List.nodup_cons.1 once
      obtain ⟨htold, houtcome⟩ := tells_work apart config debug index
      have hown : result config hook (index :: rest) pool index = _ := result_cons_self
      rw [← hown] at htold houtcome
      have hothers : ∀ other ∈ rest, result config hook (index :: rest) pool other =
          result config hook rest (pool.work config hook index.toUInt64).2 other :=
        fun other hother => result_cons_of_ne fun heq => hindex (heq ▸ hother)
      have hgo : Pool.workAll config hook (index :: rest) noted pool =
          Pool.workAll config hook rest
            ((index, (pool.work config hook index.toUInt64).1) :: noted)
            (pool.work config hook index.toUInt64).2 := by
        rcases hwork : pool.work config hook index.toUInt64 with ⟨(_ | _ | exit) | _, after⟩
        all_goals simp only [Pool.workAll, hwork] at h ⊢
        cases h
      rw [hgo] at h ⊢
      obtain ⟨hmore, hcycles, hlookup⟩ := ih hrest _ (htold.atDebug debug) h
      refine ⟨?_, List.forall_mem_cons.2 ⟨?_, ?_⟩, ?_⟩
      · rw [List.flatMap_cons, List.flatMap_congr fun other hother => by rw [hothers other hother]]
        exact htold.append hmore
      · rw [cyclesAt, hlookup index hindex, List.lookup_cons_self]
        exact houtcome
      · intro other hother
        rw [hothers other hother]
        exact hcycles other hother
      · intro other hother
        rw [List.mem_cons, not_or] at hother
        rw [hlookup other hother.2, List.lookup_cons, beq_false_of_ne hother.1]

end Work

section Run

variable {config : Config} {surroundings : Surroundings} {pool : Pool} {stack : Stack}
  {count : Nat}

/-- The main thread tells of the workers that completed. -/
theorem tells_join (outcomes : Pool.Outcomes) (indices : List Nat) (first : Option Fault)
    (done : List UInt64) {pool : Pool} (debug : pool.stack.site.journal.AtDebug) :
    Tells pool.stack.site.journal
      (indices.filterMap fun index => (cyclesAt outcomes index).map (workerJoined index))
      (Pool.join outcomes indices first done pool).2.stack.site.journal := by
  induction indices generalizing first done pool with
  | nil => exact .nothing _
  | cons index rest ih =>
      unfold Pool.join
      rw [List.filterMap_cons]
      rcases houtcome : outcomes.lookup index with _ | (stop | cycles)
      · rw [show cyclesAt outcomes index = none by rw [cyclesAt, houtcome]; rfl]
        exact ih first done debug
      · rw [show cyclesAt outcomes index = none by rw [cyclesAt, houtcome]; rfl]
        exact ih _ done debug
      · rw [show cyclesAt outcomes index = some cycles by rw [cyclesAt, houtcome]; rfl]
        have hgreeted : Tells pool.stack.site.journal [workerJoined index cycles]
            (pool.emit .main .debug "worker joined"
              [("index", .word index.toUInt64), ("cycles", .word cycles)]).stack.site.journal :=
          tells_own debug (workerJoined index cycles) rfl rfl
        exact hgreeted.append (ih first (cycles :: done) (hgreeted.atDebug debug))

/-- A run that comes back from its end has said what it ends with. -/
theorem tells_conclude (done : List UInt64) (debug : pool.stack.site.journal.AtDebug)
    (returns : Returns (conclude done pool).1) :
    ∃ closing, Tells pool.stack.site.journal closing (conclude done pool).2.stack.site.journal ∧
      Closes done (conclude done pool).1 closing := by
  have henabled : pool.stack.site.journal.enables .workers .info
      (Log.valueNames (totals ⟨done⟩ 0)) = true := debug.enables ..
  unfold conclude at returns ⊢
  rw [if_pos henabled] at returns ⊢
  cases hsum : Summary.totalCycles ⟨done⟩ with
  | error panic =>
      rw [hsum] at returns
      obtain ⟨fault, ⟨⟩⟩ := returns _ rfl
  | ok total =>
      exact ⟨_, tells_own debug (Summary.ending ⟨done⟩ total) rfl rfl, .finished hsum⟩

/-- The part of a run after all workers were started or one was refused a thread. -/
theorem tells_finish (apart : surroundings.hook.Apart)
    (order : (surroundings.order count).Perm (List.range count)) (first : Option Fault)
    (debug : pool.stack.site.journal.AtDebug)
    (returns : Returns (finish config surroundings count first pool).1) :
    let results := result config surroundings.hook (surroundings.order count) pool
    ∃ closing,
      Tells pool.stack.site.journal
        ((surroundings.order count).flatMap (fun index => failureEvents index (results index)) ++
          (List.range count).filterMap (fun index => joinEvent index (results index)) ++ closing)
        (finish config surroundings count first pool).2.stack.site.journal ∧
      Closes ((List.range count).filterMap fun index => (results index).toOption)
        (finish config surroundings count first pool).1 closing := by
  intro results
  have once : (surroundings.order count).Nodup := order.nodup_iff.2 List.nodup_range
  unfold finish at returns ⊢
  rcases hwork : Pool.workAll config surroundings.hook (surroundings.order count) [] pool
    with ⟨exit | outcomes, worked⟩
  · rw [hwork] at returns
    obtain ⟨fault, ⟨⟩⟩ := returns _ rfl
  · obtain ⟨htold, hcycles, -⟩ := tells_workAll apart config once [] debug (congrArg Prod.fst hwork)
    rw [hwork] at htold returns
    have hresults : ∀ index ∈ List.range count,
        cyclesAt outcomes index = (results index).toOption :=
      fun index hindex => hcycles index (order.mem_iff.2 hindex)
    have hjoin := tells_join outcomes (List.range count) first [] (htold.atDebug debug)
    obtain ⟨joined, heq, -⟩ := join_eq outcomes (List.range count) first [] worked
    rw [List.reverse_nil, List.nil_append, List.filterMap_congr hresults] at heq
    rw [List.filterMap_congr (g := fun index => joinEvent index (results index)) fun index hindex =>
      congrArg (Option.map (workerJoined index)) (hresults index hindex)] at hjoin
    have hboth := htold.append hjoin
    rw [heq] at hboth
    dsimp only at returns ⊢
    rw [heq] at returns ⊢
    cases hfirst : first.or ((List.range count).findSome? (failureAt outcomes)) with
    | some fault =>
        refine ⟨[], ?_, .failed fault⟩
        rw [List.append_nil]
        exact hboth
    | none =>
        rw [hfirst] at returns
        obtain ⟨closing, hlast, hcloses⟩ := tells_conclude _ (hboth.atDebug debug) returns
        exact ⟨closing, hboth.append hlast, hcloses⟩

/-- How many workers are granted a thread. -/
def enlisted (config : Config) (surroundings : Surroundings) : Nat :=
  (spawned surroundings.refusal config.workers.toNat 0).1

/-- The refusal of a thread, if there is one. -/
def refusals (config : Config) (surroundings : Surroundings) : List Log.Event :=
  (spawned surroundings.refusal config.workers.toNat 0).2.toList.map
    (spawnFailed (enlisted config surroundings))

/-- A refused thread is told of before the hook is asked.  A hook that does not come back then
is the end of the run. -/
theorem tells_reportRefusal {hook : Hook} (apart : hook.Apart) (faultless : hook.Faultless)
    (debug : pool.stack.site.journal.AtDebug) (index : Nat) (error : IoError) :
    Tells pool.stack.site.journal [spawnFailed index error]
        (reportRefusal hook index error pool).2.stack.site.journal ∧
      (Returns (reportRefusal hook index error pool).1 →
        ∃ fault, (reportRefusal hook index error pool).1 = .ok fault) := by
  have hnoted : Tells pool.stack.site.journal [spawnFailed index error]
      (pool.emit .main .error "failed to spawn worker"
        [("index", .word index.toUInt64), ("error", .shown error.message)]).stack.site.journal :=
    tells_own debug (spawnFailed index error) rfl rfl
  simp only [reportRefusal]
  generalize pool.emit .main .error "failed to spawn worker"
    [("index", .word index.toUInt64), ("error", .shown error.message)] = noted at hnoted ⊢
  have hshown := hnoted.append
    (tells_present apart noted .main (.threadCreateFailed index.toUInt64 error))
  rcases hpresent : noted.present hook .main (.threadCreateFailed index.toUInt64 error)
    with ⟨_ | stop, after⟩
  all_goals rw [hpresent] at hshown
  · exact ⟨hshown, fun _ => ⟨_, rfl⟩⟩
  · refine ⟨hshown, fun returns => ?_⟩
    obtain ⟨fault, rfl⟩ := returns _ rfl
    exact absurd (congrArg Prod.fst hpresent) (faultless _ _ _ fault)

/-- The pool when its workers begin: what there is to say of a refused thread has been said. -/
def begun (config : Config) (surroundings : Surroundings) (stack : Stack) : Pool :=
  match spawned surroundings.refusal config.workers.toNat 0 with
  | (_, none) => opened config stack
  | (count, some error) =>
    (reportRefusal surroundings.hook count error (opened config stack)).2

/-- What the work of each worker of a run comes to, before the hook is asked. -/
def results (config : Config) (surroundings : Surroundings) (stack : Stack) :
    Nat → Except Stop UInt64 :=
  result config surroundings.hook (surroundings.order (enlisted config surroundings))
    (begun config surroundings stack)

/-- The whole story of a run. -/
theorem tells_run (valid : config.validate = .ok ()) (apart : surroundings.hook.Apart)
    (faultless : surroundings.hook.Faultless)
    (order : ∀ count ≤ config.workers.toNat, (surroundings.order count).Perm (List.range count))
    (debug : stack.site.journal.AtDebug)
    (returns : Returns (run config surroundings stack).1) :
    ∃ closing,
      Tells stack.site.journal
        ((config.opening :: refusals config surroundings) ++
          ((surroundings.order (enlisted config surroundings)).flatMap
              (fun index => failureEvents index (results config surroundings stack index)) ++
            (List.range (enlisted config surroundings)).filterMap
              (fun index => joinEvent index (results config surroundings stack index)) ++
            closing))
        (run config surroundings stack).2.stack.site.journal ∧
      Closes ((List.range (enlisted config surroundings)).filterMap fun index =>
          (results config surroundings stack index).toOption)
        (run config surroundings stack).1 closing := by
  have hopened : Tells stack.site.journal [config.opening]
      (opened config stack).stack.site.journal := tells_own debug config.opening rfl rfl
  have hcount := spawned_le surroundings.refusal config.workers.toNat 0
  rw [Nat.zero_add] at hcount
  rw [run_of_valid valid] at returns ⊢
  -- A pool without room for the handles of its workers does not come back.
  by_cases room : (!hasRoomForHandles config.workers) = true
  · rw [if_pos room] at returns
    obtain ⟨fault, ⟨⟩⟩ := returns _ rfl
  rw [if_neg room] at returns ⊢
  by_cases memory : surroundings.lacks (handlesSize config.workers) = true
  · rw [if_pos memory] at returns
    obtain ⟨fault, ⟨⟩⟩ := returns _ rfl
  rw [if_neg memory] at returns ⊢
  unfold results begun refusals enlisted
  generalize spawned surroundings.refusal config.workers.toNat 0 = granted
    at hcount returns ⊢
  obtain ⟨count, _ | error⟩ := granted
  · obtain ⟨closing, htold, hcloses⟩ := tells_finish apart (order count hcount) none
      (hopened.atDebug debug) returns
    exact ⟨closing, hopened.append htold, hcloses⟩
  · obtain ⟨hnoted, hback⟩ :=
      tells_reportRefusal apart faultless (hopened.atDebug debug) count error
    rcases hreport : reportRefusal surroundings.hook count error (opened config stack)
      with ⟨stop | fault, between⟩
    all_goals
      simp only [hreport] at returns hnoted hback ⊢
    · obtain ⟨fault, ⟨⟩⟩ := hback returns.of_error
    · have hbefore := hopened.append hnoted
      obtain ⟨closing, htold, hcloses⟩ := tells_finish apart (order count hcount) (some fault)
        (hbefore.atDebug debug) returns
      exact ⟨closing, hbefore.append htold, hcloses⟩

end Run

section Threads

variable {thread other : Thread} {first rest said : List Log.Event}

theorem on_append (thread : Thread) (first rest : List Log.Event) :
    on thread (first ++ rest) = on thread first ++ on thread rest :=
  List.filter_append ..

theorem on_self (h : ∀ event ∈ said, event.thread = thread) : on thread said = said :=
  List.filter_eq_self.2 fun event hevent => decide_eq_true (h event hevent)

theorem on_other (h : ∀ event ∈ said, event.thread = other) (ne : other ≠ thread) :
    on thread said = [] := by
  refine List.filter_eq_nil_iff.2 fun event hevent => ?_
  rw [h event hevent]
  simpa using ne

theorem thread_failureEvents (index : Nat) (result : Except Stop UInt64) :
    ∀ event ∈ failureEvents index result, event.thread = .worker index.toUInt64 := by
  unfold failureEvents
  split
  · exact List.forall_mem_singleton.2 rfl
  · exact List.forall_mem_nil _

/-- On the main thread, no worker is heard. -/
theorem on_main_failureEvents (order : List Nat) (results : Nat → Except Stop UInt64) :
    on .main (order.flatMap fun index => failureEvents index (results index)) = [] := by
  unfold on
  rw [List.filter_flatMap, List.flatMap_eq_nil_iff]
  exact fun index _ => on_other (thread_failureEvents index (results index)) nofun

/-- On the thread of a worker that worked once, its own failure is heard, and no other. -/
theorem on_worker_failureEvents {order : List Nat} (once : order.Nodup)
    (small : ∀ index ∈ order, index < UInt64.size) (results : Nat → Except Stop UInt64)
    {index : Nat} (h : index ∈ order) :
    on (.worker index.toUInt64) (order.flatMap fun index => failureEvents index (results index)) =
      failureEvents index (results index) := by
  have hothers {other : Nat} (hother : other ∈ order) (ne : other ≠ index) :
      on (.worker index.toUInt64) (failureEvents other (results other)) = [] := by
    refine on_other (thread_failureEvents other (results other)) fun heq => ne ?_
    have hnumbers := congrArg UInt64.toNat (Thread.worker.inj heq)
    rwa [Nat.toUInt64_eq, Nat.toUInt64_eq, UInt64.toNat_ofNat_of_lt' (small other hother),
      UInt64.toNat_ofNat_of_lt' (small index h)] at hnumbers
  obtain ⟨front, rest, rfl⟩ := List.mem_iff_append.1 h
  rw [List.nodup_middle, List.nodup_cons, List.mem_append, not_or] at once
  obtain ⟨⟨hfront, hrest⟩, -⟩ := once
  have hnone {part : List Nat} (absent : index ∉ part)
      (within : ∀ other ∈ part, other ∈ front ++ index :: rest) :
      on (.worker index.toUInt64) (part.flatMap fun index => failureEvents index (results index)) =
        [] := by
    unfold on
    rw [List.filter_flatMap, List.flatMap_eq_nil_iff]
    exact fun other hother => hothers (within other hother) fun heq => absent (heq ▸ hother)
  rw [List.flatMap_append, List.flatMap_cons, on_append, on_append,
    hnone hfront fun _ h => List.mem_append_left _ h,
    hnone hrest fun _ h => List.mem_append_right _ (List.mem_cons_of_mem _ h),
    on_self (thread_failureEvents index (results index)), List.nil_append, List.append_nil]

theorem thread_refusals (config : Config) (surroundings : Surroundings) :
    ∀ event ∈ refusals config surroundings, event.thread = .main := by
  intro event hevent
  obtain ⟨error, -, rfl⟩ := List.mem_map.1 hevent
  rfl

theorem thread_joinEvents (indices : List Nat) (results : Nat → Except Stop UInt64) :
    ∀ event ∈ indices.filterMap fun index => joinEvent index (results index),
      event.thread = .main := by
  intro event hevent
  obtain ⟨index, -, hjoinEvent⟩ := List.mem_filterMap.1 hevent
  obtain ⟨cycles, -, rfl⟩ := Option.map_eq_some_iff.1 hjoinEvent
  rfl

theorem thread_closing {done : List UInt64} {result : Except Stop Summary}
    (closes : Closes done result said) : ∀ event ∈ said, event.thread = .main := by
  cases closes with
  | finished sums => exact List.forall_mem_singleton.2 rfl
  | failed fault => exact List.forall_mem_nil _

end Threads

/-- What a run says of itself, thread by thread.  The main thread says that it begins, which
thread it was refused, which workers completed and with how many cycles, and how it ends; each
worker says whether it failed. -/
structure Reports (config : Config) (surroundings : Surroundings) (stack : Stack)
    (ended : Except Stop Summary × Pool) (said closing : List Log.Event) : Prop where
  writes : stack.site.journal.Writes said ended.2.stack.site.journal
  calling : on .main (fromPool said) =
    config.opening :: refusals config surroundings ++
      (List.range (enlisted config surroundings)).filterMap
        (fun index => joinEvent index (results config surroundings stack index)) ++ closing
  working : ∀ index < enlisted config surroundings,
    on (.worker index.toUInt64) (fromPool said) =
      failureEvents index (results config surroundings stack index)
  closes : Closes ((List.range (enlisted config surroundings)).filterMap fun index =>
    (results config surroundings stack index).toOption) ended.1 closing

theorem exists_reports {config : Config} {surroundings : Surroundings} {stack : Stack}
    (valid : config.validate = .ok ()) (apart : surroundings.hook.Apart)
    (faultless : surroundings.hook.Faultless)
    (order : ∀ count ≤ config.workers.toNat, (surroundings.order count).Perm (List.range count))
    (debug : stack.site.journal.AtDebug)
    (returns : Returns (run config surroundings stack).1) :
    ∃ said closing,
      Reports config surroundings stack (run config surroundings stack) said closing := by
  obtain ⟨closing, ⟨said, hwrites, hfromPool⟩, hcloses⟩ :=
    tells_run valid apart faultless order debug returns
  have hcount : enlisted config surroundings ≤ config.workers.toNat := by
    have hle := spawned_le surroundings.refusal config.workers.toNat 0
    rwa [Nat.zero_add] at hle
  have hperm := order _ hcount
  have hbefore : ∀ event ∈ config.opening :: refusals config surroundings,
      event.thread = .main :=
    List.forall_mem_cons.2 ⟨rfl, thread_refusals config surroundings⟩
  have hjoinEvents := thread_joinEvents (List.range (enlisted config surroundings))
    (results config surroundings stack)
  refine ⟨said, closing, hwrites, ?_, ?_, hcloses⟩
  · rw [hfromPool, on_append, on_append, on_append, on_main_failureEvents, on_self hbefore,
      on_self hjoinEvents, on_self (thread_closing hcloses), List.nil_append, ← List.append_assoc]
  · intro index hindex
    have small : ∀ index ∈ surroundings.order (enlisted config surroundings),
        index < UInt64.size := by
      intro index hmem
      have hlt := List.mem_range.1 (hperm.mem_iff.1 hmem)
      exact (hlt.trans_le hcount).trans config.workers.toNat_lt
    have hother : Thread.main ≠ .worker index.toUInt64 := nofun
    rw [hfromPool, on_append, on_append, on_append, on_other hbefore hother,
      on_other hjoinEvents hother, on_other (thread_closing hcloses) hother,
      on_worker_failureEvents (hperm.nodup_iff.2 List.nodup_range) small _
        (hperm.mem_iff.2 (List.mem_range.2 hindex)),
      List.nil_append, List.append_nil, List.append_nil]

end Workers

/-- The log tells what the result tells.  A journal at the level of debugging has nothing of the
allocator in it, and a run that is accepted and comes back has told in it, whatever it met:
if it is sequential, its iterations one by one and its end, if a fault did not end it; if it
is a pool, who completed, who failed and how it ends, each on its own thread; and if it grows a
block, its rounds one by one.

Of the hook of a pool it is asked that it does not speak for the pool, and has no fault of its
own to return. -/
theorem log_tells_the_result {stack : Stack} (debug : stack.site.journal.AtDebug) :
    (∀ config pauses sink, Sequential.Config.validate config = .ok () →
      Returns (Sequential.run config pauses stack sink).1 →
      ∃ iterations last closing, Sequential.Reports config stack sink
        (Sequential.run config pauses stack sink) iterations last closing) ∧
    (∀ config surroundings, Workers.Config.validate config = .ok () →
      surroundings.hook.Apart → surroundings.hook.Faultless →
      (∀ count ≤ config.workers.toNat, (surroundings.order count).Perm (List.range count)) →
      Returns (Workers.run config surroundings stack).1 →
      ∃ said closing, Workers.Reports config surroundings stack
        (Workers.run config surroundings stack) said closing) ∧
    ∀ config, Growth.Config.validate config = .ok () → Returns (Growth.run config stack).1 →
      Growth.Reports (config.roundSizes?.getD []) config.rounds.toNat
        (fun completed => config.opening :: Growth.releases 0 completed) stack
        (Growth.run config stack).2 (Growth.run config stack).1 := by
  refine ⟨?_, ?_, ?_⟩
  · intro config pauses sink valid returns
    exact Sequential.exists_reports valid pauses debug sink returns
  · intro config surroundings valid apart faultless order returns
    exact Workers.exists_reports valid apart faultless order debug returns
  · intro config valid returns
    exact Growth.reports_run valid debug returns

/-- An allocator on the heap of the system, with a log at the level of debugging.  It refuses the
fifth request of the main thread and the second one of a worker, and panics over the first one of
another worker. -/
def Stack.troubledAtDebug : Stack :=
  ⟨.gate (.ofRefusals ⟨some ["main"], none, [], [5], none, none, none⟩ false false) ::
      Workers.troubled.layers,
    .fresh .system (.start (.upTo .debug))⟩

/-- The hook panics, and workers come to their ends from the last one to the first. -/
def Workers.Surroundings.raising : Surroundings :=
  { Surroundings.reversed with hook := .raising .failFast }

/-- A run is interrupted after two iterations; a pool of three workers loses one to a panic of
the hook and one to a panic of its own; and a run that grows blocks is broken off in its second
round. -/
theorem three_logs_tell_their_results :
    Stack.troubledAtDebug.site.journal.AtDebug ∧
      (Sequential.run ⟨16, ⟨0, 0⟩, none⟩ (.once 2 .interrupt) .troubledAtDebug .endless).1 =
        .ok ⟨2, .stopRequest⟩ ∧
      (Workers.run .three .raising .troubledAtDebug).1 = .error (.fault (.workerPanicked 1)) ∧
      (Growth.run ⟨2, 8, 32⟩ .troubledAtDebug).1 = .error (.fault (.allocationFailed 16)) ∧
      (∃ iterations last closing, Sequential.Reports ⟨16, ⟨0, 0⟩, none⟩ .troubledAtDebug .endless
        (Sequential.run ⟨16, ⟨0, 0⟩, none⟩ (.once 2 .interrupt) .troubledAtDebug .endless)
        iterations last closing) ∧
      (∃ said closing, Workers.Reports .three .raising .troubledAtDebug
        (Workers.run .three .raising .troubledAtDebug) said closing) ∧
      Growth.Reports [8, 16, 32] 2
        (fun completed => Growth.Config.opening ⟨2, 8, 32⟩ :: Growth.releases 0 completed)
        .troubledAtDebug (Growth.run ⟨2, 8, 32⟩ .troubledAtDebug).2
        (Growth.run ⟨2, 8, 32⟩ .troubledAtDebug).1 := by
  have hsequential :
      (Sequential.run ⟨16, ⟨0, 0⟩, none⟩ (.once 2 .interrupt) .troubledAtDebug .endless).1 =
        .ok ⟨2, .stopRequest⟩ := by cbv
  have hpool : (Workers.run .three .raising .troubledAtDebug).1 =
      .error (.fault (.workerPanicked 1)) := by decide
  have hgrowth : (Growth.run ⟨2, 8, 32⟩ .troubledAtDebug).1 =
      .error (.fault (.allocationFailed 16)) := by decide
  have debug : Stack.troubledAtDebug.site.journal.AtDebug := rfl
  obtain ⟨sequential, pool, growth⟩ := log_tells_the_result debug
  refine ⟨debug, hsequential, hpool, hgrowth, ?_, ?_, ?_⟩
  · refine sequential _ _ _ (by decide) ?_
    rw [hsequential]
    exact .ok _
  · refine pool _ _ (by decide) (Workers.Hook.apart_raising .failFast)
      (Workers.Hook.faultless_raising .failFast) (fun count _ => List.reverse_perm _) ?_
    rw [hpool]
    exact .fault _
  · refine growth ⟨2, 8, 32⟩ (by decide) ?_
    rw [hgrowth]
    exact .fault _

/-- The failure of the worker is in the log although the hook panics, and stands before what the
hook says.  The panic of the other worker is not. -/
example :
    (Workers.run .three .raising .troubledAtDebug).2.stack.site.journal.events.map
        (fun event => (event.thread, event.message)) =
      [(.main, "threaded fixture started"), (.worker 1, "worker failed"),
        (.worker 1, "fixture failed"), (.main, "worker joined")] := by decide

end HeapFixtures
