/-
# A pool that goes down

The programs give the pool a hook that takes the process down.  As long as no worker meets a
resource fault and no thread is refused, the hook is not asked, nothing is printed, and all
blocks are back whenever a worker has come to its end.  The first resource fault ends the run
at once, with the last words that the policy has for it and the exit that goes with them.
-/

import HeapFixtures.Execution
import HeapFixtures.Proofs.Settling
import HeapFixtures.Proofs.Texts

namespace HeapFixtures

namespace Policy

/-- The line in which a process says what it died of. -/
def fatalLine (fault : Fault) : String :=
  let message := fault.message
  s!"fatal: {message}"

/-- What a process prints when a fault takes it down: nothing if it aborts. -/
def lastWords (policy : Policy) (fault : Fault) : List String :=
  if policy.abortsOn fault then [] else [fatalLine fault]

@[simp]
theorem exit_handle (policy : Policy) (thread : Thread) (fault : Fault)
    (journal : Log.Journal) : (policy.handle thread fault journal).1 = policy.exit fault := by
  unfold handle
  dsimp only
  split <;> rfl

@[simp]
theorem texts_handle (policy : Policy) (thread : Thread) (fault : Fault)
    (journal : Log.Journal) :
    (policy.handle thread fault journal).2.texts = journal.texts ++ policy.lastWords fault := by
  unfold handle lastWords
  dsimp only
  split
  · rw [Log.Journal.texts_emit, List.append_nil]
  · rw [Log.Journal.texts_print, Log.Journal.texts_emit]
    rfl

/-- The exit of a process that has come to nothing, or to a fault. -/
def exitAfter (policy : Policy) : Option Fault → Exit
  | none => .code 0
  | some fault => policy.exit fault

/-- The last words of a process that has come to nothing, or to a fault. -/
def wordsAfter (policy : Policy) : Option Fault → List String
  | none => []
  | some fault => policy.lastWords fault

end Policy

/-- The line of counters, if it is asked for. -/
def Counters.tally (asked : Bool) (counters : Counters) : List String :=
  if asked then [counters.render] else []

theorem Execution.counted_of_layers {stack : Stack} {counters : Counters}
    (h : stack.layers = [.counting counters]) : counted stack = counters := by
  unfold counted Stack.counters
  rw [h]
  rfl

/-- An allocator of one counting layer, all of whose blocks have been given back. -/
def Stack.Idle (stack : Stack) : Prop :=
  ∃ counters, stack.layers = [.counting counters] ∧ counters.isBalanced = true

namespace Stack.Idle

variable {stack : Stack}

theorem emit (idle : stack.Idle) (thread : Thread) (level : Log.Level) (origin : Log.Origin)
    (message : String) (fields : List (String × Log.Value)) :
    (stack.emit thread level origin message fields).Idle := idle

/-- The counters that such an allocator shows. -/
theorem isBalanced (idle : stack.Idle) : (Execution.counted stack).isBalanced = true := by
  obtain ⟨counters, hlayers, balanced⟩ := idle
  rw [Execution.counted_of_layers hlayers]
  exact balanced

/-- A block that comes and goes leaves such an allocator as it was; there is a word for one
live block, so nothing but the heap can refuse it. -/
theorem pair (idle : stack.Idle) (thread : Thread) (size : UInt64) :
    (stack.pair thread size).2.Idle ∧ Returns (stack.pair thread size).1 := by
  obtain ⟨layers, site⟩ := stack
  obtain ⟨counters, rfl, balanced⟩ := idle
  obtain ⟨hequal, hlive⟩ : counters.allocations = counters.releases ∧ counters.live = 0 := by
    simpa [Counters.isBalanced] using balanced
  have hroom : Word.add? counters.live 1 = some 1 := by
    rw [hlive]
    rfl
  simp only [Stack.pair, Stack.allocate, Stack.allocateThrough]
  rcases site.allocate thread size with ⟨fault | block, after⟩
  · exact ⟨⟨counters, rfl, balanced⟩, .fault fault⟩
  · simp only [Counters.recordAllocation, hroom]
    refine ⟨⟨_, rfl, ?_⟩, .ok ()⟩
    simp [Counters.isBalanced, Counters.recordRelease, Counters.countRelease, Counters.countGone,
      Counters.countPeak, Counters.countLive, Counters.countBytes, Counters.countAllocation,
      hequal, hlive]

theorem cycles (idle : stack.Idle) (thread : Thread) (size : UInt64) (left : Nat) :
    (Workers.cycles thread size left stack).2.Idle ∧
      Returns (Workers.cycles thread size left stack).1 := by
  induction left generalizing stack with
  | zero => exact ⟨idle, .ok ()⟩
  | succ left ih =>
      have hpair := idle.pair thread size
      unfold Workers.cycles
      generalize stack.pair thread size = called at hpair ⊢
      obtain ⟨stop | _, after⟩ := called
      · exact hpair
      · exact ih hpair.1

/-- A worker comes back with all its blocks given back. -/
theorem runWorker (idle : stack.Idle) (thread : Thread) (index count size : UInt64) :
    (Workers.runWorker thread index count size stack).2.Idle ∧
      Returns (Workers.runWorker thread index count size stack).1 := by
  have hcycles := (idle.emit thread .trace .workers "worker started"
    [("index", .word index), ("cycles", .word count)]).cycles thread size count.toNat
  unfold Workers.runWorker
  dsimp only
  generalize Workers.cycles thread size count.toNat _ = called at hcycles ⊢
  obtain ⟨stop | _, after⟩ := called
  · exact ⟨hcycles.1, hcycles.2.of_error⟩
  · exact ⟨hcycles.1, .ok count⟩

end Stack.Idle

namespace Workers

/-- The hook that takes the process down by a policy. -/
def Hook.ofPolicy (policy : Policy) : Hook := fun thread fault journal =>
  let (exit, journal) := policy.handle thread fault journal
  (some (.exit exit), journal)

/-- The texts printed so far. -/
def Pool.texts (pool : Pool) : List String := pool.stack.texts

/-- The pool has gone on: nothing was printed, the hook was not asked, and all blocks are
back. -/
structure Unharmed (before after : Pool) : Prop where
  idle : after.stack.Idle
  texts : after.texts = before.texts
  shown : after.shown = before.shown

/-- The process was taken down over a resource fault that was shown to the hook. -/
structure Felled (policy : Policy) (before : Pool) (fault : Fault) (after : Pool) : Prop where
  isResource : fault.isResource = true
  shown : ∃ thread, after.shown = before.shown.push (thread, fault)
  texts : after.texts = before.texts ++ policy.lastWords fault

/-- A worker's outcome that does not concern the hook: the number of its cycles, or a fault
that is not a resource fault. -/
def Ordinary {α : Type} (outcome : Except Stop α) : Prop :=
  ∀ stop, outcome = .error stop → ∃ fault, stop = .fault fault ∧ fault.isResource = false

/-- How a pool ends whose hook takes the process down. -/
inductive Ends (policy : Policy) (before : Pool) : Except Stop Summary → Pool → Prop
  | completed {after : Pool} (summary : Summary) (unharmed : Unharmed before after) :
      Ends policy before (.ok summary) after
  | failed {after : Pool} {fault : Fault} (ordinary : fault.isResource = false)
      (unharmed : Unharmed before after) : Ends policy before (.error (.fault fault)) after
  | panicked {after : Pool} (panic : Panic) (unharmed : Unharmed before after) :
      Ends policy before (.error (.panic panic)) after
  | felled {after : Pool} {fault : Fault} (felled : Felled policy before fault after) :
      Ends policy before (.error (.exit (policy.exit fault))) after
  /-- There was no memory for the handles of the threads. -/
  | gaveUp {after : Pool} (shown : after.shown = before.shown) :
      Ends policy before (.error (.exit (.signal .abort))) after

section Unharmed

variable {policy : Policy} {before between after pool : Pool} {fault : Fault}
  {result : Except Stop Summary}

theorem Unharmed.refl (idle : pool.stack.Idle) : Unharmed pool pool := ⟨idle, rfl, rfl⟩

theorem Unharmed.trans (h : Unharmed before between) (h' : Unharmed between after) :
    Unharmed before after :=
  ⟨h'.idle, h'.texts.trans h.texts, h'.shown.trans h.shown⟩

theorem Unharmed.emit (idle : pool.stack.Idle) (thread : Thread) (level : Log.Level)
    (message : String) (fields : List (String × Log.Value)) :
    Unharmed pool (pool.emit thread level message fields) :=
  ⟨idle, Stack.texts_emit .., rfl⟩

theorem Unharmed.felled (h : Unharmed before between) (h' : Felled policy between fault after) :
    Felled policy before fault after := by
  obtain ⟨thread, hshown⟩ := h'.shown
  exact ⟨h'.isResource, ⟨thread, h.shown ▸ hshown⟩, h.texts ▸ h'.texts⟩

theorem Unharmed.ends (h : Unharmed before between) (h' : Ends policy between result after) :
    Ends policy before result after := by
  cases h' with
  | completed summary unharmed => exact .completed summary (h.trans unharmed)
  | failed ordinary unharmed => exact .failed ordinary (h.trans unharmed)
  | panicked panic unharmed => exact .panicked panic (h.trans unharmed)
  | felled felled => exact .felled (h.felled felled)
  | gaveUp shown => exact .gaveUp (shown.trans h.shown)

/-- The hook takes the process down over what it is shown. -/
theorem present_ofPolicy (policy : Policy) (pool : Pool) (thread : Thread)
    (isResource : fault.isResource = true) :
    ∃ after, pool.present (.ofPolicy policy) thread fault =
        (some (.exit (policy.exit fault)), after) ∧ Felled policy pool fault after := by
  refine ⟨(pool.present (.ofPolicy policy) thread fault).2, ?_, isResource, ⟨thread, rfl⟩, ?_⟩
  · exact Prod.ext (congrArg (fun exit => some (Stop.exit exit)) (policy.exit_handle ..)) rfl
  · exact policy.texts_handle thread fault pool.stack.site.journal

end Unharmed

section Work

variable {policy : Policy} {config : Config}

/-- One worker comes to its end, or brings the process down. -/
theorem work_cases (policy : Policy) (config : Config) {pool : Pool} (idle : pool.stack.Idle)
    (index : UInt64) :
    (Ordinary (pool.work config (.ofPolicy policy) index).1 ∧
        Unharmed pool (pool.work config (.ofPolicy policy) index).2) ∨
      ∃ fault, (pool.work config (.ofPolicy policy) index).1 =
          .error (.exit (policy.exit fault)) ∧
        Felled policy pool fault (pool.work config (.ofPolicy policy) index).2 := by
  obtain ⟨hidle, returns⟩ :=
    idle.runWorker (.worker index) index config.cycles config.blockSize
  have htexts :=
    texts_runWorker (.worker index) index config.cycles config.blockSize pool.stack
  unfold Pool.work
  dsimp only
  generalize runWorker (.worker index) index config.cycles config.blockSize pool.stack = called
    at hidle returns htexts ⊢
  obtain ⟨stop | count, stack⟩ := called
  · obtain ⟨fault, rfl⟩ := returns stop rfl
    have hworked : Unharmed pool { pool with stack := stack } := ⟨hidle, htexts, rfl⟩
    have hnoted := hworked.trans (.emit hidle (.worker index) .error "worker failed"
      [("index", .word index), ("error", .shown fault.message)])
    dsimp only
    split
    · rename_i isResource
      obtain ⟨after, hpresent, felled⟩ :=
        present_ofPolicy policy _ (.worker index) isResource
      rw [hpresent]
      exact .inr ⟨fault, rfl, hnoted.felled felled⟩
    · rename_i ordinary
      refine .inl ⟨?_, hnoted⟩
      intro stop hstop
      exact ⟨fault, (Except.error.inj hstop).symm, Bool.eq_false_iff.2 ordinary⟩
  · refine .inl ⟨?_, hidle, htexts, rfl⟩
    intro stop hstop
    cases hstop

/-- Every worker comes to its end, or one of them brings the process down. -/
theorem workAll_cases (policy : Policy) (config : Config) (order : List Nat)
    {outcomes : Pool.Outcomes} (ordinary : ∀ entry ∈ outcomes, Ordinary entry.2) {pool : Pool}
    (idle : pool.stack.Idle) :
    (∃ collected, (Pool.workAll config (.ofPolicy policy) order outcomes pool).1 =
          .ok collected ∧ (∀ entry ∈ collected, Ordinary entry.2) ∧
        Unharmed pool (Pool.workAll config (.ofPolicy policy) order outcomes pool).2) ∨
      ∃ fault, (Pool.workAll config (.ofPolicy policy) order outcomes pool).1 =
          .error (policy.exit fault) ∧
        Felled policy pool fault
          (Pool.workAll config (.ofPolicy policy) order outcomes pool).2 := by
  induction order generalizing outcomes pool with
  | nil => exact .inl ⟨outcomes, rfl, ordinary, .refl idle⟩
  | cons index rest ih =>
      have hwork := work_cases policy config idle index.toUInt64
      unfold Pool.workAll
      generalize pool.work config (.ofPolicy policy) index.toUInt64 = called at hwork ⊢
      obtain ⟨outcome, between⟩ := called
      obtain ⟨hordinary, unharmed⟩ | ⟨fault, rfl, felled⟩ := hwork
      · have hrest := @ih ((index, outcome) :: outcomes)
          (List.forall_mem_cons.2 ⟨hordinary, ordinary⟩) between unharmed.idle
        -- The outcome is no end of the process, so the others work.
        obtain stop | count := outcome
        · obtain ⟨fault, rfl, -⟩ := hordinary stop rfl
          obtain ⟨collected, hok, hcollected, hafter⟩ | ⟨fault, herror, felled⟩ := hrest
          · exact .inl ⟨collected, hok, hcollected, unharmed.trans hafter⟩
          · exact .inr ⟨fault, herror, unharmed.felled felled⟩
        · obtain ⟨collected, hok, hcollected, hafter⟩ | ⟨fault, herror, felled⟩ := hrest
          · exact .inl ⟨collected, hok, hcollected, unharmed.trans hafter⟩
          · exact .inr ⟨fault, herror, unharmed.felled felled⟩
      · exact .inr ⟨fault, rfl, felled⟩

/-- An ordinary outcome is no resource fault for the pool either. -/
theorem failure?_of_ordinary {outcome : Except Stop UInt64} (ordinary : Ordinary outcome)
    {index : Nat} {fault : Fault} (h : Pool.failure? index outcome = some fault) :
    fault.isResource = false := by
  obtain stop | count := outcome
  · obtain ⟨other, rfl, hother⟩ := ordinary stop rfl
    obtain rfl := Option.some.inj h
    exact hother
  · cases h

/-- The pool waits for its workers without harm, and what it finds is no resource fault. -/
theorem join_unharmed {outcomes : Pool.Outcomes} (ordinary : ∀ entry ∈ outcomes, Ordinary entry.2)
    (indices : List Nat) {first : Option Fault}
    (hfirst : ∀ fault ∈ first, fault.isResource = false) (done : List UInt64) {pool : Pool}
    (idle : pool.stack.Idle) :
    (∀ fault ∈ (Pool.join outcomes indices first done pool).1.1, fault.isResource = false) ∧
      Unharmed pool (Pool.join outcomes indices first done pool).2 := by
  induction indices generalizing first done pool with
  | nil => exact ⟨hfirst, .refl idle⟩
  | cons index rest ih =>
      unfold Pool.join
      rcases hlookup : outcomes.lookup index with _ | (stop | count)
      · exact ih hfirst done idle
      · refine ih ?_ done idle
        intro fault hfault
        rcases Option.or_eq_some_iff.1 hfault with hsame | ⟨-, hfailure⟩
        · exact hfirst fault hsame
        · obtain ⟨_, _, hentry, -⟩ := List.lookup_eq_some_iff.1 hlookup
          refine failure?_of_ordinary (ordinary (index, .error stop) ?_) hfailure
          rw [hentry]
          exact List.mem_append_right _ List.mem_cons_self
      · have hemit : Unharmed pool (pool.emit .main .debug "worker joined"
            [("index", .word index.toUInt64), ("cycles", .word count)]) := .emit idle ..
        obtain ⟨hfault, hafter⟩ := ih hfirst (count :: done) hemit.idle
        exact ⟨hfault, hemit.trans hafter⟩

/-- The cycles are the answer, or their total is no word; the total is an event at most. -/
theorem conclude_cases (cycles : List UInt64) (pool : Pool) :
    (∃ after, conclude cycles pool = (.ok ⟨cycles⟩, after) ∧ after.texts = pool.texts ∧
        after.stack.layers = pool.stack.layers ∧ after.shown = pool.shown) ∨
      ∃ panic, conclude cycles pool = (.error (.panic panic), pool) := by
  unfold conclude
  dsimp only
  split
  · split
    · exact .inr ⟨_, rfl⟩
    · exact .inl ⟨_, rfl, Stack.texts_emit .., rfl, rfl⟩
  · exact .inl ⟨_, rfl, rfl, rfl, rfl⟩

theorem ends_conclude (policy : Policy) (cycles : List UInt64) {pool : Pool}
    (idle : pool.stack.Idle) :
    Ends policy pool (conclude cycles pool).1 (conclude cycles pool).2 := by
  obtain ⟨after, hconclude, htexts, hlayers, hshown⟩ | ⟨panic, hconclude⟩ :=
    conclude_cases cycles pool
  · rw [hconclude]
    refine .completed _ ⟨?_, htexts, hshown⟩
    unfold Stack.Idle
    rw [hlayers]
    exact idle
  · rw [hconclude]
    exact .panicked _ (.refl idle)

theorem ends_finish (config : Config) {surroundings : Surroundings}
    (hook : surroundings.hook = .ofPolicy policy) (count : Nat) {pool : Pool}
    (idle : pool.stack.Idle) :
    Ends policy pool (finish config surroundings count none pool).1
      (finish config surroundings count none pool).2 := by
  have hwork := workAll_cases policy config (surroundings.order count) (List.forall_mem_nil _) idle
  unfold finish
  rw [hook]
  generalize Pool.workAll config (.ofPolicy policy) (surroundings.order count) [] pool = called
    at hwork ⊢
  obtain ⟨result, worked⟩ := called
  obtain ⟨outcomes, rfl, ordinary, unharmed⟩ | ⟨fault, rfl, felled⟩ := hwork
  · have hnone : ∀ fault ∈ (none : Option Fault), fault.isResource = false := by simp
    have hjoin := join_unharmed ordinary (List.range count) hnone [] unharmed.idle
    dsimp only
    generalize Pool.join outcomes (List.range count) none [] worked = joined at hjoin ⊢
    obtain ⟨⟨_ | fault, cycles⟩, joined⟩ := joined
    · exact (unharmed.trans hjoin.2).ends (ends_conclude policy cycles hjoin.2.idle)
    · exact .failed (hjoin.1 fault rfl) (unharmed.trans hjoin.2)
  · exact .felled felled

/-- How a run of the pool ends whose hook takes the process down. -/
theorem ends_run (config : Config) {surroundings : Surroundings}
    (hook : surroundings.hook = .ofPolicy policy) {stack : Stack} (idle : stack.Idle) :
    Ends policy ⟨stack, #[]⟩ (run config surroundings stack).1
      (run config surroundings stack).2 := by
  have hnoresource : ∀ fault, config.validate = .error fault → fault.isResource = false := by
    intro fault hfault
    unfold Config.validate at hfault
    split at hfault
    · cases hfault; rfl
    · split at hfault
      · cases hfault; rfl
      · split at hfault
        · cases hfault; rfl
        · cases hfault
  unfold run
  dsimp only
  cases hvalid : config.validate with
  | error fault => exact .failed (hnoresource fault hvalid) (.refl idle)
  | ok _ =>
      dsimp only
      have hopened : Unharmed ⟨stack, #[]⟩ (Pool.emit ⟨stack, #[]⟩ .main .info
          "threaded fixture started" [("workers", .word config.workers),
            ("cycles", .word config.cycles), ("block_size", .word config.blockSize)]) :=
        .emit idle ..
      split
      · exact .panicked _ hopened
      · split
        · exact .gaveUp rfl
        · rcases spawned surroundings.refusal config.workers.toNat 0 with ⟨count, _ | error⟩
          · exact hopened.ends (ends_finish config hook count hopened.idle)
          · have hnoted := hopened.trans (.emit hopened.idle .main .error "failed to spawn worker"
              [("index", .word count.toUInt64), ("error", .shown error.message)])
            have isResource : (Fault.threadCreateFailed count.toUInt64 error).isResource = true :=
              rfl
            obtain ⟨after, hpresent, felled⟩ := present_ofPolicy policy
              (Pool.emit _ .main .error "failed to spawn worker"
                [("index", .word count.toUInt64), ("error", .shown error.message)]) .main
              isResource
            simp only [reportRefusal]
            rw [hook, hpresent]
            exact .felled (hnoted.felled felled)

end Work

end Workers
end HeapFixtures
