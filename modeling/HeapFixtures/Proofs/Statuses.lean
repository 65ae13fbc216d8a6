/-
# What an exit status tells

Every way for a process to end, with the exit that belongs to it.  A run ends its process
itself by a signal only, or by the hook of the pool; so of the statuses of a process two is
left to a failed allocation and to a wrong command line, which is never run, three to a thread
that is refused, and four to a worker that panics.  A process that sees only the status cannot
tell a wrong command line from a failed allocation.
-/

import HeapFixtures.Proofs.Conclusion

namespace HeapFixtures

open Execution

/-- If the process is ended from within, then by a signal. -/
def SignalsOnly {α : Type} (result : Except Stop α) : Prop :=
  ∀ exit, result = .error (.exit exit) → ∃ signal, exit = .signal signal

namespace SignalsOnly

variable {α β : Type}

theorem ok (value : α) : SignalsOnly (.ok value : Except Stop α) := by
  simp [SignalsOnly]

theorem fault (fault : Fault) : SignalsOnly (.error (.fault fault) : Except Stop α) := by
  simp [SignalsOnly]

theorem panic (panic : Panic) : SignalsOnly (.error (.panic panic) : Except Stop α) := by
  simp [SignalsOnly]

/-- What stops a part of a run stops the whole. -/
theorem of_eq {result : Except Stop α} {stop : Stop} (h : SignalsOnly result)
    (hresult : result = .error stop) : SignalsOnly (.error stop : Except Stop β) := by
  subst hresult
  exact fun exit hexit => h exit (congrArg Except.error (Except.error.inj hexit))

theorem of_call {σ : Type} {called : Except Stop α × σ} {stop : Stop} {after : σ}
    (h : SignalsOnly called.1) (hcall : called = (.error stop, after)) :
    SignalsOnly (.error stop : Except Stop β) :=
  h.of_eq (congrArg Prod.fst hcall)

end SignalsOnly

namespace Stack

theorem signalsOnly_allocate (stack : Stack) (thread : Thread) (size : UInt64) :
    SignalsOnly (stack.allocate thread size).1 := by
  have hallocates := allocates thread size stack.layers stack.site
  unfold allocate
  generalize allocateThrough thread size stack.layers stack.site = called at hallocates ⊢
  obtain ⟨answer, after⟩ := called
  cases hallocates with
  | granted => exact .ok _
  | refused => exact .fault _
  | panicked => exact .panic _

theorem signalsOnly_resize (stack : Stack) (thread : Thread) (block : Block) (size : UInt64) :
    SignalsOnly (stack.resize thread block size).1 := by
  have hresizes := resizes thread block size stack.layers stack.site
  unfold resize
  generalize resizeThrough thread block size stack.layers stack.site = called at hresizes ⊢
  obtain ⟨answer, after⟩ := called
  cases hresizes with
  | granted => exact .ok _
  | refused => exact .fault _
  | panicked => exact .panic _

theorem signalsOnly_pair (stack : Stack) (thread : Thread) (size : UInt64) :
    SignalsOnly (stack.pair thread size).1 := by
  unfold pair
  split
  · exact .ok ()
  · exact (stack.signalsOnly_allocate thread size).of_call ‹_›

end Stack

namespace Growth

theorem signalsOnly_growThrough (thread : Thread) (sizes : List UInt64) (block : Block)
    (stack : Stack) : SignalsOnly (growThrough thread sizes block stack).1 := by
  induction sizes generalizing block stack with
  | nil => exact .ok ()
  | cons size rest ih =>
      unfold growThrough
      split
      · exact ih _ _
      · exact (stack.signalsOnly_resize thread block size).of_call ‹_›

theorem signalsOnly_grow (thread : Thread) (sizes : List UInt64) (stack : Stack) :
    SignalsOnly (grow thread sizes stack).1 := by
  cases sizes with
  | nil => exact .ok ()
  | cons first rest =>
      rw [grow]
      split
      · exact signalsOnly_growThrough thread rest _ _
      · exact (stack.signalsOnly_allocate thread first).of_call ‹_›

theorem signalsOnly_rounds (sizes : List UInt64) (left : Nat) (round requests : UInt64)
    (stack : Stack) : SignalsOnly (rounds sizes left round requests stack).1 := by
  induction left generalizing round requests stack with
  | zero => exact .ok requests
  | succ left ih =>
      unfold rounds
      split
      · exact (signalsOnly_grow .main sizes stack).of_call ‹_›
      · split
        · exact .panic _
        · exact ih _ _ _

theorem signalsOnly_run (config : Config) (stack : Stack) :
    SignalsOnly (run config stack).1 := by
  unfold run
  split
  · exact .fault _
  · exact signalsOnly_rounds _ _ _ _ _

end Growth

theorem Vectors.signalsOnly_run (config : Config) (heap : Heap) (journal : Log.Journal) :
    SignalsOnly (run config heap journal).1 := by
  unfold run
  split
  · exact .fault _
  · dsimp only
    split
    · exact .ok _
    · exact .fault _

namespace Sequential

namespace Session

theorem signalsOnly_withSink (session : Session)
    (action : Sink → Except IoError Unit × Sink) : SignalsOnly (session.withSink action).1 := by
  unfold withSink
  dsimp only
  split
  · exact .ok ()
  · exact .fault _

theorem signalsOnly_step (session : Session) (size : UInt64) :
    SignalsOnly (session.step size).1 := by
  unfold step
  split
  · exact (session.stack.signalsOnly_pair .main size).of_call ‹_›
  · split
    · exact (signalsOnly_withSink _ _).of_call ‹_›
    · split
      · exact (signalsOnly_withSink _ _).of_call ‹_›
      · exact signalsOnly_withSink _ _

/-- A signal that arrives may be the end of the process. -/
theorem signalsOnly_receive (session : Session) (signal : Signal) :
    SignalsOnly (session.receive signal) := by
  unfold receive
  split
  · exact .ok _
  · split
    · exact .ok _
    · intro exit hexit
      exact ⟨signal, (Stop.exit.inj (Except.error.inj hexit)).symm⟩

end Session

/-- A turn that stops the loop ends the process by a signal only. -/
def Turn.SignalsOnly : Turn → Prop
  | .stopped stop _ => HeapFixtures.SignalsOnly (.error stop : Except Stop Unit)
  | _ => True

theorem signalsOnly_afterStep (config : Config) (pauses : Pauses) (session : Session) :
    (afterStep config pauses session).SignalsOnly := by
  unfold afterStep
  split
  · exact .panic _
  · dsimp only
    split
    · trivial
    · split
      · rename_i hpaused
        split at hpaused
        · cases hpaused
        · exact (Session.signalsOnly_receive _ _).of_eq hpaused
      · split <;> trivial

theorem signalsOnly_turn (config : Config) (pauses : Pauses) (session : Session) :
    (turn config pauses session).SignalsOnly := by
  unfold turn
  split
  · trivial
  · split
    · trivial
    · split
      · exact (session.signalsOnly_step config.blockSize).of_call ‹_›
      · exact signalsOnly_afterStep ..

theorem signalsOnly_loop (config : Config) (pauses : Pauses) (room : Nat) (session : Session) :
    HeapFixtures.SignalsOnly (loop config pauses room session).1 := by
  induction room generalizing session with
  | zero => exact .panic _
  | succ room ih =>
      have hturn := signalsOnly_turn config pauses session
      unfold loop
      generalize turn config pauses session = turn at hturn ⊢
      cases turn with
      | again session => exact ih session
      | ended cause session => exact .ok _
      | stopped stop session => exact hturn.of_eq rfl

theorem signalsOnly_run (config : Config) (pauses : Pauses) (stack : Stack) (sink : Sink) :
    HeapFixtures.SignalsOnly (run config pauses stack sink).1 := by
  unfold run
  split
  · exact .fault _
  · exact signalsOnly_loop config pauses _ _

end Sequential

/-- A pool that its hook does not take down is ended by a signal only. -/
theorem Workers.Ends.signalsOnly_or_felled {policy : Policy} {before after : Pool}
    {result : Except Stop Summary} (ends : Ends policy before result after) :
    SignalsOnly result ∨ ∃ fault, Felled policy before fault after := by
  cases ends with
  | completed summary => exact .inl (.ok summary)
  | failed => exact .inl (.fault _)
  | panicked panic => exact .inl (.panic panic)
  | felled felled => exact .inr ⟨_, felled⟩
  | gaveUp =>
      refine .inl fun exit hexit => ⟨.abort, ?_⟩
      exact (Stop.exit.inj (Except.error.inj hexit)).symm

namespace Execution

variable {Tree : Type}

/-- Why a process has the exit that it has. -/
inductive Cause (launch : Launch Tree) : Exit → Prop
  /-- The log could not be set up. -/
  | unlogged {stop : Log.SetupStop} {status : Nat}
      (log : launch.setUp.1 = .error stop)
      (which : status = 1 ∨ status = panicStatus) : Cause launch (.code status)
  /-- The command line is wrong. -/
  | rejected {message : String} (log : launch.setUp.1 = .ok ())
      (line : launch.line = .rejected message) : Cause launch (.code usageStatus)
  /-- The command line asks for a text. -/
  | informed {text : String} (log : launch.setUp.1 = .ok ())
      (line : launch.line = .informs text) : Cause launch (.code 0)
  /-- The run has come to nothing, or to a fault. -/
  | came {values : Command.Values} {fault? : Option Fault} (starts : Starts launch values)
      (comes : ComesTo launch values (opening launch) fault?) :
      Cause launch (values.policy.exitAfter fault?)
  /-- The signals could not be routed. -/
  | unrouted {values : Command.Values} {reason : String} {journal : Log.Journal}
      (starts : Starts launch values) (program : launch.program = .forever)
      (unrouted : routed launch (opening launch) = (.error (.signalHandler reason), journal)) :
      Cause launch (.code 1)
  | panicked {values : Command.Values} (starts : Starts launch values) :
      Cause launch (.code panicStatus)
  | signalled {values : Command.Values} (starts : Starts launch values) (signal : Signal) :
      Cause launch (.signal signal)

section Cause

variable {launch : Launch Tree} {values : Command.Values}

theorem ComesTo.cause (starts : Starts launch values) {fault? : Option Fault}
    (comes : ComesTo launch values (opening launch) fault?) :
    Cause launch (Execution.conclude values (runFixture launch values (opening launch))).exit := by
  rw [comes.conclude.1]
  exact .came starts comes

/-- A run that only signals end, for a process that is in order. -/
theorem Starts.cause (starts : Starts launch values) {α : Type} {result : Except Stop α}
    (signals : SignalsOnly result)
    (stop : (runFixture launch values (opening launch)).stop = stopOf result)
    (comes : ∀ fault?, stopOf result = fault?.map .fault →
      ComesTo launch values (opening launch) fault?) :
    Cause launch (conclude values (runFixture launch values (opening launch))).exit := by
  match result with
  | .ok _ => exact (comes none rfl).cause starts
  | .error (.fault fault) => exact (comes (some fault) rfl).cause starts
  | .error (.panic panic) =>
      rw [conclude, stop]
      exact .panicked starts
  | .error (.exit exit) =>
      obtain ⟨signal, rfl⟩ := signals exit rfl
      rw [conclude, stop]
      exact .signalled starts signal

/-- Signals are not routed only if the system refuses a thread for it. -/
theorem routed_cases (launch : Launch Tree) (journal : Log.Journal) :
    (∃ reason, routed launch journal = (.error (.signalHandler reason), journal)) ∨
      ∃ begun, routed launch journal = (.ok (), begun) := by
  unfold routed StopRequest.Registry.install StopRequest.Registry.empty
  cases launch.refusal with
  | none => exact .inr ⟨_, rfl⟩
  | some refusal => exact .inl ⟨_, rfl⟩

theorem Starts.cause_forever (starts : Starts launch values)
    (program : launch.program = .forever) :
    Cause launch (conclude values (runFixture launch values (opening launch))).exit := by
  rcases routed_cases launch (opening launch) with ⟨reason, hrouted⟩ | ⟨begun, hrouted⟩
  · rw [(conclude_of_unrouted values program hrouted).1]
    have hexit : values.policy.exitAfter (some (.signalHandler reason)) = .code 1 :=
      if_neg (by simp [Policy.abortsOn, Fault.isResource])
    rw [hexit]
    exact .unrouted starts program hrouted
  · refine starts.cause (Sequential.signalsOnly_run values.sequential (pauses launch.stop)
      (allocator launch.heap begun) launch.output) ?_ ?_
    · simp only [runFixture, program, runForever, hrouted]
      rfl
    · exact fun fault? hstop => .forever program hrouted hstop

theorem Starts.cause_threaded (starts : Starts launch values)
    (program : launch.program = .threaded) :
    Cause launch (conclude values (runFixture launch values (opening launch))).exit := by
  rcases (ends_pool launch values (opening launch)).signalsOnly_or_felled with
    signals | ⟨fault, felled⟩
  · refine starts.cause signals ?_ fun fault? hstop => .threaded program hstop
    simp only [runFixture, program]
    rfl
  · obtain ⟨thread, hshown⟩ := felled.shown
    have hmem : (thread, fault) ∈ (pool launch values (opening launch)).2.shown := by
      rw [hshown]
      exact Array.mem_push_self
    exact (ComesTo.hooked program hmem).cause starts

theorem Starts.cause_realloc (starts : Starts launch values)
    (program : launch.program = .realloc) :
    Cause launch (conclude values (runFixture launch values (opening launch))).exit := by
  refine starts.cause (Growth.signalsOnly_run values.growth
    (allocator launch.heap (opening launch))) ?_ fun fault? hstop => .realloc program hstop
  simp only [runFixture, program]
  rfl

theorem Starts.cause_vectors (starts : Starts launch values)
    (program : launch.program = .vectors) :
    Cause launch (conclude values (runFixture launch values (opening launch))).exit := by
  refine starts.cause (Vectors.signalsOnly_run values.vectors launch.heap (opening launch)) ?_
    fun fault? hstop => .vectors program hstop
  simp only [runFixture, program]
  rfl

/-- A process that is in order has its exit from its run. -/
theorem Starts.cause_conclude (starts : Starts launch values) :
    Cause launch (conclude values (runFixture launch values (opening launch))).exit := by
  cases hprogram : launch.program with
  | forever => exact starts.cause_forever hprogram
  | threaded => exact starts.cause_threaded hprogram
  | realloc => exact starts.cause_realloc hprogram
  | vectors => exact starts.cause_vectors hprogram

/-- A process whose command line asks for no run ends over it. -/
theorem exit_of_instructed (log : launch.setUp.1 = .ok ())
    {ending : Ending} (h : instructed launch (opening launch) = .error ending) :
    (run launch).exit = ending.exit := by
  have hending :
      afterSetUp launch (.start launch.setUp.2.filter) = ending := by
    unfold opening at h
    unfold afterSetUp
    dsimp only
    rw [h]
  rw [run_of_log log, hending]
  rfl

theorem exit_of_rejected (log : launch.setUp.1 = .ok ()) {message : String}
    (line : launch.line = .rejected message) :
    (run launch).exit = .code usageStatus :=
  exit_of_instructed log (by rw [instructed, line])

theorem exit_of_setupStop {stop : Log.SetupStop}
    (log : launch.setUp.1 = .error stop) :
    (run launch).exit = .code 1 ∨ (run launch).exit = .code panicStatus := by
  rw [run_of_setupStop log]
  cases stop with
  | error error => exact .inl rfl
  | panic panic => exact .inr rfl

/-- Every exit has a cause. -/
theorem cause_run (launch : Launch Tree) : Cause launch (run launch).exit := by
  rcases hlog : launch.setUp.1 with stop | _
  · rcases exit_of_setupStop hlog with hexit | hexit
    · rw [hexit]
      exact .unlogged hlog (.inl rfl)
    · rw [hexit]
      exact .unlogged hlog (.inr rfl)
  · cases hline : launch.line with
    | rejected message =>
        rw [exit_of_rejected hlog hline]
        exact .rejected hlog hline
    | informs text =>
        rw [exit_of_instructed hlog (by rw [instructed, hline])]
        exact .informed hlog hline
    | run values =>
        have starts : Starts launch values := ⟨hlog, hline⟩
        rw [starts.run_eq]
        exact starts.cause_conclude

end Cause

end Execution

/-- A status other than zero comes from a fault. -/
theorem Policy.exists_of_exitAfter {policy : Policy} {fault? : Option Fault} {status : Nat}
    (h : policy.exitAfter fault? = .code status) (failure : status ≠ 0) :
    ∃ fault, fault? = some fault ∧ fault.exitCode = status := by
  cases fault? with
  | none => exact absurd (Exit.code.inj h).symm failure
  | some fault =>
      rw [exitAfter] at h
      have hexit : policy.exit fault = .code fault.exitCode := by
        refine exit_of_not_abort ?_
        rw [h]
        simp
      exact ⟨fault, rfl, Exit.code.inj (hexit.symm.trans h)⟩

namespace Fault

variable {fault : Fault}

theorem exitCode_eq_two_iff : fault.exitCode = 2 ↔ ∃ size, fault = .allocationFailed size := by
  cases fault <;> simp [exitCode]

theorem exitCode_eq_three_iff :
    fault.exitCode = 3 ↔ ∃ index source, fault = .threadCreateFailed index source := by
  cases fault <;> simp [exitCode]

theorem exitCode_eq_four_iff : fault.exitCode = 4 ↔ ∃ index, fault = .workerPanicked index := by
  cases fault <;> simp [exitCode]

end Fault

namespace Execution

variable {Tree : Type} {launch : Launch Tree} {status : Nat}

/-- A status that stands for a fault comes from one, or two from a wrong command line. -/
theorem exists_of_exit (h : (run launch).exit = .code status)
    (which : status = 2 ∨ status = 3 ∨ status = 4) :
    status = 2 ∧ launch.setUp.1 = .ok () ∧ (∃ message, launch.line = .rejected message) ∨
      ∃ values fault, Starts launch values ∧
        ComesTo launch values (opening launch) (some fault) ∧ fault.exitCode = status := by
  have hcause := cause_run launch
  rw [h] at hcause
  have failure : status ≠ 0 := by omega
  generalize hexit : Exit.code status = exit at hcause
  cases hcause with
  | unlogged log known =>
      obtain rfl := Exit.code.inj hexit
      rw [panicStatus] at known
      omega
  | rejected log line => exact .inl ⟨Exit.code.inj hexit, log, _, line⟩
  | informed => exact absurd (Exit.code.inj hexit) failure
  | came starts comes =>
      obtain ⟨fault, rfl, hstatus⟩ := Policy.exists_of_exitAfter hexit.symm failure
      exact .inr ⟨_, fault, starts, comes, hstatus⟩
  | unrouted =>
      have hone := Exit.code.inj hexit
      omega
  | panicked =>
      have hpanic := Exit.code.inj hexit
      rw [panicStatus] at hpanic
      omega
  | signalled => cases hexit

end Execution

/-- The threads of a pool leave with such a status over the fault that it stands for. -/
theorem Workers.Process.exists_of_exec {workers : Nat} {orders : Orders} {inner : Stack}
    (small : workers < UInt64.size) {schedule : List (PoolThread workers)} {status : Nat}
    (h : ((first inner).exec orders schedule).exit = some (.code status))
    (which : status = 2 ∨ status = 3 ∨ status = 4) :
    ∃ fault, CameTo orders ((first inner).exec orders schedule) (some fault) ∧
      fault.exitCode = status := by
  rcases exec_cases orders inner small schedule with
    orderly | ⟨fault?, exit, hexit, left⟩ | ⟨-, hexit⟩
  · rw [orderly.running] at h
    cases h
  · obtain rfl := Option.some.inj (h.symm.trans hexit)
    obtain ⟨fault, rfl, hstatus⟩ := Policy.exists_of_exitAfter left.exit.symm (by omega)
    exact ⟨fault, left.came, hstatus⟩
  · have hpanic := Exit.code.inj (Option.some.inj (h.symm.trans hexit))
    rw [panicStatus] at hpanic
    omega

open Workers.Process

/-- Status three is that of a thread that was refused, and four that of a worker that panicked.  Two
tells of a failed allocation exactly if the process does not come to a wrong command line, whose
status it is, too; no other failure has it.  A log that cannot be set up is status one or that of a
panic.  And a pool, whatever the order of its turns, has each of the three over its own fault alone.
-/
theorem statuses_tell_faults {Tree : Type} (launch : Launch Tree) (orders : Workers.Orders)
    (inner : Stack) (schedule : List (Workers.PoolThread orders.config.workers.toNat)) :
    (((Execution.run launch).exit = .code 2 → ∃ values size, Starts launch values ∧
        ComesTo launch values (opening launch) (some (.allocationFailed size))) ↔
      ¬ (launch.setUp.1 = .ok () ∧ ∃ message, launch.line = .rejected message)) ∧
    ((Execution.run launch).exit = .code 3 → ∃ values index source, Starts launch values ∧
      ComesTo launch values (opening launch) (some (.threadCreateFailed index source))) ∧
    ((Execution.run launch).exit = .code 4 → ∃ values index, Starts launch values ∧
      ComesTo launch values (opening launch) (some (.workerPanicked index))) ∧
    (∀ stop, launch.setUp.1 = .error stop →
      (Execution.run launch).exit = .code 1 ∨ (Execution.run launch).exit = .code 101) ∧
    (((first inner).exec orders schedule).exit = some (.code 2) →
      ∃ size, CameTo orders ((first inner).exec orders schedule)
        (some (.allocationFailed size))) ∧
    (((first inner).exec orders schedule).exit = some (.code 3) →
      ∃ index source, CameTo orders ((first inner).exec orders schedule)
        (some (.threadCreateFailed index source))) ∧
    (((first inner).exec orders schedule).exit = some (.code 4) →
      ∃ index, CameTo orders ((first inner).exec orders schedule)
        (some (.workerPanicked index))) := by
  have small := orders.config.workers.toNat_lt
  refine ⟨⟨?_, ?_⟩, ?_, ?_, ?_, ?_, ?_, ?_⟩
  · rintro tells ⟨log, message, line⟩
    obtain ⟨values, size, starts, -⟩ := tells (exit_of_rejected log line)
    cases line.symm.trans starts.line
  · intro right h
    obtain ⟨-, wrong⟩ | ⟨values, fault, starts, comes, hstatus⟩ := exists_of_exit h (.inl rfl)
    · exact absurd wrong right
    · obtain ⟨size, rfl⟩ := Fault.exitCode_eq_two_iff.1 hstatus
      exact ⟨values, size, starts, comes⟩
  · intro h
    obtain ⟨hthree, -⟩ | ⟨values, fault, starts, comes, hstatus⟩ :=
      exists_of_exit h (.inr (.inl rfl))
    · cases hthree
    · obtain ⟨index, source, rfl⟩ := Fault.exitCode_eq_three_iff.1 hstatus
      exact ⟨values, index, source, starts, comes⟩
  · intro h
    obtain ⟨hfour, -⟩ | ⟨values, fault, starts, comes, hstatus⟩ :=
      exists_of_exit h (.inr (.inr rfl))
    · cases hfour
    · obtain ⟨index, rfl⟩ := Fault.exitCode_eq_four_iff.1 hstatus
      exact ⟨values, index, starts, comes⟩
  · exact fun stop log => exit_of_setupStop log
  · intro h
    obtain ⟨fault, came, hstatus⟩ := exists_of_exec small h (.inl rfl)
    obtain ⟨size, rfl⟩ := Fault.exitCode_eq_two_iff.1 hstatus
    exact ⟨size, came⟩
  · intro h
    obtain ⟨fault, came, hstatus⟩ := exists_of_exec small h (.inr (.inl rfl))
    obtain ⟨index, source, rfl⟩ := Fault.exitCode_eq_three_iff.1 hstatus
    exact ⟨index, source, came⟩
  · intro h
    obtain ⟨fault, came, hstatus⟩ := exists_of_exec small h (.inr (.inr rfl))
    obtain ⟨index, rfl⟩ := Fault.exitCode_eq_four_iff.1 hstatus
    exact ⟨index, came⟩

/-- The pool is to run with an option that there is not. -/
def Execution.Launch.unknownOption : Launch Linux.Directory :=
  .plain .threaded ["--no-such-flag"] []

/-- The pool is refused the thread of its first worker. -/
def Execution.Launch.threadRefused : Launch Linux.Directory :=
  .plain .threaded ["--workers", "2"] [("RUST_MIN_STACK", some "1152921504606846976")]

/-- The log is to have a form that there is not. -/
def Execution.Launch.unknownFormat : Launch Linux.Directory :=
  .plain .vectors [] [("TRACEE_LOG_FORMAT", some "yaml")]

theorem refused_thread_has_status_three :
    ((Execution.run .threadRefused).exit = .code 3 ∧
      ∃ values index source, Starts .threadRefused values ∧
        ComesTo .threadRefused values (opening .threadRefused)
          (some (.threadCreateFailed index source))) ∧
    ((Execution.run .unknownFormat).exit = .code 1 ∨
      (Execution.run .unknownFormat).exit = .code 101) ∧
    ((first .bare).exec .hugeBlocks Workers.PoolThread.bothFail).exit = some (.code 2) ∧
      ∃ size, CameTo .hugeBlocks ((first .bare).exec .hugeBlocks Workers.PoolThread.bothFail)
        (some (.allocationFailed size)) := by
  have refused : (Execution.run .threadRefused).exit = .code 3 := by decide +kernel
  have bothFailed :
      ((first .bare).exec .hugeBlocks Workers.PoolThread.bothFail).exit = some (.code 2) := by
    decide +kernel
  have unknownFormat : Launch.unknownFormat.setUp.1 = .error _ := rfl
  have hthreadRefused :=
    statuses_tell_faults .threadRefused .hugeBlocks .bare Workers.PoolThread.bothFail
  have hunknownFormat :=
    statuses_tell_faults .unknownFormat .hugeBlocks .bare Workers.PoolThread.bothFail
  exact ⟨⟨refused, hthreadRefused.2.1 refused⟩, hunknownFormat.2.2.2.1 _ unknownFormat, bothFailed,
    hthreadRefused.2.2.2.2.1 bothFailed⟩

/-- A process with a wrong command line has the status of a failed allocation, though it has
not come to its run. -/
theorem status_two_without_fault :
    (Execution.run .unknownOption).exit = .code 2 ∧ (∀ values, ¬ Starts .unknownOption values) ∧
      ¬ ∀ launch : Launch Linux.Directory, (Execution.run launch).exit = .code 2 → ∃ values size,
        Starts launch values ∧
          ComesTo launch values (opening launch) (some (.allocationFailed size)) := by
  have hexit : (Execution.run .unknownOption).exit = .code 2 := by decide +kernel
  have line : ∃ message, Launch.unknownOption.line = .rejected message := by
    have unknown : Command.read .threaded ["--no-such-flag"] =
        .error (.unknownName "no-such-flag" none []) := by decide +kernel
    simp only [Launch.line, Launch.unknownOption, Launch.plain, Linux.Machine.system,
      Command.reading, unknown]
    exact ⟨_, rfl⟩
  have wrong (values : Command.Values) : ¬ Starts .unknownOption values := fun starts => by
    obtain ⟨message, rejected⟩ := line
    cases rejected.symm.trans starts.line
  refine ⟨hexit, wrong, fun tells => ?_⟩
  obtain ⟨values, -, starts, -⟩ := tells .unknownOption hexit
  exact wrong values starts

end HeapFixtures
