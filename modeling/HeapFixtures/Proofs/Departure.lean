/-
# How a process ends after its run

A process whose log and command line are in order does its run.  If the run comes to an end of
its own, the exit and the last words follow from what it has come to and from the policy: a
success is status zero, a resource fault under the policy of a crash is an abort without a
word, and every other fault is said once and becomes the status that belongs to it.

The counters are printed before the last words.  A worker's resource fault leaves no time for
them; in all other runs through a counting layer, every block is back when they are printed.
A run that panics, or that a signal or a lack of memory ends, has not come to anything here.
-/

import HeapFixtures.Proofs.PolicyExit

namespace HeapFixtures

theorem Fault.isResource_iff {fault : Fault} :
    fault.isResource = true ↔
      (∃ size, fault = .allocationFailed size) ∨
        ∃ index source, fault = .threadCreateFailed index source := by
  cases fault <;> simp [isResource]

theorem Fault.exitCode_ne_zero (fault : Fault) : fault.exitCode ≠ 0 := by
  cases fault <;> simp [exitCode]

namespace Policy

theorem abortsOn_iff {policy : Policy} {fault : Fault} :
    policy.abortsOn fault = true ↔ policy = .crash ∧ fault.isResource = true := by
  simp [abortsOn]

theorem exit_eq_abort_iff {policy : Policy} {fault : Fault} :
    policy.exit fault = .signal .abort ↔ policy.abortsOn fault = true := by
  unfold exit
  split <;> simp_all

theorem exit_of_not_abort {policy : Policy} {fault : Fault}
    (h : policy.exit fault ≠ .signal .abort) : policy.exit fault = .code fault.exitCode :=
  if_neg (mt exit_eq_abort_iff.2 h)

theorem exit_ne_success (policy : Policy) (fault : Fault) : policy.exit fault ≠ .code 0 := by
  unfold exit
  split
  · simp
  · simpa using fault.exitCode_ne_zero

end Policy

namespace Execution

variable {Tree : Type}

/-- The log of a process when it reads its command line. -/
def opening (launch : Launch Tree) : Log.Journal :=
  announce launch.program (.start launch.setUp.2.filter)

/-- The log of the process is set up, and its command line asks for a run. -/
structure Starts (launch : Launch Tree) (values : Command.Values) : Prop where
  log : launch.setUp.1 = .ok ()
  line : launch.line = .run values

/-- What surrounds the pool of a process. -/
def surroundings (launch : Launch Tree) (values : Command.Values) : Workers.Surroundings :=
  { refusal := fun _ => launch.refusal.map Thread.Refusal.error
    hook := .ofPolicy values.policy
    order := launch.order
    lacks := launch.system.lacks }

/-- The pool of a process and what it has come to. -/
def pool (launch : Launch Tree) (values : Command.Values) (journal : Log.Journal) :
    Except Stop Workers.Summary × Workers.Pool :=
  Workers.run values.workers (surroundings launch values) (allocator launch.heap journal)

/-- What the run of a process comes to: nothing, or a fault that it returns or that the hook
of the pool is shown. -/
inductive ComesTo (launch : Launch Tree) (values : Command.Values) (journal : Log.Journal) :
    Option Fault → Prop
  | forever {fault? : Option Fault} {begun : Log.Journal} (program : launch.program = .forever)
      (ready : routed launch journal = (.ok (), begun))
      (returns : stopOf (Sequential.run values.sequential (pauses launch.stop)
        (allocator launch.heap begun) launch.output).1 = fault?.map .fault) :
      ComesTo launch values journal fault?
  | threaded {fault? : Option Fault} (program : launch.program = .threaded)
      (returns : stopOf (pool launch values journal).1 = fault?.map .fault) :
      ComesTo launch values journal fault?
  | hooked {thread : Thread} {fault : Fault} (program : launch.program = .threaded)
      (shown : (thread, fault) ∈ (pool launch values journal).2.shown) :
      ComesTo launch values journal (some fault)
  | realloc {fault? : Option Fault} (program : launch.program = .realloc)
      (returns : stopOf (Growth.run values.growth (allocator launch.heap journal)).1 =
        fault?.map .fault) :
      ComesTo launch values journal fault?
  | vectors {fault? : Option Fault} (program : launch.program = .vectors)
      (returns : stopOf (Vectors.run values.vectors launch.heap journal).1 =
        fault?.map .fault) :
      ComesTo launch values journal fault?

/-- Whether a program that was asked for its counters prints them after such a run. -/
def showsCounters : Command.Program → Option Fault → Bool
  | .forever, _ | .realloc, _ => true
  | .threaded, fault? => !fault?.any Fault.isResource
  | .vectors, _ => false

/-- A run has returned with what it came to, has printed nothing, and has no blocks left. -/
structure Returned (journal : Log.Journal) (counts : Bool) (fault? : Option Fault)
    (finished : Finished) : Prop where
  stop : finished.stop = fault?.map .fault
  texts : finished.journal.texts = journal.texts
  counters : finished.counters.isSome = counts ∧
    ∀ counters ∈ finished.counters, counters.isBalanced = true

/-- A run was ended over a resource fault, after its last words. -/
structure TakenDown (values : Command.Values) (journal : Log.Journal) (fault : Fault)
    (finished : Finished) : Prop where
  isResource : fault.isResource = true
  stop : finished.stop = some (.exit (values.policy.exit fault))
  texts : finished.journal.texts = journal.texts ++ values.policy.lastWords fault

section Finished

variable {launch : Launch Tree} {values : Command.Values} {journal begun : Log.Journal}
  {fault? : Option Fault} {finished : Finished}

theorem returns_of_stopOf {α : Type} {result : Except Stop α}
    (h : stopOf result = fault?.map .fault) : Returns result := by
  rintro stop rfl
  obtain ⟨fault, -, hfault⟩ := Option.map_eq_some_iff.1 h.symm
  exact ⟨fault, hfault.symm⟩

theorem idle_allocator (heap : Heap) (journal : Log.Journal) : (allocator heap journal).Idle :=
  ⟨.zero, rfl, rfl⟩

/-- After a careful user, the counters of the allocator are balanced. -/
theorem isBalanced_of_custody {heap : Heap} {after : Stack} {dealings : List Dealing}
    (custody : Custody (allocator heap journal) after dealings) :
    (counted after).isBalanced = true := by
  have hcounters : List.Forall₂ _ [Counters.zero] after.counters := custody.counters
  obtain ⟨counters, rest, ⟨-, -, balanced⟩, -, hafter⟩ := List.forall₂_cons_left_iff.1 hcounters
  rw [counted, hafter]
  exact balanced rfl

/-- Routing the signals prints nothing. -/
theorem texts_routed (launch : Launch Tree) (journal : Log.Journal) :
    (routed launch journal).2.texts = journal.texts := by
  unfold routed StopRequest.Registry.install StopRequest.Registry.empty
  cases launch.refusal with
  | none => exact Log.Journal.texts_emit ..
  | some refusal => rfl

theorem ends_pool (launch : Launch Tree) (values : Command.Values) (journal : Log.Journal) :
    Workers.Ends values.policy ⟨allocator launch.heap journal, #[]⟩
      (pool launch values journal).1 (pool launch values journal).2 :=
  Workers.ends_run values.workers rfl (idle_allocator launch.heap journal)

/-- A pool that returns has not asked the hook. -/
theorem unharmed_of_returns
    (returns : stopOf (pool launch values journal).1 = fault?.map .fault) :
    fault?.any Fault.isResource = false ∧
      Workers.Unharmed ⟨allocator launch.heap journal, #[]⟩ (pool launch values journal).2 := by
  have hends := ends_pool launch values journal
  generalize pool launch values journal = called at hends returns ⊢
  obtain ⟨result, after⟩ := called
  cases hends with
  | completed summary unharmed =>
      obtain rfl := Option.map_eq_none_iff.1 returns.symm
      exact ⟨rfl, unharmed⟩
  | failed ordinary unharmed =>
      obtain ⟨fault, rfl, hfault⟩ := Option.map_eq_some_iff.1 returns.symm
      obtain rfl := Stop.fault.inj hfault
      exact ⟨ordinary, unharmed⟩
  | panicked | felled | gaveUp =>
      obtain ⟨fault, -, hfault⟩ := Option.map_eq_some_iff.1 returns.symm
      cases hfault

/-- A pool whose hook was shown a fault was taken down over it. -/
theorem felled_of_shown {thread : Thread} {fault : Fault}
    (shown : (thread, fault) ∈ (pool launch values journal).2.shown) :
    (pool launch values journal).1 = .error (.exit (values.policy.exit fault)) ∧
      Workers.Felled values.policy ⟨allocator launch.heap journal, #[]⟩ fault
        (pool launch values journal).2 := by
  have hends := ends_pool launch values journal
  generalize pool launch values journal = called at hends shown ⊢
  obtain ⟨result, after⟩ := called
  cases hends with
  | completed _ unharmed | failed _ unharmed | panicked _ unharmed =>
      rw [unharmed.shown] at shown
      cases Array.not_mem_empty _ shown
  | felled felled =>
      obtain ⟨other, hshown⟩ := felled.shown
      rw [hshown, Array.mem_push] at shown
      rcases shown with hnone | hsame
      · cases Array.not_mem_empty _ hnone
      · obtain rfl := (Prod.ext_iff.1 hsame).2
        exact ⟨rfl, felled⟩
  | gaveUp hshown =>
      rw [hshown] at shown
      cases Array.not_mem_empty _ shown

/-- A run that has come to something has returned, or a worker has taken it down. -/
theorem ComesTo.returned_or_takenDown (comes : ComesTo launch values journal fault?) :
    Returned journal (showsCounters launch.program fault?) fault?
        (runFixture launch values journal) ∨
      ∃ fault, fault? = some fault ∧ showsCounters launch.program fault? = false ∧
        TakenDown values journal fault (runFixture launch values journal) := by
  unfold runFixture
  cases comes with
  | @forever fault? begun program ready returns =>
      have htexts := texts_routed launch journal
      rw [ready] at htexts
      obtain ⟨dealings, custody⟩ := (Sequential.settles_run values.sequential
        (pauses launch.stop) (allocator launch.heap begun) launch.output).custody
          (returns_of_stopOf returns)
      simp only [program, runForever, ready]
      refine .inl ⟨returns, ?_, rfl, ?_⟩
      · exact (Sequential.texts_run values.sequential (pauses launch.stop)
          (allocator launch.heap begun) launch.output).trans htexts
      · intro counters hcounters
        obtain rfl := Option.some.inj hcounters
        exact isBalanced_of_custody custody
  | threaded program returns =>
      obtain ⟨ordinary, unharmed⟩ := unharmed_of_returns returns
      simp only [program]
      refine .inl ⟨returns, unharmed.texts, ?_, ?_⟩
      · rw [showsCounters, ordinary]
        rfl
      · intro counters hcounters
        obtain rfl := Option.some.inj hcounters
        exact unharmed.idle.isBalanced
  | hooked program shown =>
      obtain ⟨hresult, felled⟩ := felled_of_shown shown
      simp only [program]
      refine .inr ⟨_, rfl, ?_, felled.isResource, ?_, felled.texts⟩
      · rw [showsCounters, Option.any_some, felled.isResource]
        rfl
      · exact congrArg stopOf hresult
  | realloc program returns =>
      obtain ⟨dealings, custody⟩ := (Growth.settles_run values.growth
        (allocator launch.heap journal)).custody (returns_of_stopOf returns)
      simp only [program]
      refine .inl ⟨returns, Growth.texts_run values.growth _, rfl, ?_⟩
      intro counters hcounters
      obtain rfl := Option.some.inj hcounters
      exact isBalanced_of_custody custody
  | vectors program returns =>
      simp only [program]
      refine .inl ⟨returns, Vectors.texts_run values.vectors launch.heap journal, rfl, ?_⟩
      intro counters hcounters
      cases hcounters

/-- The counters are printed behind everything else. -/
theorem Returned.texts_report {counts : Bool}
    (returned : Returned journal counts fault? finished) (values : Command.Values) :
    ∃ counters : Counters, counters.isBalanced = true ∧
      (report values finished).texts =
        journal.texts ++ counters.tally (values.report && counts) := by
  obtain ⟨-, htexts, rfl, balanced⟩ := returned
  unfold report Counters.tally
  cases hcounters : finished.counters with
  | none => exact ⟨.zero, rfl, by simp [htexts]⟩
  | some counters =>
      refine ⟨counters, balanced counters hcounters, ?_⟩
      cases values.report with
      | false => simp [htexts]
      | true => simp [htexts]

/-- The end of a process whose run has returned. -/
theorem Returned.conclude {counts : Bool} (returned : Returned journal counts fault? finished) :
    (conclude values finished).exit = values.policy.exitAfter fault? ∧
      ∃ counters : Counters, counters.isBalanced = true ∧
        (conclude values finished).journal.texts =
          journal.texts ++ counters.tally (values.report && counts) ++
            values.policy.wordsAfter fault? := by
  obtain ⟨counters, balanced, htexts⟩ := returned.texts_report values
  unfold Execution.conclude
  rw [returned.stop]
  cases fault? with
  | none => exact ⟨rfl, counters, balanced, htexts.trans (List.append_nil _).symm⟩
  | some fault =>
      refine ⟨Policy.exit_handle .., counters, balanced, ?_⟩
      rw [← htexts]
      exact Policy.texts_handle ..

/-- The end of a process that a worker has taken down. -/
theorem TakenDown.conclude {fault : Fault} (down : TakenDown values journal fault finished) :
    (conclude values finished).exit = values.policy.exit fault ∧
      (conclude values finished).journal.texts =
        journal.texts ++ values.policy.lastWords fault := by
  unfold Execution.conclude
  rw [down.stop]
  exact ⟨rfl, down.texts⟩

/-- The end of a process follows from what its run has come to. -/
theorem ComesTo.conclude (comes : ComesTo launch values journal fault?) :
    (conclude values (runFixture launch values journal)).exit =
        values.policy.exitAfter fault? ∧
      ∃ counters : Counters, counters.isBalanced = true ∧
        (conclude values (runFixture launch values journal)).journal.texts =
          journal.texts ++ counters.tally (values.report && showsCounters launch.program fault?) ++
            values.policy.wordsAfter fault? := by
  obtain returned | ⟨fault, rfl, hsilent, down⟩ := comes.returned_or_takenDown
  · exact returned.conclude
  · obtain ⟨hexit, htexts⟩ := down.conclude
    refine ⟨hexit, .zero, rfl, ?_⟩
    rw [htexts, hsilent, Bool.and_false]
    exact congrArg (· ++ _) (List.append_nil _).symm

end Finished

/-- The lines that a process has printed itself on its error stream. -/
def Outcome.printed (outcome : Outcome) : List String :=
  outcome.console.filterMap Log.Line.plain?

section Run

variable {launch : Launch Tree} {values : Command.Values}

theorem texts_opening (launch : Launch Tree) : (opening launch).texts = [] :=
  Log.Journal.texts_emit ..

/-- A process whose log is set up goes on to its command line. -/
theorem run_of_log (log : launch.setUp.1 = .ok ()) :
    run launch = leave launch.system launch.setUp.2
      (afterSetUp launch (.start launch.setUp.2.filter)) := by
  unfold run
  generalize launch.setUp = made at log ⊢
  obtain ⟨result, installation⟩ := made
  obtain rfl : result = .ok () := log
  rfl

theorem run_of_setupStop {stop : Log.SetupStop} (log : launch.setUp.1 = .error stop) :
    run launch = leave launch.system launch.setUp.2 (withoutLog stop) := by
  unfold run
  generalize launch.setUp = made at log ⊢
  obtain ⟨result, installation⟩ := made
  obtain rfl : result = .error stop := log
  rfl

/-- A process that is in order does its run. -/
theorem Starts.run_eq (starts : Starts launch values) :
    run launch = leave launch.system launch.setUp.2
      (conclude values (runFixture launch values (opening launch))) := by
  rw [run_of_log starts.log]
  simp only [afterSetUp, instructed, starts.line, opening]

theorem printed_leave (system : System Tree) (installation : Log.Installation Tree)
    (ending : Ending) :
    (leave system installation ending).printed = ending.journal.texts.flatMap Text.lines :=
  ending.journal.filterMap_plain?_console _

end Run

end Execution
end HeapFixtures
