/-
# The exit of a process and its last lines

A process that has come to nothing leaves with status zero.  One that has come to a fault
leaves with the status of the fault, behind a line that says so, or is aborted without a word
over a resource fault where the policy asks for a crash.  This holds of the four programs as
they run one thread after another, and of a pool whose threads take their turns in any order.

Where counters are printed at all, they come once, before the last words, and are balanced.
Nothing is said here of runs that panic, that a signal ends, or that find no memory for the
handles of their threads.
-/

import HeapFixtures.Linux.System
import HeapFixtures.Proofs.ProcessSchedule
import HeapFixtures.Proofs.StepsLeft

namespace HeapFixtures

open Execution Workers

/-- How a process leaves that has come to nothing or to a fault: its exit, and the texts that
it has printed.  The counters are among them if `counts` says so. -/
structure Departs (policy : Policy) (counts : Bool) (fault? : Option Fault) (exit : Exit)
    (texts : List String) : Prop where
  success : exit = .code 0 ↔ fault? = none
  abort : exit = .signal .abort ↔ policy = .crash ∧
    ((∃ size, fault? = some (.allocationFailed size)) ∨
      ∃ index source, fault? = some (.threadCreateFailed index source))
  failure : ∀ fault, fault? = some fault → exit ≠ .signal .abort → exit = .code fault.exitCode
  texts : ∃ counters : Counters, (counters.allocations = counters.releases ∧ counters.live = 0) ∧
    texts = (if counts then [counters.render] else []) ++
      if exit = .signal .abort then [] else fault?.toList.map Policy.fatalLine

namespace Policy

variable {policy : Policy} {fault? : Option Fault}

theorem exitAfter_eq_success_iff : policy.exitAfter fault? = .code 0 ↔ fault? = none := by
  cases fault? with
  | none => exact iff_of_true rfl rfl
  | some fault => exact iff_of_false (policy.exit_ne_success fault) (by simp)

theorem exitAfter_eq_abort_iff :
    policy.exitAfter fault? = .signal .abort ↔ policy = .crash ∧
      ((∃ size, fault? = some (.allocationFailed size)) ∨
        ∃ index source, fault? = some (.threadCreateFailed index source)) := by
  cases fault? with
  | none => exact iff_of_false (by simp [exitAfter]) (by simp)
  | some fault =>
      rw [exitAfter, exit_eq_abort_iff, abortsOn_iff, Fault.isResource_iff]
      simp only [Option.some.injEq]

/-- The last words are one line, or none if the process aborts. -/
theorem wordsAfter_eq (policy : Policy) (fault? : Option Fault) :
    policy.wordsAfter fault? =
      if policy.exitAfter fault? = .signal .abort then [] else fault?.toList.map fatalLine := by
  cases fault? with
  | none => rfl
  | some fault =>
      rw [wordsAfter, lastWords, exitAfter]
      exact if_congr exit_eq_abort_iff.symm rfl rfl

end Policy

theorem departs_exitAfter (policy : Policy) (counts : Bool) (fault? : Option Fault)
    {counters : Counters} (balanced : counters.isBalanced = true) :
    Departs policy counts fault? (policy.exitAfter fault?)
      (counters.tally counts ++ policy.wordsAfter fault?) where
  success := Policy.exitAfter_eq_success_iff
  abort := Policy.exitAfter_eq_abort_iff
  failure := by
    rintro fault rfl
    exact Policy.exit_of_not_abort
  texts := ⟨counters, by simpa [Counters.isBalanced] using balanced, by
    rw [policy.wordsAfter_eq]
    rfl⟩

namespace Execution

variable {Tree : Type} {launch : Launch Tree} {values : Command.Values} {fault? : Option Fault}

/-- A process that is in order leaves as its run has been concluded. -/
theorem Starts.departs {counts : Bool} (starts : Starts launch values)
    (concluded :
      (Execution.conclude values (runFixture launch values (opening launch))).exit =
          values.policy.exitAfter fault? ∧
        ∃ counters : Counters, counters.isBalanced = true ∧
          (Execution.conclude values (runFixture launch values (opening launch))).journal.texts =
            (opening launch).texts ++ counters.tally counts ++
              values.policy.wordsAfter fault?) :
    ∃ texts, (Execution.run launch).printed = texts.flatMap Text.lines ∧
      Departs values.policy counts fault? (Execution.run launch).exit texts := by
  obtain ⟨hexit, counters, balanced, htexts⟩ := concluded
  rw [texts_opening, List.nil_append] at htexts
  rw [starts.run_eq, printed_leave, htexts]
  refine ⟨_, rfl, ?_⟩
  show Departs _ _ _ (Execution.conclude values (runFixture launch values (opening launch))).exit _
  rw [hexit]
  exact departs_exitAfter _ _ _ balanced

/-- A process whose signals cannot be routed is concluded without a run. -/
theorem conclude_of_unrouted (values : Command.Values) (program : launch.program = .forever)
    {fault : Fault} {journal : Log.Journal}
    (unrouted : routed launch (opening launch) = (.error fault, journal)) :
    (conclude values (runFixture launch values (opening launch))).exit =
        values.policy.exitAfter (some fault) ∧
      ∃ counters : Counters, counters.isBalanced = true ∧
        (conclude values (runFixture launch values (opening launch))).journal.texts =
          (opening launch).texts ++ counters.tally false ++
            values.policy.wordsAfter (some fault) := by
  have htexts := texts_routed launch (opening launch)
  rw [unrouted] at htexts
  have hrun : runFixture launch values (opening launch) =
      ⟨some (.fault fault), journal, "", none⟩ := by
    simp only [runFixture, program, runForever, unrouted]
  have returned : Returned (opening launch) false (some fault)
      (runFixture launch values (opening launch)) := by
    rw [hrun]
    exact ⟨rfl, htexts, rfl, by simp⟩
  simpa only [Bool.and_false] using @Returned.conclude values _ _ _ _ returned

end Execution

/-- All threads of a process. -/
def Workers.PoolThread.all (workers : Nat) : List (PoolThread workers) :=
  .main :: (List.finRange workers).map .worker

theorem Workers.PoolThread.mem_all {workers : Nat} (who : PoolThread workers) :
    who ∈ all workers := by
  cases who with
  | main => exact List.mem_cons_self
  | worker i => exact List.mem_cons_of_mem _ (List.mem_map_of_mem (List.mem_finRange i))

namespace Workers.Process

variable {workers : Nat} {orders : Orders} {inner : Stack}

/-- A process whose threads take their turns in any order leaves over what they have come to,
if the total of their cycles does not make its main thread panic. -/
theorem departs_exec (orders : Orders) (inner : Stack) (small : workers < UInt64.size)
    {schedule : List (PoolThread workers)} {exit : Exit}
    (ended : ((first inner).exec orders schedule).exit = some exit) :
    UInt64.size ≤ workers * orders.config.cycles.toNat ∧ exit = .code panicStatus ∨
      ∃ fault? texts, CameTo orders ((first inner).exec orders schedule) fault? ∧
        ((first inner).exec orders schedule).texts = inner.texts ++ texts ∧
        Departs orders.policy (orders.report && showsCounters .threaded fault?) fault? exit
          texts := by
  rcases exec_cases orders inner small schedule with
    orderly | ⟨fault?, other, hexit, left⟩ | ⟨many, hexit⟩
  · rw [orderly.running] at ended
    cases ended
  · obtain rfl := Option.some.inj (ended.symm.trans hexit)
    obtain ⟨came, rfl, counters, balanced, htexts⟩ := left
    refine .inr ⟨fault?, _, came, ?_, departs_exitAfter _ _ _ balanced⟩
    rw [htexts, List.append_assoc]
    rfl
  · exact .inl ⟨many, Option.some.inj (ended.symm.trans hexit)⟩

/-- A process ends whose threads all have their turns often enough. -/
theorem exists_exec_ends (orders : Orders) (inner : Stack) (small : workers < UInt64.size) :
    ∃ bound, ∀ rounds : List (List (PoolThread workers)), bound ≤ rounds.length →
      (∀ round ∈ rounds, ∀ who, who ∈ round) →
      ∃ exit, ((first inner).exec orders rounds.flatten).exit = some exit :=
  ⟨(first inner : Process workers).stepsLeft orders.config + 1, fun _ enough everyone =>
    (orderly_first orders inner).rounds small everyone enough⟩

end Workers.Process

open Workers.Process

/-- How a program leaves whose log is set up and whose command line asks for a run. -/
structure Execution.LeavesInOrder {Tree : Type} (launch : Launch Tree)
    (values : Command.Values) : Prop where
  /-- It leaves over what its run has come to. -/
  returned : ∀ fault?, ComesTo launch values (opening launch) fault? →
    ∃ texts, (Execution.run launch).printed = texts.flatMap Text.lines ∧
      Departs values.policy (values.report && showsCounters launch.program fault?) fault?
        (Execution.run launch).exit texts
  /-- The sequential program that cannot route its signals leaves over that, and has not run. -/
  unrouted : ∀ fault journal, launch.program = .forever →
    routed launch (opening launch) = (.error fault, journal) →
    ∃ texts, (Execution.run launch).printed = texts.flatMap Text.lines ∧
      Departs values.policy false (some fault) (Execution.run launch).exit texts
  /-- The program with a pool does what some order of turns does, down to the lines of the
  log. -/
  scheduled : launch.program = .threaded → values.workers.validate = .ok () →
    hasRoomForHandles values.workers.workers = true →
    launch.system.lacks (handlesSize values.workers.workers) = false →
    (∀ count, (launch.order count).Perm (List.range count)) →
    ∃ schedule : List (PoolThread values.workers.workers.toNat),
      ((first (started launch values (opening launch))).exec (.ofLaunch launch values)
          schedule).exit = some (Execution.run launch).exit ∧
        (Execution.run launch).console = launch.setUp.2.console
          ((first (started launch values (opening launch))).exec (.ofLaunch launch values)
            schedule).journal

theorem Execution.Starts.leavesInOrder {Tree : Type} {launch : Launch Tree}
    {values : Command.Values} (starts : Starts launch values) : LeavesInOrder launch values where
  returned _ comes := starts.departs comes.conclude
  unrouted _ _ program unrouted := starts.departs (conclude_of_unrouted values program unrouted)
  scheduled program valid room memory order := by
    obtain ⟨_, ⟨schedule, rfl⟩, hexit, hjournal⟩ :=
      leadsToEnd_runFixture launch values (opening launch) program valid room memory order
    refine ⟨schedule, ?_, ?_⟩
    · rw [hexit, starts.run_eq]
      rfl
    · rw [hjournal, starts.run_eq]
      rfl

/-- How a process with a pool leaves, whatever the order of the turns of its threads. -/
structure Workers.LeavesInAnyOrder (orders : Orders) (inner : Stack) : Prop where
  /-- It leaves over what its threads have come to, unless the total of their cycles is no word,
  where its main thread may panic. -/
  departs : ∀ (schedule : List (PoolThread orders.config.workers.toNat)) (exit : Exit),
    ((first inner).exec orders schedule).exit = some exit →
    UInt64.size ≤ orders.config.workers.toNat * orders.config.cycles.toNat ∧
        exit = .code panicStatus ∨
      ∃ fault? texts, CameTo orders ((first inner).exec orders schedule) fault? ∧
        ((first inner).exec orders schedule).texts = inner.texts ++ texts ∧
        Departs orders.policy (orders.report && showsCounters .threaded fault?) fault? exit texts
  /-- It ends if all its threads have their turns often enough. -/
  ends : ∃ bound, ∀ rounds : List (List (PoolThread orders.config.workers.toNat)),
    bound ≤ rounds.length → (∀ round ∈ rounds, ∀ who, who ∈ round) →
    ∃ exit, ((first inner).exec orders rounds.flatten).exit = some exit

/-- The programs leave with the exit and the lines that belong to what their runs have come to.
Likewise a process with a pool leaves over what its threads have come to, however many of them
would take it down; and the program with a pool is one such process. -/
theorem process_departs_by_its_fault :
    (∀ (Tree : Type) (launch : Launch Tree) (values : Command.Values), Starts launch values →
      LeavesInOrder launch values) ∧
    ∀ (orders : Orders) (inner : Stack), LeavesInAnyOrder orders inner :=
  ⟨fun _ _ _ starts => starts.leavesInOrder, fun orders inner =>
    { departs := fun _ _ ended => departs_exec orders inner orders.config.workers.toNat_lt ended
      ends := exists_exec_ends orders inner orders.config.workers.toNat_lt }⟩

/-- A machine with nothing but the directory of the process. -/
def Linux.Machine.empty : Machine := ⟨["tmp"], [], [], [], 34359738368, 68719476736⟩

/-- A program on that machine. -/
def Execution.Launch.plain (program : Command.Program) (arguments : List String)
    (bindings : Bindings) : Launch Linux.Directory where
  system := Linux.Machine.empty.system "2026-01-01"
  program := program
  arguments := arguments
  bindings := bindings
  tree := ⟨.empty, []⟩
  output := .endless
  stop := none
  heap := Linux.Machine.empty.heap

/-- The pool is asked for blocks that there is no memory for, and is to crash over it. -/
def Execution.Launch.hugeBlocks : Launch Linux.Directory :=
  .plain .threaded ["--workers", "2", "--block-size", "1152921504606846976", "--on-fault",
    "crash", "--report"] []

/-- What that command line says. -/
def Command.Values.hugeBlocks : Command.Values :=
  [(.workers, .number 2), (.blockSize, .number 1152921504606846976), (.onFault, .policy .crash),
    (.report, .given)]

/-- The sequential program asks for more room for a thread than there is. -/
def Execution.Launch.hugeThread : Launch Linux.Directory :=
  .plain .forever ["--report"] [("RUST_MIN_STACK", some "1152921504606846976")]

/-- The heap itself. -/
def Stack.bare : Stack := ⟨[], .fresh Linux.Machine.empty.heap (.start .silent)⟩

/-- Two workers that meet the same fault. -/
def Workers.Orders.hugeBlocks : Orders :=
  ⟨⟨2, 1, 1152921504606846976⟩, .failFast, true, fun _ => none⟩

/-- Both workers would take the process down; the second one has the right to do so. -/
def Workers.PoolThread.bothFail : List (PoolThread Orders.hugeBlocks.config.workers.toNat) :=
  let first := .worker ⟨0, by decide⟩
  let second := .worker ⟨1, by decide⟩
  [.main, .main, first, first, first, second, second, second, second, first, .main, second,
    first, second, .main, second, first]

theorem refused_workers_end_the_process :
    (Starts .hugeBlocks .hugeBlocks ∧
      ComesTo .hugeBlocks .hugeBlocks (opening .hugeBlocks)
        (some (.allocationFailed 1152921504606846976)) ∧
      ∃ texts, (Execution.run .hugeBlocks).printed = texts.flatMap Text.lines ∧
        Departs .crash false (some (.allocationFailed 1152921504606846976))
          (Execution.run .hugeBlocks).exit texts) ∧
    (Starts .hugeThread [(.report, .given)] ∧
      ∃ texts, (Execution.run .hugeThread).printed = texts.flatMap Text.lines ∧
        Departs .failFast false
          (some (.signalHandler "Ctrl-C error: Unexpected system error"))
          (Execution.run .hugeThread).exit texts) ∧
    (∃ schedule : List (PoolThread Command.Values.hugeBlocks.workers.workers.toNat),
      ((first (started .hugeBlocks .hugeBlocks (opening .hugeBlocks))).exec
          (.ofLaunch .hugeBlocks .hugeBlocks)
          schedule).exit = some (Execution.run .hugeBlocks).exit ∧
        (Execution.run .hugeBlocks).console = Launch.hugeBlocks.setUp.2.console
          ((first (started .hugeBlocks .hugeBlocks (opening .hugeBlocks))).exec
            (.ofLaunch .hugeBlocks .hugeBlocks) schedule).journal) ∧
    (((first .bare).exec .hugeBlocks PoolThread.bothFail).exit = some (.code 2) ∧
      ∃ fault? texts,
        CameTo .hugeBlocks ((first .bare).exec .hugeBlocks PoolThread.bothFail) fault? ∧
        ((first .bare).exec .hugeBlocks PoolThread.bothFail).texts = Stack.bare.texts ++ texts ∧
        Departs .failFast (true && showsCounters .threaded fault?) fault? (.code 2) texts) ∧
    ∃ (rounds : Nat) (exit : Exit),
      ((first .bare).exec .hugeBlocks
        (List.replicate rounds
          (PoolThread.all Orders.hugeBlocks.config.workers.toNat)).flatten).exit =
          some exit := by
  have hugeBlocks : Starts .hugeBlocks .hugeBlocks := ⟨rfl, rfl⟩
  have comes : ComesTo .hugeBlocks .hugeBlocks (opening .hugeBlocks)
      (some (.allocationFailed 1152921504606846976)) :=
    .hooked rfl (show (Thread.worker 0, _) ∈ _ by decide +kernel)
  have hugeThread : Starts .hugeThread [(.report, .given)] := ⟨rfl, rfl⟩
  have ended : ((first .bare).exec .hugeBlocks PoolThread.bothFail).exit = some (.code 2) := by
    decide +kernel
  have hhugeBlocks := process_departs_by_its_fault.1 _ _ _ hugeBlocks
  have hhugeThread := process_departs_by_its_fault.1 _ _ _ hugeThread
  have hpool := process_departs_by_its_fault.2 .hugeBlocks .bare
  refine ⟨⟨hugeBlocks, comes, hhugeBlocks.returned _ comes⟩,
    ⟨hugeThread, hhugeThread.unrouted _ _ rfl rfl⟩,
    hhugeBlocks.scheduled rfl (by decide) (by decide) (by decide) fun _ => .rfl,
    ⟨ended, (hpool.departs _ _ ended).resolve_left (by decide)⟩, ?_⟩
  obtain ⟨bound, ends⟩ := hpool.ends
  refine ⟨bound, ends _ (List.length_replicate ..).ge ?_⟩
  intro round hround
  rw [List.eq_of_mem_replicate hround]
  exact PoolThread.mem_all

end HeapFixtures
