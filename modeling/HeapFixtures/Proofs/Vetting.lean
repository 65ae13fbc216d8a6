/-
# Settings are vetted first

Every fixture looks at its settings before it does anything, and an argument that makes no sense
is reported then or never.  With settings that are turned down nothing at all has happened: the
state that comes back is the one that went in.  With settings that are accepted no request is for
zero bytes, which is the one kind of request that a heap turns down as an argument, so whatever
goes wrong later has another name.

The second part is about heaps with counting layers on top.  A gate may refuse with whatever fault
it likes.
-/

import HeapFixtures.Fixture.Vectors
import HeapFixtures.Proofs.Joining
import HeapFixtures.Proofs.Overrun
import HeapFixtures.Proofs.Recording

namespace HeapFixtures

/-- A result that does not complain about an argument. -/
def Blameless {α : Type} (result : Except Stop α) : Prop :=
  ∀ reason, result ≠ .error (.fault (.invalidArgument reason))

/-- A dealing that asks for a byte at least, or for none. -/
def Dealing.Sized : Dealing → Prop
  | .allocate _ size _ | .resize _ _ size _ => size ≠ 0
  | .release .. => True

/-- A call that asks for a byte at least, or for none. -/
def Call.Sized : Call → Prop
  | .allocate size _ | .resize _ size _ => size ≠ 0
  | .release _ => True

/-- The note of a dealing asks for as much as the dealing. -/
theorem Dealing.Sized.record {dealing : Dealing} (sized : dealing.Sized)
    {entry : Thread × Call} (h : dealing.record? = some entry) : entry.2.Sized := by
  obtain ⟨call, hcall, rfl⟩ := Option.map_eq_some_iff.1 h
  cases dealing with
  | allocate thread size answer =>
      obtain (fault | panic | exit) | block := answer
      · obtain rfl := Option.some.inj hcall
        exact sized
      · cases hcall
      · cases hcall
      · obtain rfl := Option.some.inj hcall
        exact sized
  | release thread block =>
      obtain rfl := Option.some.inj hcall
      trivial
  | resize thread block size answer =>
      obtain (fault | panic | exit) | fresh := answer
      · obtain rfl := Option.some.inj hcall
        exact sized
      · cases hcall
      · cases hcall
      · obtain rfl := Option.some.inj hcall
        exact sized

/-- Layers that only count. -/
def Plain (layers : List Layer) : Prop :=
  ∀ layer ∈ layers, ∃ counters, layer = .counting counters

namespace Blameless

variable {α β : Type}

theorem ok (value : α) : Blameless (.ok value : Except Stop α) := nofun

/-- Whether a stop complains does not depend on the answer that it stands in for. -/
theorem of_error {stop : Stop} (h : Blameless (.error stop : Except Stop α)) :
    Blameless (.error stop : Except Stop β) :=
  fun reason hstop => h reason (congrArg _ (Except.error.inj hstop))

theorem of_panic (panic : Panic) : Blameless (.error (.panic panic) : Except Stop α) := nofun

theorem of_exit (exit : Exit) : Blameless (.error (.exit exit) : Except Stop α) := nofun

theorem of_io (error : IoError) : Blameless (.error (.fault (.io error)) : Except Stop α) := nofun

theorem of_allocationFailed (size : UInt64) :
    Blameless (.error (.fault (.allocationFailed size)) : Except Stop α) := by
  intro reason h
  cases h

end Blameless

section Plain

variable {layers below : List Layer} {counters : Counters} {size : UInt64}

theorem plain_cons : Plain (.counting counters :: below) ↔ Plain below := by
  constructor
  · intro h layer hlayer
    exact h layer (List.mem_cons_of_mem _ hlayer)
  · intro h
    exact List.forall_mem_cons.2 ⟨⟨counters, rfl⟩, h⟩

/-- A layer that counts goes on counting. -/
theorem Changed.plain {change : Counters → Counters → Prop} {after : List Layer}
    (changed : Changed change layers after) (plain : Plain layers) : Plain after := by
  induction changed with
  | nil => exact plain
  | cons hd tl ih =>
      obtain ⟨⟨counters, rfl⟩, hbelow⟩ := List.forall_mem_cons.1 plain
      cases hd with
      | counting hchange => exact plain_cons.2 (ih hbelow)

theorem Stack.blameless_settle (block : Block) (counted : Option Panic × Counters) :
    Blameless (settle block counted) := by
  obtain ⟨_ | panic, counters⟩ := counted
  · exact .ok block
  · exact .of_panic panic

/-- A heap under counting layers turns down nothing but an empty request as an argument. -/
theorem Stack.blameless_allocateThrough (thread : Thread) (positive : size ≠ 0)
    (plain : Plain layers) (site : Site) :
    Blameless (allocateThrough thread size layers site).1 ∧
      Plain (allocateThrough thread size layers site).2.layers := by
  induction layers with
  | nil =>
      unfold allocateThrough Site.allocate
      rw [if_neg positive]
      rcases site.heap.grant size with ⟨_ | block, heap⟩
      · exact ⟨.of_allocationFailed size, plain⟩
      · exact ⟨.ok block, plain⟩
  | cons layer below ih =>
      obtain ⟨⟨counters, rfl⟩, hbelow⟩ := List.forall_mem_cons.1 plain
      obtain ⟨hblameless, hplain⟩ := ih hbelow
      unfold allocateThrough
      rcases hcall : allocateThrough thread size below site with ⟨stop | block, after⟩
      · rw [hcall] at hblameless hplain
        exact ⟨hblameless, plain_cons.2 hplain⟩
      · rw [hcall] at hplain
        exact ⟨blameless_settle _ _, plain_cons.2 hplain⟩

theorem Stack.blameless_resizeThrough (thread : Thread) (block : Block) (positive : size ≠ 0)
    (plain : Plain layers) (site : Site) :
    Blameless (resizeThrough thread block size layers site).1 ∧
      Plain (resizeThrough thread block size layers site).2.layers := by
  induction layers with
  | nil =>
      unfold resizeThrough Site.resize
      rw [if_neg positive]
      rcases site.heap.move block size with ⟨_ | fresh, heap⟩
      · exact ⟨.of_allocationFailed size, plain⟩
      · exact ⟨.ok fresh, plain⟩
  | cons layer below ih =>
      obtain ⟨⟨counters, rfl⟩, hbelow⟩ := List.forall_mem_cons.1 plain
      obtain ⟨hblameless, hplain⟩ := ih hbelow
      unfold resizeThrough
      rcases hcall : resizeThrough thread block size below site with
        ⟨(fault | panic | exit) | fresh, after⟩
      all_goals rw [hcall] at hblameless hplain
      · exact ⟨hblameless, plain_cons.2 hplain⟩
      · exact ⟨hblameless, plain_cons.2 hplain⟩
      · exact ⟨hblameless, plain_cons.2 hplain⟩
      · exact ⟨blameless_settle _ _, plain_cons.2 hplain⟩

end Plain

/-- A part of a call that asks for no empty block and, with counting layers alone on the heap,
does not complain about an argument. -/
structure Prudent {α : Type} (before : Stack) (result : Except Stop α) (after : Stack) : Prop where
  asks : ∃ dealings, before.History dealings after ∧ ∀ dealing ∈ dealings, dealing.Sized
  plain : Plain before.layers → Plain after.layers
  blameless : Plain before.layers → Blameless result

namespace Prudent

variable {α β : Type} {before between after : Stack} {result : Except Stop α} {stop : Stop}
  {thread : Thread} {size : UInt64} {block : Block} {answer : Except Stop Block}

/-- What happens beside the dealings is of no account. -/
theorem of_history (history : before.History [] after) (blameless : Blameless result) :
    Prudent before result after := by
  refine ⟨⟨[], history, List.forall_mem_nil _⟩, ?_, fun _ => blameless⟩
  generalize hnone : ([] : List Dealing) = dealings at history
  induction history with
  | nil => exact id
  | aside aside _ ih =>
      intro plain
      rw [← aside.1] at plain
      exact ih hnone plain
  | cons => cases hnone

theorem of_aside (aside : before.Aside after) (blameless : Blameless result) :
    Prudent before result after := of_history aside.history blameless

/-- One part of a call, and then another that has the last word. -/
theorem append {first : Except Stop β} (h : Prudent before first between)
    (h' : Prudent between result after) : Prudent before result after := by
  obtain ⟨dealings, history, sized⟩ := h.asks
  obtain ⟨further, history', sized'⟩ := h'.asks
  exact ⟨⟨dealings ++ further, history.append history', List.forall_mem_append.2 ⟨sized, sized'⟩⟩,
    fun plain => h'.plain (h.plain plain), fun plain => h'.blameless (h.plain plain)⟩

theorem aside (aside : before.Aside between) (h : Prudent between result after) :
    Prudent before result after :=
  (of_aside aside (.ok ())).append h

/-- A part of a call answers for the whole, after something has happened aside. -/
theorem answers {first : Except Stop β} (h : Prudent before first between)
    (aside : between.Aside after) (passesOn : Blameless first → Blameless result) :
    Prudent before result after := by
  obtain ⟨hasks, hplain, -⟩ := h.append (of_aside aside (.ok ()))
  exact ⟨hasks, hplain, fun plain => passesOn (h.blameless plain)⟩

/-- A part of a call passes its stop on to the whole. -/
theorem passOn (h : Prudent before (.error stop : Except Stop β) after) :
    Prudent before (.error stop : Except Stop α) after :=
  h.answers ⟨rfl, rfl, rfl⟩ Blameless.of_error

theorem allocate (h : before.allocate thread size = (answer, after)) (positive : size ≠ 0) :
    Prudent before answer after := by
  have hcall (plain : Plain before.layers) :=
    Stack.blameless_allocateThrough thread positive plain before.site
  unfold Stack.allocate at h
  rw [h] at hcall
  exact ⟨⟨_, .cons (.allocate h) (.nil after), List.forall_mem_singleton.2 positive⟩,
    fun plain => (hcall plain).2, fun plain => (hcall plain).1⟩

theorem resize (h : before.resize thread block size = (answer, after)) (positive : size ≠ 0) :
    Prudent before answer after := by
  have hcall (plain : Plain before.layers) :=
    Stack.blameless_resizeThrough thread block positive plain before.site
  unfold Stack.resize at h
  rw [h] at hcall
  exact ⟨⟨_, .cons (.resize h) (.nil after), List.forall_mem_singleton.2 positive⟩,
    fun plain => (hcall plain).2, fun plain => (hcall plain).1⟩

theorem release (before : Stack) (thread : Thread) (block : Block) :
    Prudent before (.ok ()) (before.release thread block) :=
  ⟨⟨_, .cons (.release thread block) (.nil _), List.forall_mem_singleton.2 trivial⟩,
    (Stack.releases thread block before.layers before.site).1.plain, fun _ => .ok ()⟩

/-- A pair asks for one block. -/
theorem pair (before : Stack) (thread : Thread) (positive : size ≠ 0) :
    Prudent before (before.pair thread size).1 (before.pair thread size).2 := by
  obtain ⟨block, between, hallocate, hpair⟩ | ⟨stop, between, hallocate, hpair⟩ :=
    before.pair_eq thread size
  · rw [hpair]
    exact (allocate hallocate positive).append (release between thread block)
  · rw [hpair]
    exact (allocate hallocate positive).passOn

end Prudent

namespace Growth

variable {config : Config} {sizes : List UInt64}

theorem prudent_growThrough (thread : Thread) (positive : ∀ size ∈ sizes, size ≠ 0)
    (block : Block) (stack : Stack) :
    Prudent stack (growThrough thread sizes block stack).1
      (growThrough thread sizes block stack).2 := by
  induction sizes generalizing block stack with
  | nil => exact .release stack thread block
  | cons size rest ih =>
      obtain ⟨hsize, hrest⟩ := List.forall_mem_cons.1 positive
      unfold growThrough
      rcases hcall : stack.resize thread block size with ⟨answer, after⟩
      cases answer with
      | ok fresh => exact (Prudent.resize hcall hsize).append (ih hrest fresh after)
      | error stop => exact (Prudent.resize hcall hsize).passOn

theorem prudent_grow (thread : Thread) (positive : ∀ size ∈ sizes, size ≠ 0) (stack : Stack) :
    Prudent stack (grow thread sizes stack).1 (grow thread sizes stack).2 := by
  cases sizes with
  | nil => exact .of_aside ⟨rfl, rfl, rfl⟩ (.ok ())
  | cons first rest =>
      obtain ⟨hfirst, hrest⟩ := List.forall_mem_cons.1 positive
      rcases hcall : stack.allocate thread first with ⟨answer, after⟩
      cases answer with
      | ok block =>
          simp only [grow, hcall]
          exact (Prudent.allocate hcall hfirst).append
            (prudent_growThrough thread hrest block after)
      | error stop =>
          simp only [grow, hcall]
          exact (Prudent.allocate hcall hfirst).passOn

theorem prudent_rounds (positive : ∀ size ∈ sizes, size ≠ 0) (left : Nat)
    (round requests : UInt64) (stack : Stack) :
    Prudent stack (rounds sizes left round requests stack).1
      (rounds sizes left round requests stack).2 := by
  induction left generalizing round requests stack with
  | zero => exact .of_aside ⟨rfl, rfl, rfl⟩ (.ok requests)
  | succ left ih =>
      have hgrow := prudent_grow .main positive stack
      unfold rounds
      rcases hcall : grow .main sizes stack with ⟨answer, after⟩
      rw [hcall] at hgrow
      cases answer with
      | error stop => exact hgrow.passOn
      | ok _ =>
          dsimp only
          split
          · exact hgrow.append (.of_aside ⟨rfl, rfl, rfl⟩ (.of_panic .addOverflow))
          · exact hgrow.append (.aside (Stack.aside_emit ..) (ih _ _ _))

/-- Every size of every round of accepted settings is a size. -/
theorem prudent_run (valid : config.validate = .ok ()) (stack : Stack) :
    Prudent stack (run config stack).1 (run config stack).2 := by
  unfold run
  rw [valid]
  exact .aside (Stack.aside_emit ..) (prudent_rounds (roundSizes_of_valid valid).2 _ _ _ _)

end Growth

namespace Workers

variable {config : Config} {size : UInt64}

theorem prudent_cycles (thread : Thread) (positive : size ≠ 0) (left : Nat) (stack : Stack) :
    Prudent stack (cycles thread size left stack).1 (cycles thread size left stack).2 := by
  induction left generalizing stack with
  | zero => exact .of_aside ⟨rfl, rfl, rfl⟩ (.ok ())
  | succ left ih =>
      have hpair := Prudent.pair stack thread positive
      unfold cycles
      rcases hcall : stack.pair thread size with ⟨answer, after⟩
      rw [hcall] at hpair
      cases answer with
      | ok _ => exact hpair.append (ih after)
      | error stop => exact hpair

theorem prudent_runWorker (thread : Thread) (index count : UInt64) (positive : size ≠ 0)
    (stack : Stack) :
    Prudent stack (runWorker thread index count size stack).1
      (runWorker thread index count size stack).2 := by
  have hannounced : stack.Aside (announced thread index count stack) := Stack.aside_emit ..
  have hcycles := prudent_cycles thread positive count.toNat (announced thread index count stack)
  rw [runWorker_eq]
  generalize cycles thread size count.toNat (announced thread index count stack) = called
    at hcycles ⊢
  obtain ⟨stop | _, after⟩ := called
  · exact .aside hannounced hcycles.passOn
  · exact .aside hannounced (hcycles.append (.of_aside ⟨rfl, rfl, rfl⟩ (.ok count)))

/-- The hook has no fault of its own to return. -/
def Hook.Faultless (hook : Hook) : Prop :=
  ∀ thread shown journal fault, (hook thread shown journal).1 ≠ some (.fault fault)

section Pool

variable {hook : Hook} {surroundings : Surroundings} {before : Stack}

/-- Showing a fault to the hook only writes to the journal. -/
theorem aside_present (pool : Pool) (hook : Hook) (thread : Thread) (fault : Fault) :
    pool.stack.Aside (pool.present hook thread fault).2.stack := ⟨rfl, rfl, rfl⟩

/-- What the hook does in place of returning is no complaint about an argument. -/
theorem Hook.Faultless.blameless {α : Type} (faultless : hook.Faultless) {pool : Pool}
    {thread : Thread} {fault : Fault} {stop : Stop}
    (h : (pool.present hook thread fault).1 = some stop) :
    Blameless (.error stop : Except Stop α) := by
  intro reason hreason
  obtain rfl := Except.error.inj hreason
  exact faultless _ _ _ _ h

theorem prudent_reportFailure (faultless : hook.Faultless) {pool : Pool} (index : Nat)
    (fault : Fault)
    (h : Prudent before (.error (.fault fault) : Except Stop UInt64) pool.stack) :
    Prudent before (reportFailure hook index fault pool).1
      (reportFailure hook index fault pool).2.stack := by
  simp only [reportFailure]
  generalize hnoted : pool.emit (.worker index.toUInt64) .error "worker failed"
    [("index", .word index.toUInt64), ("error", .shown fault.message)] = noted
  have hfailed : Prudent before (.error (.fault fault) : Except Stop UInt64) noted.stack :=
    h.answers (hnoted ▸ Stack.aside_emit ..) id
  have hshown := aside_present noted hook (.worker index.toUInt64) fault
  split
  · rcases hpresent : noted.present hook (.worker index.toUInt64) fault with ⟨_ | stop, after⟩
    · rw [hpresent] at hshown
      exact hfailed.answers hshown id
    · rw [hpresent] at hshown
      exact hfailed.answers hshown fun _ => faultless.blameless (congrArg Prod.fst hpresent)
  · exact hfailed

theorem prudent_work (faultless : hook.Faultless) (positive : config.blockSize ≠ 0) (pool : Pool)
    (index : Nat) :
    Prudent pool.stack (pool.work config hook index.toUInt64).1
      (pool.work config hook index.toUInt64).2.stack := by
  have hrun := prudent_runWorker (.worker index.toUInt64) index.toUInt64 config.cycles positive
    pool.stack
  rcases hcall : runWorker (.worker index.toUInt64) index.toUInt64 config.cycles config.blockSize
    pool.stack with ⟨(fault | panic | exit) | count, stack⟩
  all_goals
    rw [hcall] at hrun
    simp only [Pool.work, hcall]
  · exact prudent_reportFailure faultless index fault hrun
  · exact hrun
  · exact hrun
  · exact hrun

/-- All workers are prudent, and so are their outcomes. -/
theorem prudent_workAll (faultless : hook.Faultless) (positive : config.blockSize ≠ 0)
    (order : List Nat) (noted : Pool.Outcomes) (pool : Pool) :
    Prudent pool.stack (.ok () : Except Stop Unit)
        (Pool.workAll config hook order noted pool).2.stack ∧
      (Plain pool.stack.layers → (∀ entry ∈ noted, Blameless entry.2) →
        ∀ outcomes, (Pool.workAll config hook order noted pool).1 = .ok outcomes →
          ∀ entry ∈ outcomes, Blameless entry.2) := by
  induction order generalizing noted pool with
  | nil =>
      refine ⟨.of_aside ⟨rfl, rfl, rfl⟩ (.ok ()), ?_⟩
      intro _ hnoted outcomes houtcomes
      obtain rfl := Except.ok.inj houtcomes
      exact hnoted
  | cons index rest ih =>
      have hwork := prudent_work faultless positive pool index
      obtain ⟨hrest, hblameless⟩ := ih ((index, (pool.work config hook index.toUInt64).1) :: noted)
        (pool.work config hook index.toUInt64).2
      unfold Pool.workAll
      generalize pool.work config hook index.toUInt64 = called at hwork hrest hblameless ⊢
      obtain ⟨outcome, after⟩ := called
      split
      next exit _ hexit =>
        obtain ⟨rfl, rfl⟩ := Prod.mk.inj hexit
        exact ⟨hwork.answers ⟨rfl, rfl, rfl⟩ fun _ => .ok (), fun _ _ _ => nofun⟩
      next _ _ _ houtcome =>
        obtain ⟨rfl, rfl⟩ := Prod.mk.inj houtcome
        refine ⟨hwork.append hrest, ?_⟩
        intro plain hnoted
        exact hblameless (hwork.plain plain)
          (List.forall_mem_cons.2 ⟨hwork.blameless plain, hnoted⟩)

/-- The pool makes no complaint about an argument of outcomes that are none. -/
theorem failureAt_ne_invalidArgument {outcomes : Pool.Outcomes}
    (blameless : ∀ entry ∈ outcomes, Blameless entry.2) (index : Nat) (reason : String) :
    failureAt outcomes index ≠ some (.invalidArgument reason) := by
  intro h
  obtain ⟨outcome, hlookup, hfailure⟩ := Option.bind_eq_some_iff.1 h
  obtain ⟨_, _, hentry, -⟩ := List.lookup_eq_some_iff.1 hlookup
  have houtcome := blameless (index, outcome) (by rw [hentry]; simp)
  rcases outcome with (fault | panic | exit) | count
  · obtain rfl := Option.some.inj hfailure
    exact houtcome reason rfl
  · cases hfailure
  · cases hfailure
  · cases hfailure

theorem prudent_conclude (counts : List UInt64) (pool : Pool) :
    Prudent pool.stack (conclude counts pool).1 (conclude counts pool).2.stack := by
  unfold conclude
  dsimp only
  split
  · split
    · exact .of_aside ⟨rfl, rfl, rfl⟩ (.of_panic _)
    · exact .of_aside (Stack.aside_emit ..) (.ok _)
  · exact .of_aside ⟨rfl, rfl, rfl⟩ (.ok _)

theorem prudent_finish (faultless : surroundings.hook.Faultless) (positive : config.blockSize ≠ 0)
    (count : Nat) {first : Option Fault} (hfirst : ∀ reason, first ≠ some (.invalidArgument reason))
    (pool : Pool) :
    Prudent pool.stack (finish config surroundings count first pool).1
      (finish config surroundings count first pool).2.stack := by
  obtain ⟨hwork, hblameless⟩ :=
    prudent_workAll faultless positive (surroundings.order count) [] pool
  rcases hcall : Pool.workAll config surroundings.hook (surroundings.order count) [] pool with
    ⟨exit | outcomes, worked⟩
  · rw [hcall] at hwork
    simp only [finish, hcall]
    exact hwork.answers ⟨rfl, rfl, rfl⟩ fun _ => .of_exit exit
  · obtain ⟨joined, hjoined, -, heq⟩ := finish_eq first pool (congrArg Prod.fst hcall)
    rw [heq]
    split
    next fault hfault =>
      have hasks : Prudent pool.stack (.ok () : Except Stop Unit) joined.stack :=
        hwork.append (.of_history hjoined (.ok ()))
      refine ⟨hasks.asks, hasks.plain, ?_⟩
      rintro plain reason hreason
      obtain rfl := Stop.fault.inj (Except.error.inj hreason)
      rcases Option.or_eq_some_iff.1 hfault with hsome | ⟨-, hfound⟩
      · exact hfirst reason hsome
      · obtain ⟨index, -, hindex⟩ := List.exists_of_findSome?_eq_some hfound
        have hnone : ∀ entry ∈ ([] : Pool.Outcomes), Blameless entry.2 := List.forall_mem_nil _
        exact failureAt_ne_invalidArgument
          (hblameless plain hnone outcomes (congrArg Prod.fst hcall)) index reason hindex
    next =>
      exact (hwork.append (.of_history hjoined (.ok ()))).append (prudent_conclude _ joined)

/-- A thread that was refused is no argument either. -/
theorem reportRefusal_cases (faultless : hook.Faultless) (index : Nat) (error : IoError)
    (pool : Pool) :
    pool.stack.Aside (reportRefusal hook index error pool).2.stack ∧
      (∀ stop, (reportRefusal hook index error pool).1 = .error stop →
        Blameless (.error stop : Except Stop Summary)) ∧
      ∀ fault, (reportRefusal hook index error pool).1 = .ok fault →
        fault = .threadCreateFailed index.toUInt64 error := by
  simp only [reportRefusal]
  generalize hnoted : pool.emit .main .error "failed to spawn worker"
    [("index", .word index.toUInt64), ("error", .shown error.message)] = noted
  have haside : pool.stack.Aside noted.stack := hnoted ▸ Stack.aside_emit ..
  have hpresented : pool.stack.Aside
      (noted.present hook .main (.threadCreateFailed index.toUInt64 error)).2.stack := haside
  rcases hpresent : noted.present hook .main (.threadCreateFailed index.toUInt64 error) with
    ⟨_ | stop, after⟩
  · rw [hpresent] at hpresented
    refine ⟨hpresented, ?_, fun fault hfault => (Except.ok.inj hfault).symm⟩
    intro stop hstop
    cases hstop
  · rw [hpresent] at hpresented
    refine ⟨hpresented, ?_, ?_⟩
    · intro other hother
      obtain rfl := Except.error.inj hother
      exact faultless.blameless (congrArg Prod.fst hpresent)
    · intro fault hfault
      cases hfault

/-- A run of accepted settings, after its first event. -/
theorem run_of_valid (valid : config.validate = .ok ()) (stack : Stack) :
    run config surroundings stack =
      if !hasRoomForHandles config.workers then
        (.error (.panic .capacityOverflow), opened config stack)
      else if surroundings.lacks (handlesSize config.workers) then
        giveUp (handlesSize config.workers) (opened config stack)
      else
        match spawned surroundings.refusal config.workers.toNat 0 with
        | (count, none) => finish config surroundings count none (opened config stack)
        | (count, some error) =>
          match reportRefusal surroundings.hook count error (opened config stack) with
          | (.error stop, pool) => (.error stop, pool)
          | (.ok fault, pool) => finish config surroundings count (some fault) pool := by
  simp only [run, valid]
  rfl

theorem prudent_run (faultless : surroundings.hook.Faultless) (valid : config.validate = .ok ())
    (stack : Stack) :
    Prudent stack (run config surroundings stack).1 (run config surroundings stack).2.stack := by
  have positive : config.blockSize ≠ 0 := by
    intro hzero
    unfold Config.validate at valid
    rw [if_pos hzero] at valid
    split at valid
    · cases valid
    · split at valid <;> cases valid
  have hopened : stack.Aside (opened config stack).stack := Stack.aside_emit ..
  rw [run_of_valid valid]
  split
  · exact .of_aside hopened (.of_panic _)
  · split
    · exact .of_aside hopened (.of_exit _)
    · split
      next count hspawned =>
        have hnone (reason : String) : none ≠ some (Fault.invalidArgument reason) :=
          (Option.some_ne_none _).symm
        exact .aside hopened (prudent_finish faultless positive count hnone (opened config stack))
      next count error hspawned =>
        obtain ⟨hreported, hstop, hfault⟩ :=
          reportRefusal_cases faultless count error (opened config stack)
        generalize reportRefusal surroundings.hook count error (opened config stack) = called
          at hreported hstop hfault ⊢
        obtain ⟨stop | fault, pool⟩ := called
        · exact .aside hopened (.of_aside hreported (hstop stop rfl))
        · have hsome (reason : String) : some fault ≠ some (Fault.invalidArgument reason) := by
            rw [hfault fault rfl]
            exact fun h => nomatch h
          exact .aside hopened
            (.aside hreported (prudent_finish faultless positive count hsome pool))

end Pool
end Workers

namespace Sequential

variable {config : Config} {pauses : Pauses} {session : Session}

/-- The sink has its own errors. -/
theorem prudent_withSink (session : Session) (action : Sink → Except IoError Unit × Sink) :
    Prudent session.stack (session.withSink action).1 (session.withSink action).2.stack := by
  rw [withSink_eq]
  have haside : session.stack.Aside
      (Session.heedSink { session with sink := (action session.sink).2 }).stack := by
    unfold Session.heedSink
    split <;> exact ⟨rfl, rfl, rfl⟩
  refine .of_aside haside ?_
  cases (action session.sink).1 with
  | ok _ => exact .ok ()
  | error error => exact .of_io error

theorem prudent_step (session : Session) {size : UInt64} (positive : size ≠ 0) :
    Prudent session.stack (session.step size).1 (session.step size).2.stack := by
  have hpair := Prudent.pair session.stack .main positive
  unfold Session.step
  generalize session.stack.pair .main size = called at hpair ⊢
  obtain ⟨stop | _, stack⟩ := called
  · exact hpair
  · have hfirst := prudent_withSink { session with stack := stack }
      fun sink => sink.writeAll stepLine.toList
    have hline := hpair.append hfirst
    change Prudent session.stack (Session.write { session with stack := stack } stepLine).1
      (Session.write { session with stack := stack } stepLine).2.stack at hline
    dsimp only
    generalize Session.write { session with stack := stack } stepLine = first at hline ⊢
    obtain ⟨stop | _, between⟩ := first
    · exact hline
    · have hsecond := prudent_withSink between fun sink => sink.writeAll "\n".toList
      have hended := hline.append hsecond
      change Prudent session.stack (between.write "\n").1 (between.write "\n").2.stack at hended
      dsimp only
      generalize between.write "\n" = second at hended ⊢
      obtain ⟨stop | _, after⟩ := second
      · exact hended
      · exact hended.append (prudent_withSink after Sink.flush)

/-- What a turn comes to, as a result of its own. -/
def Turn.result : Turn → Except Stop Unit
  | .again _ | .ended .. => .ok ()
  | .stopped stop _ => .error stop

theorem prudent_paused {paused : Session} (aside : session.stack.Aside paused.stack) :
    Prudent session.stack
      (if paused.stopRequested then .ended .stopRequest paused else .again paused : Turn).result
      (if paused.stopRequested then .ended .stopRequest paused
        else .again paused : Turn).session.stack := by
  split <;> exact .of_aside aside (.ok ())

theorem prudent_afterStep (config : Config) (pauses : Pauses) (session : Session) :
    Prudent session.stack (afterStep config pauses session).result
      (afterStep config pauses session).session.stack := by
  unfold afterStep
  split
  · exact .of_aside ⟨rfl, rfl, rfl⟩ (.of_panic _)
  · rename_i completed _
    dsimp only
    generalize hemit : Session.emit { session with completed := completed } .debug "step written"
      [("iteration", .word completed)] = reported
    have haside : session.stack.Aside reported.stack := hemit ▸ Stack.aside_emit ..
    split
    · exact .of_aside haside (.ok ())
    · cases pauses completed with
      | none => exact prudent_paused haside
      | some signal =>
          have hreceives := receives_receive reported signal
          dsimp only
          generalize reported.receive signal = answer at hreceives ⊢
          cases hreceives with
          | ignored => exact prudent_paused haside
          | @heeded stack aside asked =>
              let heeded : Session := { reported with stack := stack }
              have hheeded : reported.stack.Aside heeded.stack := aside
              exact .aside haside (prudent_paused hheeded)
          | ended exit => exact .of_aside haside (.of_exit exit)

theorem prudent_turn (pauses : Pauses) (positive : config.blockSize ≠ 0) (session : Session) :
    Prudent session.stack (turn config pauses session).result
      (turn config pauses session).session.stack := by
  have hstep := prudent_step session positive
  unfold turn
  split
  · exact .of_aside ⟨rfl, rfl, rfl⟩ (.ok ())
  · split
    · exact .of_aside ⟨rfl, rfl, rfl⟩ (.ok ())
    · generalize session.step config.blockSize = called at hstep ⊢
      obtain ⟨stop | _, after⟩ := called
      · exact hstep
      · exact hstep.append (prudent_afterStep config pauses after)

theorem prudent_loop (pauses : Pauses) (positive : config.blockSize ≠ 0) (room : Nat)
    (session : Session) :
    Prudent session.stack (loop config pauses room session).1
      (loop config pauses room session).2.stack := by
  induction room generalizing session with
  | zero => exact .of_aside ⟨rfl, rfl, rfl⟩ (.of_panic _)
  | succ room ih =>
      have hturn := prudent_turn pauses positive session
      unfold loop
      generalize turn config pauses session = made at hturn ⊢
      cases made with
      | again next => exact hturn.append (ih next)
      | ended cause next =>
          exact hturn.append (.of_aside (Stack.aside_emit ..) (.ok _))
      | stopped stop next => exact hturn.passOn

theorem prudent_run (valid : config.validate = .ok ()) (pauses : Pauses) (stack : Stack)
    (sink : Sink) :
    Prudent stack (run config pauses stack sink).1 (run config pauses stack sink).2.stack := by
  have positive : config.blockSize ≠ 0 := by
    intro hzero
    rw [Config.validate, if_pos hzero] at valid
    cases valid
  have hstart : ∃ begun, start config stack sink = .ok begun ∧ stack.Aside begun.stack := by
    rw [start, valid]
    exact ⟨_, rfl, Stack.aside_emit ..⟩
  obtain ⟨begun, hbegun, haside⟩ := hstart
  rw [run, hbegun]
  exact .aside haside (prudent_loop pauses positive UInt64.size begun)

end Sequential

/-- What settings and the verdict on them have to do with a run. -/
structure Vetted {α : Type} (verdict : Except Fault Unit) (before : Stack)
    (result : Except Stop α) (after : Stack) (untouched : Prop) : Prop where
  /-- Settings that are turned down are reported as they are, and nothing else has happened. -/
  first : ∀ fault, verdict = .error fault →
    (∃ reason, fault = .invalidArgument reason) ∧ result = .error (.fault fault) ∧ untouched
  /-- No other argument is ever reported. -/
  exact : Plain before.layers → ∀ reason,
    result = .error (.fault (.invalidArgument reason)) ↔ verdict = .error (.invalidArgument reason)
  /-- With settings that are accepted no request is for zero bytes. -/
  sized : verdict = .ok () →
    ∃ dealings, before.History dealings after ∧ ∀ dealing ∈ dealings, dealing.Sized
  /-- So a recording layer on top never notes one. -/
  noted : verdict = .ok () → before.Records →
    ∃ entries, after.noted = before.noted ++ entries ∧ ∀ entry ∈ entries, entry.2.Sized

/-- A verdict that is given first and answered for, and a run that is prudent after it. -/
theorem vetted_of_prudent {α : Type} {verdict : Except Fault Unit} {before after : Stack}
    {result : Except Stop α} {untouched : Prop}
    (argument : ∀ fault, verdict = .error fault → ∃ reason, fault = .invalidArgument reason)
    (rejected : ∀ fault, verdict = .error fault → result = .error (.fault fault) ∧ untouched)
    (accepted : verdict = .ok () → Prudent before result after) :
    Vetted verdict before result after untouched := by
  constructor
  case first =>
    intro fault hfault
    exact ⟨argument fault hfault, rejected fault hfault⟩
  case exact =>
    intro plain reason
    constructor
    · intro hresult
      cases verdict with
      | ok _ => exact absurd hresult ((accepted rfl).blameless plain reason)
      | error fault =>
          rw [(rejected fault rfl).1] at hresult
          rw [Stop.fault.inj (Except.error.inj hresult)]
    · intro hverdict
      exact (rejected _ hverdict).1
  case sized =>
    intro hverdict
    exact (accepted hverdict).asks
  case noted =>
    intro hverdict records
    obtain ⟨dealings, history, sized⟩ := (accepted hverdict).asks
    refine ⟨_, (history.noted records).2, fun entry hentry => ?_⟩
    obtain ⟨dealing, hdealing, hrecord⟩ := List.mem_filterMap.1 hentry
    exact (sized dealing hdealing).record hrecord

section Settings

variable {fault : Fault}

theorem Sequential.argument_of_validate {config : Sequential.Config}
    (h : config.validate = .error fault) : ∃ reason, fault = .invalidArgument reason := by
  unfold Sequential.Config.validate at h
  split at h
  · exact ⟨_, (Except.error.inj h).symm⟩
  · split at h
    · exact ⟨_, (Except.error.inj h).symm⟩
    · cases h

theorem Workers.argument_of_validate {config : Workers.Config}
    (h : config.validate = .error fault) : ∃ reason, fault = .invalidArgument reason := by
  unfold Workers.Config.validate at h
  split at h
  · exact ⟨_, (Except.error.inj h).symm⟩
  · split at h
    · exact ⟨_, (Except.error.inj h).symm⟩
    · split at h
      · exact ⟨_, (Except.error.inj h).symm⟩
      · cases h

theorem Growth.argument_of_validate {config : Growth.Config}
    (h : config.validate = .error fault) : ∃ reason, fault = .invalidArgument reason := by
  unfold Growth.Config.validate at h
  split at h
  · exact ⟨_, (Except.error.inj h).symm⟩
  · split at h
    · exact ⟨_, (Except.error.inj h).symm⟩
    · split at h
      · exact ⟨_, (Except.error.inj h).symm⟩
      · cases h

theorem Vectors.argument_of_validate {config : Vectors.Config}
    (h : config.validate = .error fault) : ∃ reason, fault = .invalidArgument reason := by
  unfold Vectors.Config.validate at h
  split at h
  · exact ⟨_, (Except.error.inj h).symm⟩
  · split at h
    · exact ⟨_, (Except.error.inj h).symm⟩
    · cases h

end Settings

namespace Vectors

/-- Two heaps that differ at most in what they answer to requests for nothing. -/
def SameButForNothing (heap other : Heap) : Prop :=
  ∃ grants : Nat → UInt64 → Bool,
    (∀ number size, size ≠ 0 → grants number size = heap.grants number size) ∧
      other = { heap with grants := grants }

theorem SameButForNothing.grant {heap other : Heap} (same : SameButForNothing heap other)
    {size : UInt64} (positive : size ≠ 0) :
    (other.grant size).1 = (heap.grant size).1 ∧
      SameButForNothing (heap.grant size).2 (other.grant size).2 := by
  obtain ⟨grants, hgrants, rfl⟩ := same
  have hsame := hgrants heap.requests size positive
  by_cases granted : heap.grants heap.requests size = true
  · simp only [Heap.grant, hsame, if_pos granted]
    exact ⟨trivial, grants, hgrants, rfl⟩
  · simp only [Heap.grant, hsame, if_neg granted]
    exact ⟨trivial, grants, hgrants, rfl⟩

/-- Vectors are built without a request for nothing. -/
theorem build_congr {heap other : Heap} (same : SameButForNothing heap other) (size : UInt64)
    (left : Nat) : (build size left other).1 = (build size left heap).1 := by
  induction left generalizing heap other with
  | zero => rfl
  | succ left ih =>
      unfold build
      by_cases hsize : size = 0
      · rw [if_pos hsize, if_pos hsize]
        exact ih same
      · obtain ⟨hfirst, hsecond⟩ := same.grant hsize
        rw [if_neg hsize, if_neg hsize]
        generalize heap.grant size = called at hfirst hsecond ⊢
        generalize other.grant size = called' at hfirst hsecond ⊢
        obtain ⟨block?, after⟩ := called
        obtain ⟨block?', after'⟩ := called'
        obtain rfl : block?' = block? := hfirst
        cases block?' with
        | none => rfl
        | some block =>
            obtain ⟨grants, hgrants, rfl⟩ := hsecond
            exact ih ⟨grants, hgrants, rfl⟩

/-- A vector that is not built is a matter of memory. -/
theorem fault_of_build {size : UInt64} {left : Nat} {heap : Heap} {fault : Fault}
    (h : (build size left heap).1 = .error fault) : fault = .allocationFailed size := by
  induction left generalizing heap with
  | zero => cases h
  | succ left ih =>
      unfold build at h
      split at h
      · exact ih h
      · split at h
        · exact ih h
        · exact (Except.error.inj h).symm

/-- Vectors are vetted like everything else, on any heap. -/
theorem run_vetted (config : Config) (heap : Heap) (journal : Log.Journal) :
    (∀ fault, config.validate = .error fault →
        (∃ reason, fault = .invalidArgument reason) ∧
          run config heap journal = (.error (.fault fault), journal)) ∧
      (∀ reason, (run config heap journal).1 = .error (.fault (.invalidArgument reason)) ↔
        config.validate = .error (.invalidArgument reason)) ∧
      ∀ other, SameButForNothing heap other →
        run config other journal = run config heap journal := by
  refine ⟨?_, ?_, ?_⟩
  · intro fault hfault
    refine ⟨argument_of_validate hfault, ?_⟩
    rw [run, hfault]
  · intro reason
    cases hverdict : config.validate with
    | error fault =>
        rw [run, hverdict]
        simp
    | ok _ =>
        refine iff_of_false ?_ nofun
        rw [run, hverdict]
        dsimp only
        split
        · exact nofun
        · rename_i fault hbuild
          rw [fault_of_build hbuild]
          exact fun h => nomatch h
  · intro other same
    simp only [run, build_congr same]

end Vectors

/-- On a heap with counting layers a fixture reports an argument exactly if its settings are turned
down, as they are turned down, and then its state is what it was before.  With settings that are
accepted it asks for no empty block.  The hook of a pool is told of faults and has none of its own
to return. -/
theorem settings_are_vetted_first (stack : Stack) :
    (∀ (config : Sequential.Config) pauses sink,
        Vetted config.validate stack (Sequential.run config pauses stack sink).1
          (Sequential.run config pauses stack sink).2.stack
          ((Sequential.run config pauses stack sink).2 = ⟨stack, sink, 0⟩)) ∧
      (∀ (config : Workers.Config) (surroundings : Workers.Surroundings),
        surroundings.hook.Faultless →
          Vetted config.validate stack (Workers.run config surroundings stack).1
            (Workers.run config surroundings stack).2.stack
            ((Workers.run config surroundings stack).2 = ⟨stack, #[]⟩)) ∧
      (∀ config : Growth.Config,
        Vetted config.validate stack (Growth.run config stack).1 (Growth.run config stack).2
          ((Growth.run config stack).2 = stack)) ∧
      ∀ (config : Vectors.Config) heap journal,
        (∀ fault, config.validate = .error fault →
            (∃ reason, fault = .invalidArgument reason) ∧
              Vectors.run config heap journal = (.error (.fault fault), journal)) ∧
          (∀ reason,
            (Vectors.run config heap journal).1 = .error (.fault (.invalidArgument reason)) ↔
              config.validate = .error (.invalidArgument reason)) ∧
          ∀ other, Vectors.SameButForNothing heap other →
            Vectors.run config other journal = Vectors.run config heap journal := by
  refine ⟨?_, ?_, ?_, Vectors.run_vetted⟩
  · intro config pauses sink
    refine vetted_of_prudent (fun _ => Sequential.argument_of_validate) ?_
      fun valid => Sequential.prudent_run valid pauses stack sink
    intro fault hfault
    rw [Sequential.run, Sequential.start, hfault]
    exact ⟨rfl, rfl⟩
  · intro config surroundings faultless
    refine vetted_of_prudent (fun _ => Workers.argument_of_validate) ?_
      fun valid => Workers.prudent_run faultless valid stack
    intro fault hfault
    rw [Workers.run, hfault]
    exact ⟨rfl, rfl⟩
  · intro config
    refine vetted_of_prudent (fun _ => Growth.argument_of_validate) ?_
      fun valid => Growth.prudent_run valid stack
    intro fault hfault
    rw [Growth.run, hfault]
    exact ⟨rfl, rfl⟩

/-- Two counting layers on the system's heap. -/
def Stack.countedTwice : Stack :=
  ⟨[.counting .zero, .counting .zero], .fresh .system (.start .silent)⟩

theorem Stack.plain_countedTwice : Plain Stack.countedTwice.layers := by
  simp [Plain, countedTwice]

/-- A pool without workers is turned down as such, and rounds that can be run with ask for no empty
block. -/
theorem pool_without_workers_is_turned_down :
    Plain Stack.countedTwice.layers ∧ Workers.Surroundings.plain.hook.Faultless ∧
      Workers.run ⟨0, 2, 16⟩ .plain .countedTwice =
        (.error (.fault (.invalidArgument "worker count must be non-zero")), ⟨.countedTwice, #[]⟩) ∧
      (Sequential.Config.validate ⟨0, ⟨0, 0⟩, some 2⟩ = .error .zeroSize ∧
        (Sequential.run ⟨0, ⟨0, 0⟩, some 2⟩ .quiet .countedTwice .full).2 =
          ⟨.countedTwice, .full, 0⟩) ∧
      (Growth.Config.validate ⟨1, 8, 64⟩ = .ok () ∧ ∃ dealings,
        Stack.countedTwice.History dealings (Growth.run ⟨1, 8, 64⟩ .countedTwice).2 ∧
          ∀ dealing ∈ dealings, dealing.Sized) ∧
      ∀ reason,
        (Vectors.run ⟨2, 16⟩ .system (.start .silent)).1 ≠
          .error (.fault (.invalidArgument reason)) := by
  have faultless : Workers.Surroundings.plain.hook.Faultless := fun _ _ _ _ h => nomatch h
  obtain ⟨hsequential, hworkers, hgrowth, hvectors⟩ := settings_are_vetted_first .countedTwice
  obtain ⟨-, hpool, huntouched⟩ := (hworkers ⟨0, 2, 16⟩ .plain faultless).first _ rfl
  refine ⟨Stack.plain_countedTwice, faultless, Prod.ext hpool huntouched, ⟨rfl, ?_⟩, ⟨rfl, ?_⟩, ?_⟩
  · exact ((hsequential ⟨0, ⟨0, 0⟩, some 2⟩ .quiet .full).first _ rfl).2.2
  · exact (hgrowth ⟨1, 8, 64⟩).sized rfl
  · intro reason hreason
    have hverdict := ((hvectors ⟨2, 16⟩ .system (.start .silent)).2.1 reason).1 hreason
    cases hverdict

end HeapFixtures
