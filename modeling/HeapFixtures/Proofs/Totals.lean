/-
# The total of a pool

The one thing that a filter can change is the end of a pool.  There the cycles of all workers
are added up for an event, and only where the event is written.  If the sum is no word, the pool
panics for those who listen and returns its summary to all others.

This is a matter of pools whose workers have all completed.  On a heap that refuses nothing
they do, so a pool of two workers with half of all words for cycles each is such a pool.
-/

import HeapFixtures.Proofs.PolicyExit
import HeapFixtures.Proofs.Joining
import HeapFixtures.Proofs.Listening

namespace HeapFixtures

/-- A sum of words is the sum of their numbers. -/
theorem Word.toNat_of_foldlM_add? {words : List UInt64} {first total : UInt64}
    (h : words.foldlM Word.add? first = some total) :
    total.toNat = first.toNat + (words.map UInt64.toNat).sum := by
  induction words generalizing first with
  | nil =>
      obtain rfl := Option.some.inj h
      rfl
  | cons word words ih =>
      rw [List.foldlM_cons] at h
      obtain ⟨next, hnext, hrest⟩ := Option.bind_eq_some_iff.1 h
      rw [ih hrest, Word.toNat_of_add? hnext, List.map_cons, List.sum_cons, Nat.add_assoc]

namespace Workers

/-- A hook that takes the process down by a policy is discreet. -/
theorem Hook.discreet_ofPolicy (policy : Policy) : (Hook.ofPolicy policy).Discreet := by
  intro thread fault
  unfold Hook.ofPolicy Policy.handle
  by_cases aborts : policy.abortsOn fault = true
  · simp only [if_pos aborts]
    exact ⟨_, [.event ⟨thread, .error, .fault, "fixture aborting",
      [("error", .shown fault.message)]⟩], fun _ => rfl⟩
  · simp only [if_neg aborts]
    exact ⟨_, [.event ⟨thread, .error, .fault, "fixture failed",
      [("error", .shown fault.message), ("code", .word fault.exitCode.toUInt64)]⟩,
      .printed ("fatal: " ++ fault.message)], fun _ => rfl⟩

/-- The result of a run shows whether the last event is written. -/
theorem fst_conclude (cycles : List UInt64) (pool : Pool) :
    (conclude cycles pool).1 =
      totalled (writesTotal (conclude cycles pool).2.stack.site.journal.filter)
        (.ok ⟨cycles⟩) := by
  rw [conclude_eq]
  dsimp only
  split
  next total _ =>
    unfold Pool.emit Stack.emit Site.emit
    rw [Log.Journal.filter_emit]
  next => rfl

/-- Nothing happens at the end of a run but an event. -/
theorem aside_conclude (cycles : List UInt64) (pool : Pool) :
    pool.stack.History [] (conclude cycles pool).2.stack ∧
      (conclude cycles pool).2.shown = pool.shown := by
  rw [conclude_eq]
  dsimp only
  split
  · exact ⟨(Stack.aside_emit ..).history, rfl⟩
  · exact ⟨.nil _, rfl⟩

/-- A total that is a word is not noticed. -/
theorem totalled_ok {summary : Summary} (written : Bool)
    (fits : (summary.cycles.map UInt64.toNat).sum < UInt64.size) :
    totalled written (.ok summary) = .ok summary := by
  obtain ⟨total, htotal⟩ := Word.exists_foldlM_add? summary.cycles 0 (by simpa using fits)
  have htotal' : summary.totalCycles = .ok total := by
    rw [Summary.totalCycles, Word.sum?, htotal]
  simp only [totalled, htotal', ite_self]

/-- A total that is no word is a panic to those who listen. -/
theorem totalled_exceeding {summary : Summary} (written : Bool)
    (exceeds : UInt64.size ≤ (summary.cycles.map UInt64.toNat).sum) :
    totalled written (.ok summary) =
      if written then .error (.panic .addOverflow) else .ok summary := by
  have hnone : Word.sum? summary.cycles = none := by
    rw [Word.sum?, Option.eq_none_iff_forall_ne_some]
    intro total htotal
    have hsum := Word.toNat_of_foldlM_add? htotal
    have hlt := total.toNat_lt
    rw [show (0 : UInt64).toNat = 0 from rfl] at hsum
    simp only [UInt64.size] at exceeds
    omega
  have hpanic : summary.totalCycles = .error .addOverflow := by
    rw [Summary.totalCycles, hnone]
  simp only [totalled, hpanic]

/-- A run of workers that have all completed comes to their cycles, up to the total; any other
comes back with a fault. -/
theorem answers_finish (config : Config) {surroundings : Surroundings} {count : Nat}
    (tame : Tame surroundings.hook) (order : (surroundings.order count).Perm (List.range count))
    (first : Option Fault) (pool : Pool) :
    let ended := finish config surroundings count first pool
    ∃ reports, reports.map Report.index = surroundings.order count ∧
      Worked config surroundings.hook pool reports ended.2 ∧
      (∀ fault ∈ first, ended.1 = .error (.fault fault)) ∧
      (first = none → (∀ report ∈ reports, report.fate = .completed) →
        ended.1 = totalled (writesTotal ended.2.stack.site.journal.filter)
          (.ok ⟨List.replicate count config.cycles⟩)) ∧
      ((∃ report ∈ reports, report.fate ≠ .completed) →
        ∃ fault, ended.1 = .error (.fault fault)) := by
  intro ended
  have once : (surroundings.order count).Nodup := order.nodup_iff.2 List.nodup_range
  obtain ⟨reports, outcomes, hok, hmap, worked, entered, -⟩ :=
    exists_workAll tame config once [] pool
  have covers := covers_of_perm hmap order
  have hnone : (List.range count).findSome? (failureAt outcomes) = none ↔
      ∀ report ∈ reports, report.fate = .completed :=
    firstFailure_eq_none_iff (fun _ => failureAt_of_entered entered) covers
  obtain ⟨joined, haside, hshown, heq⟩ := finish_eq first pool hok
  have hjoined := worked.aside haside hshown
  change ended = _ at heq
  rcases hfirst : first.or ((List.range count).findSome? (failureAt outcomes)) with _ | fault
  · obtain ⟨rfl, hfound⟩ := Option.or_eq_none_iff.1 hfirst
    have completed := hnone.1 hfound
    rw [hfirst, filterMap_cyclesAt entered covers completed] at heq
    have hended : Worked config surroundings.hook pool reports ended.2 := by
      rw [heq]
      exact hjoined.aside (aside_conclude _ joined).1 (aside_conclude _ joined).2
    refine ⟨reports, hmap, hended, nofun, ?_, ?_⟩
    · intro _ _
      rw [heq]
      exact fst_conclude _ joined
    · rintro ⟨report, hreport, failed⟩
      exact absurd (completed report hreport) failed
  · rw [hfirst] at heq
    rw [heq]
    refine ⟨reports, hmap, hjoined, ?_, ?_, fun _ => ⟨fault, rfl⟩⟩
    · intro other hother
      rw [Option.mem_def.1 hother] at hfirst
      rw [Option.some.inj hfirst]
    · rintro rfl completed
      rw [hnone.2 completed] at hfirst
      cases hfirst

end Workers

/-- A request for a size that is not zero was granted. -/
def Dealing.Generous : Dealing → Prop
  | .allocate _ size answer | .resize _ _ size answer => size ≠ 0 → ∃ block, answer = .ok block
  | .release .. => True

/-- A stack without layers, on a heap that refuses nothing. -/
structure Stack.Lavish (stack : Stack) : Prop where
  bare : stack.layers = []
  grants : ∀ number size, stack.site.heap.grants number size = true

section Lavish

variable {stack after : Stack} {dealing : Dealing} {dealings : List Dealing}

theorem Heap.grants_grant (heap : Heap) (size : UInt64) :
    (heap.grant size).2.grants = heap.grants := by
  unfold grant
  split <;> rfl

theorem Heap.grants_move (heap : Heap) (block : Block) (size : UInt64) :
    (heap.move block size).2.grants = heap.grants := by
  have hgrant := heap.grants_grant size
  unfold move
  generalize heap.grant size = called at hgrant ⊢
  obtain ⟨_ | fresh, granted⟩ := called <;> exact hgrant

theorem Site.grants_resize (site : Site) (thread : Thread) (block : Block) (size : UInt64) :
    (site.resize thread block size).2.heap.grants = site.heap.grants := by
  have hmove := site.heap.grants_move block size
  unfold resize
  split
  · rw [Site.heap_release]
    rfl
  · generalize site.heap.move block size = called at hmove ⊢
    obtain ⟨_ | fresh, moved⟩ := called
    · exact hmove
    · rw [Site.heap_mention]
      exact hmove

/-- A heap that refuses nothing moves a block to any size but zero. -/
theorem Site.exists_resize {site : Site}
    (grants : ∀ number size, site.heap.grants number size = true) (thread : Thread) (block : Block)
    {size : UInt64} (positive : size ≠ 0) :
    ∃ fresh, (site.resize thread block size).1 = .ok fresh := by
  unfold resize Heap.move Heap.grant
  rw [if_neg positive, grants]
  exact ⟨_, rfl⟩

/-- A heap that refuses nothing goes on to do so. -/
theorem Stack.Lavish.serves (lavish : stack.Lavish) (served : stack.Serves dealing after) :
    after.Lavish ∧ dealing.Generous := by
  obtain ⟨layers, site⟩ := stack
  obtain ⟨rfl, grants⟩ := lavish
  dsimp only at grants
  cases served with
  | @allocate thread size answer after served =>
      unfold Stack.allocate allocateThrough Site.allocate Heap.grant at served
      dsimp only at served
      rw [grants] at served
      by_cases zero : size = 0
      · rw [if_pos zero] at served
        obtain ⟨rfl, rfl⟩ := served
        exact ⟨⟨rfl, grants⟩, fun positive => absurd zero positive⟩
      · rw [if_neg zero] at served
        obtain ⟨rfl, rfl⟩ := served
        refine ⟨⟨rfl, ?_⟩, fun _ => ⟨_, rfl⟩⟩
        rw [Site.heap_mention]
        exact grants
  | release thread block =>
      refine ⟨⟨rfl, ?_⟩, trivial⟩
      show ∀ number size, (site.release thread block).heap.grants number size = true
      rw [Site.heap_release]
      exact grants
  | @resize thread block size answer after served =>
      have hresize (positive : size ≠ 0) := Site.exists_resize grants thread block positive
      have hgrants := site.grants_resize thread block size
      rw [← hgrants] at grants
      unfold Stack.resize resizeThrough at served
      dsimp only at served
      generalize site.resize thread block size = called at served grants hresize
      obtain ⟨fault | fresh, last⟩ := called
      · obtain ⟨-, rfl⟩ := served
        refine ⟨⟨rfl, grants⟩, fun positive => ?_⟩
        obtain ⟨fresh, hfresh⟩ := hresize positive
        cases hfresh
      · obtain ⟨rfl, rfl⟩ := served
        exact ⟨⟨rfl, grants⟩, fun _ => ⟨fresh, rfl⟩⟩

theorem Stack.Lavish.history (lavish : stack.Lavish) (history : stack.History dealings after) :
    ∀ dealing ∈ dealings, dealing.Generous := by
  induction history with
  | nil => exact List.forall_mem_nil _
  | aside aside rest ih =>
      obtain ⟨hlayers, hheap, -⟩ := aside
      exact ih ⟨hlayers.trans lavish.bare, by rw [hheap]; exact lavish.grants⟩
  | cons served rest ih =>
      obtain ⟨hafter, generous⟩ := lavish.serves served
      exact List.forall_mem_cons.2 ⟨generous, ih hafter⟩

end Lavish

namespace Workers

variable {thread : Thread} {size : UInt64} {left : Nat} {dealings : List Dealing} {fate : Fate}

/-- A worker whose requests are all granted completes. -/
theorem Performs.completed (performs : Performs thread size left dealings fate)
    (positive : size ≠ 0) (generous : ∀ dealing ∈ dealings, dealing.Generous) :
    fate = .completed := by
  induction performs with
  | done => rfl
  | cycle block rest ih =>
      exact ih fun dealing hdealing =>
        generous dealing (List.mem_cons_of_mem _ (List.mem_cons_of_mem _ hdealing))
  | failed left fault | panicked left panic =>
      obtain ⟨block, hblock⟩ := generous _ List.mem_cons_self positive
      cases hblock

/-- A worker that met no failure ends with none. -/
theorem Fate.Becomes.eq_completed {hook : Hook} {met fate : Fate}
    (becomes : met.Becomes hook thread fate) (completed : met = .completed) :
    fate = .completed := by
  subst completed
  cases becomes
  rfl

end Workers

/-- A stack with a journal of its own, before its first entry. -/
def Stack.heard (stack : Stack) (filter : Log.Filter) : Stack :=
  { stack with site := { stack.site with journal := .start filter } }

theorem Stack.isFiltered_heard (stack : Stack) (filters : Log.FilterPair) :
    (stack.heard filters.quiet).IsFiltered filters (stack.heard filters.loud) :=
  .intro stack.layers
    (.intro stack.site.heap stack.site.calls stack.site.stopRequested (.start filters))

namespace Workers

/-- The filter of a pool is that of its journal from first to last. -/
theorem filter_run_heard (config : Config) (surroundings : Surroundings)
    (discreet : surroundings.hook.Discreet) (stack : Stack) (filter : Log.Filter) :
    (run config surroundings (stack.heard filter)).2.stack.site.journal.filter = filter := by
  let filters : Log.FilterPair := ⟨filter, filter, fun _ passes => passes⟩
  exact (parts_run config discreet (stack.isFiltered_heard filters)).pools.journal.quiet_eq

/-- On a heap that refuses nothing a pool that can be started completes, up to the total. -/
theorem fst_run_of_lavish (config : Config) {stack : Stack} (valid : config.validate = .ok ())
    (room : hasRoomForHandles config.workers = true) (positive : config.blockSize ≠ 0)
    (lavish : stack.Lavish) (filter : Log.Filter) :
    (run config .plain (stack.heard filter)).1 =
      totalled (writesTotal filter) (.ok ⟨List.replicate config.workers.toNat config.cycles⟩) := by
  have hfilter := filter_run_heard config .plain Hook.discreet_none stack filter
  have hrun : run config .plain (stack.heard filter) =
      finish config .plain config.workers.toNat none (opened config (stack.heard filter)) := by
    have hplain : Surroundings.plain.lacks (handlesSize config.workers) = false := rfl
    rw [run_eq valid room hplain, spawned_all fun _ _ => rfl]
  rw [hrun] at hfilter ⊢
  have tame : Tame Surroundings.plain.hook := fun _ _ _ _ h => nomatch h
  obtain ⟨reports, -, worked, -, hcompleted, -⟩ := answers_finish config tame
    (List.Perm.refl (List.range config.workers.toNat)) none (opened config (stack.heard filter))
  have hopened : (opened config (stack.heard filter)).stack.Lavish :=
    ⟨lavish.bare, lavish.grants⟩
  have generous := hopened.history worked.history
  have completed : ∀ report ∈ reports, report.fate = .completed := by
    intro report hreport
    apply (worked.becomes report hreport).eq_completed
    apply (worked.performs report hreport).completed positive
    intro dealing hdealing
    exact generous dealing (List.mem_flatMap.2 ⟨report, hreport, hdealing⟩)
  have hanswer := hcompleted rfl completed
  rwa [hfilter] at hanswer

end Workers

/-- The last event of a pool is written, and the total that it needs is no word. -/
def Workers.Unsummed (filter : Log.Filter) (result : Except Stop Summary) : Prop :=
  writesTotal filter = true ∧
    ∃ summary, result = .ok summary ∧ UInt64.size ≤ (summary.cycles.map UInt64.toNat).sum

/-- A total is noticed by those alone who listen to the last event. -/
theorem Workers.Parts.eq_iff {filters : Log.FilterPair} {quiet loud : Except Stop Summary × Pool}
    (parts : Parts filters quiet loud) :
    (loud.1 = quiet.1 ↔ ¬ Unsummed filters.loud quiet.1) ∧
      (Unsummed filters.loud quiet.1 → loud.1 = .error (.panic .addOverflow)) := by
  have hwithin : writesTotal filters.quiet = true → writesTotal filters.loud = true :=
    filters.within (.event ⟨.main, .info, .workers, "", totals ⟨[]⟩ 0⟩)
  cases parts with
  | intro result pools =>
      cases result with
      | error stop =>
          have hsummed : ¬ Unsummed filters.loud (.error stop) := by
            rintro ⟨-, summary, hnone, -⟩
            cases hnone
          exact ⟨iff_of_true rfl hsummed, fun unsummed => absurd unsummed hsummed⟩
      | ok summary =>
          by_cases fits : (summary.cycles.map UInt64.toNat).sum < UInt64.size
          · have hsummed : ¬ Unsummed filters.loud (.ok summary) := by
              rintro ⟨-, other, hother, exceeds⟩
              obtain rfl := Except.ok.inj hother
              exact absurd fits (Nat.not_lt.2 exceeds)
            rw [totalled_ok _ fits, totalled_ok _ fits]
            exact ⟨iff_of_true rfl hsummed, fun unsummed => absurd unsummed hsummed⟩
          · have exceeds := Nat.not_lt.1 fits
            rw [totalled_exceeding _ exceeds, totalled_exceeding _ exceeds]
            by_cases hloud : writesTotal filters.loud = true
            · rw [if_pos hloud]
              refine ⟨?_, fun _ => rfl⟩
              by_cases hquiet : writesTotal filters.quiet = true
              · rw [if_pos hquiet]
                refine iff_of_true rfl ?_
                rintro ⟨-, summary, hnone, -⟩
                cases hnone
              · rw [if_neg hquiet]
                exact iff_of_false nofun (not_not_intro ⟨hloud, summary, rfl, exceeds⟩)
            · have hquiet : ¬ writesTotal filters.quiet = true := fun h => hloud (hwithin h)
              have hsummed : ¬ Unsummed filters.loud (.ok summary) := fun h => hloud h.1
              rw [if_neg hloud, if_neg hquiet]
              exact ⟨iff_of_true rfl hsummed, fun unsummed => absurd unsummed hsummed⟩

/-- Of two filters one lets nothing through that the other holds back.  Each fixture comes to the
same with both of them: the results are equal, and so is everything that is left, but for the
entries of the journal, and of these the quiet filter has kept those that it lets through.

A pool does so as well, with a hook that says the same whatever was said before, up to one thing:
where all its workers have completed, and the total of their cycles is no word, it panics with the
filter that lets its last event through, and returns with one that does not. -/
theorem filters_change_the_journal (filters : Log.FilterPair) (stack : Stack) :
    (∀ config pauses sink, InStep (Sequential.Session.IsFiltered filters)
        (Sequential.run config pauses (stack.heard filters.quiet) sink)
        (Sequential.run config pauses (stack.heard filters.loud) sink)) ∧
      (∀ thread index count size, InStep (Stack.IsFiltered filters)
        (Workers.runWorker thread index count size (stack.heard filters.quiet))
        (Workers.runWorker thread index count size (stack.heard filters.loud))) ∧
      (∀ config, InStep (Stack.IsFiltered filters) (Growth.run config (stack.heard filters.quiet))
        (Growth.run config (stack.heard filters.loud))) ∧
      (∀ config heap, InStep (Log.Journal.IsFiltered filters)
        (Vectors.run config heap (.start filters.quiet))
        (Vectors.run config heap (.start filters.loud))) ∧
      ∀ config (surroundings : Workers.Surroundings), surroundings.hook.Discreet →
        let quiet := Workers.run config surroundings (stack.heard filters.quiet)
        let loud := Workers.run config surroundings (stack.heard filters.loud)
        quiet.2.IsFiltered filters loud.2 ∧
          (loud.1 = quiet.1 ↔ ¬ Workers.Unsummed filters.loud quiet.1) ∧
          (Workers.Unsummed filters.loud quiet.1 → loud.1 = .error (.panic .addOverflow)) := by
  have h := stack.isFiltered_heard filters
  refine ⟨?_, ?_, ?_, ?_, ?_⟩
  · intro config pauses sink
    exact Sequential.inStep_run config pauses sink h
  · intro thread index count size
    exact Workers.inStep_runWorker thread index count size h
  · intro config
    exact Growth.inStep_run config h
  · intro config heap
    exact Vectors.inStep_run config heap (.start filters)
  · intro config surroundings discreet quiet loud
    have parts : Workers.Parts filters quiet loud := Workers.parts_run config discreet h
    exact ⟨parts.pools, parts.eq_iff⟩

/-- A pool with two workers that fail, of which the second one takes the process down, with a
journal of errors and with one of everything. -/
theorem failing_pool_is_alike_at_two_levels :
    let filters : Log.FilterPair := ⟨.upTo .error, .upTo .trace, Log.Filter.within_upTo (by decide)⟩
    let surroundings : Workers.Surroundings :=
      { Workers.Surroundings.reversed with hook := .ofPolicy .failFast }
    let quiet := Workers.run .three surroundings (Workers.troubled.heard filters.quiet)
    let loud := Workers.run .three surroundings (Workers.troubled.heard filters.loud)
    surroundings.hook.Discreet ∧ loud.1 = quiet.1 ∧ quiet.1 = .error (.exit (.code 2)) ∧
      quiet.2.stack.site.journal.events =
        loud.2.stack.site.journal.events.filter fun event => event.level.verbosity ≤ 1 := by
  intro filters surroundings quiet loud
  have discreet : surroundings.hook.Discreet := Workers.Hook.discreet_ofPolicy .failFast
  have hexit : quiet.1 = .error (.exit (.code 2)) := by decide
  obtain ⟨-, -, -, -, hpool⟩ := filters_change_the_journal filters Workers.troubled
  obtain ⟨pools, hsame, -⟩ := hpool .three surroundings discreet
  refine ⟨discreet, hsame.2 ?_, hexit, pools.journal.events_eq⟩
  rintro ⟨-, summary, hok, -⟩
  have hnone := hexit.symm.trans hok
  cases hnone

/-- Two workers with `2 ^ 63` cycles each. -/
def Workers.Config.endless : Config := ⟨2, 9223372036854775808, 1⟩

/-- Those who listen to the end of a pool find a panic where others find its summary. -/
theorem total_noticed_by_listeners :
    let stack : Stack := ⟨[], .fresh .claimed (.start .silent)⟩
    (Workers.run .endless .plain (stack.heard .silent)).1 =
        .ok ⟨[9223372036854775808, 9223372036854775808]⟩ ∧
      (Workers.run .endless .plain (stack.heard (.upTo .info))).1 =
        .error (.panic .addOverflow) := by
  intro stack
  have lavish : stack.Lavish := ⟨rfl, fun _ _ => rfl⟩
  have hanswer := Workers.fst_run_of_lavish .endless rfl (by decide) (by decide) lavish
  exact ⟨hanswer .silent, hanswer (.upTo .info)⟩

end HeapFixtures
