/-
# Counters that wrap

A user may give a block back to a layer that never handed it out, and then a layer counts fewer
live blocks than none.  Its counters wrap, requests and releases as well as live blocks, and the
difference of the former two remains the latter whatever happens: every update of a layer changes
both sides by the same amount, also the update that a panic breaks off.

The one checked sum of a layer has no room exactly where the layer counts a request on top of the
largest number of live blocks.  `Involves` says in what part of a call a layer counts a request,
and from which counters on, or a gate panics; a call ends in a panic exactly if one of the two
happens where it must.
-/

import HeapFixtures.Proofs.Agreement

namespace HeapFixtures

namespace Counters

variable {counters : Counters} {size : UInt64} {panic : Panic}

/-- Requests and releases differ by the live blocks, all three taken modulo `2 ^ 64`. -/
def Even (counters : Counters) : Prop :=
  counters.allocations = counters.releases + counters.live

theorem even_zero : zero.Even := rfl

/-- Every request that is counted leaves the counters even, also one that panics. -/
theorem Even.recordAllocation (even : counters.Even) (size : UInt64) :
    (counters.recordAllocation size).2.Even := by
  have hsum : counters.allocations + 1 = counters.releases + (counters.live + 1) := by
    rw [even, UInt64.add_assoc]
  rw [Counters.recordAllocation]
  cases Word.add? counters.live 1 with
  | none => exact hsum
  | some live => exact hsum

theorem Even.recordRelease (even : counters.Even) : counters.recordRelease.Even := by
  have hsum : counters.allocations = counters.releases + 1 + (counters.live - 1) := by
    rw [even, UInt64.add_assoc, UInt64.add_comm 1, UInt64.sub_add_cancel]
  exact hsum

/-- Even counters are balanced exactly if no block is live. -/
theorem Even.isBalanced_iff (even : counters.Even) :
    counters.isBalanced = true ↔ counters.live = 0 := by
  rw [isBalanced, Bool.and_eq_true, decide_eq_true_eq, decide_eq_true_eq, even]
  constructor
  · exact And.right
  · intro hlive
    exact ⟨by rw [hlive, UInt64.add_zero], hlive⟩

/-- One more live block has no room exactly on top of the largest number. -/
theorem add?_one_eq_none_iff {live : UInt64} : Word.add? live 1 = none ↔ live = Word.largest := by
  have hlt := live.toNat_lt
  have hone : (1 : UInt64).toNat = 1 := rfl
  have hlargest : live = Word.largest ↔ live.toNat = 2 ^ 64 - 1 := by
    rw [← UInt64.toNat_inj]
    rfl
  rw [hlargest, Word.add?, hone]
  simp only [UInt64.size, ite_eq_right_iff, reduceCtorEq, imp_false]
  omega

/-- A layer panics over a request exactly if it counts the largest number of live blocks. -/
theorem recordAllocation_panics_iff :
    (counters.recordAllocation size).1 = some panic ↔
      counters.live = Word.largest ∧ panic = .addOverflow := by
  rw [← add?_one_eq_none_iff, recordAllocation]
  cases Word.add? counters.live 1 with
  | none => simp [eq_comm]
  | some live => simp

/-- What such a panic leaves: no live blocks, and the peak as it was. -/
theorem recordAllocation_of_largest (h : counters.live = Word.largest) (size : UInt64) :
    (counters.recordAllocation size).2.live = 0 ∧
      (counters.recordAllocation size).2.peak = counters.peak := by
  rw [recordAllocation, add?_one_eq_none_iff.2 h]
  refine ⟨?_, rfl⟩
  show counters.live + 1 = 0
  rw [h]
  rfl

end Counters

namespace Stack

/-- Sends an operation to the top of a stack. -/
def perform (stack : Stack) (thread : Thread) : Operation → Except Stop Unit × Stack
  | .allocate size =>
    let (answer, after) := stack.allocate thread size
    (answer.map fun _ => (), after)
  | .release block => (.ok (), stack.release thread block)
  | .resize block size =>
    let (answer, after) := stack.resize thread block size
    (answer.map fun _ => (), after)
  | .pair size => stack.pair thread size

/-- What may happen at one layer in the course of a call. -/
inductive Event
  /-- A counting layer counts a request, from these counters on. -/
  | counts (start : Counters)
  /-- A gate panics. -/
  | raises (panic : Panic)

/-- The panic that comes of an event. -/
def Event.panic? : Event → Option Panic
  | .counts start => if start.live = Word.largest then some .addOverflow else none
  | .raises panic => some panic

/-- In the course of an operation something happens at the layer with so many layers above it. -/
inductive Involves (thread : Thread) : Operation → List Layer → Site → Nat → Event → Prop
  /-- A counting layer counts a request that was granted below. -/
  | allocated {size : UInt64} {counters : Counters} {below : List Layer} {site : Site}
      {block : Block} {stack : Stack}
      (granted : allocateThrough thread size below site = (.ok block, stack)) :
      Involves thread (.allocate size) (.counting counters :: below) site 0 (.counts counters)
  | allocate_raised {size : UInt64} {gate : Gate} {below : List Layer} {site : Site}
      {panic : Panic} (raised : (gate.ask thread size).1.answer = .panic panic) :
      Involves thread (.allocate size) (.gate gate :: below) site 0 (.raises panic)
  | allocate_counting {size : UInt64} {counters : Counters} {below : List Layer} {site : Site}
      {depth : Nat} {event : Event}
      (under : Involves thread (.allocate size) below site depth event) :
      Involves thread (.allocate size) (.counting counters :: below) site (depth + 1) event
  | allocate_gate {size : UInt64} {gate : Gate} {below : List Layer} {site : Site}
      {depth : Nat} {event : Event} (passed : (gate.ask thread size).1.answer = .pass)
      (under : Involves thread (.allocate size) below (heed site (gate.ask thread size).1)
        depth event) :
      Involves thread (.allocate size) (.gate gate :: below) site (depth + 1) event
  /-- A counting layer counts a resize that was granted below, the old block first. -/
  | resized {block fresh : Block} {size : UInt64} {counters : Counters} {below : List Layer}
      {site : Site} {stack : Stack}
      (granted : resizeThrough thread block size below site = (.ok fresh, stack)) :
      Involves thread (.resize block size) (.counting counters :: below) site 0
        (.counts counters.recordRelease)
  | resize_raised {block : Block} {size : UInt64} {gate : Gate} {below : List Layer} {site : Site}
      {panic : Panic} (forwards : gate.forwardsResize = true)
      (raised : (gate.ask thread size).1.answer = .panic panic) :
      Involves thread (.resize block size) (.gate gate :: below) site 0 (.raises panic)
  | resize_counting {block : Block} {size : UInt64} {counters : Counters} {below : List Layer}
      {site : Site} {depth : Nat} {event : Event}
      (under : Involves thread (.resize block size) below site depth event) :
      Involves thread (.resize block size) (.counting counters :: below) site (depth + 1) event
  | resize_gate {block : Block} {size : UInt64} {gate : Gate} {below : List Layer} {site : Site}
      {depth : Nat} {event : Event} (forwards : gate.forwardsResize = true)
      (passed : (gate.ask thread size).1.answer = .pass)
      (under : Involves thread (.resize block size) below (heed site (gate.ask thread size).1)
        depth event) :
      Involves thread (.resize block size) (.gate gate :: below) site (depth + 1) event
  /-- A gate that does not pass a resize on asks for a new block, itself included. -/
  | replaced {block : Block} {size : UInt64} {gate : Gate} {below : List Layer} {site : Site}
      {depth : Nat} {event : Event} (keeps : gate.forwardsResize = false)
      (fresh : Involves thread (.allocate size) (.gate gate :: below) site depth event) :
      Involves thread (.resize block size) (.gate gate :: below) site depth event
  | paired {size : UInt64} {layers : List Layer} {site : Site} {depth : Nat} {event : Event}
      (first : Involves thread (.allocate size) layers site depth event) :
      Involves thread (.pair size) layers site depth event

section Panics

variable {thread : Thread} {size : UInt64} {block : Block} {layers below : List Layer}
  {site : Site} {panic : Panic} {operation : Operation} {depth : Nat} {event : Event}
  {stack after : Stack} {counters : Counters} {gate : Gate}

theorem settle_eq_panic_iff {counted : Option Panic × Counters} :
    settle block counted = .error (.panic panic) ↔ counted.1 = some panic := by
  obtain ⟨_ | raised, counters⟩ := counted
  · simp [settle]
  · simp [settle]

theorem Event.panic?_counts :
    (Event.counts counters).panic? = some panic ↔
      counters.live = Word.largest ∧ panic = .addOverflow := by
  by_cases h : counters.live = Word.largest <;> simp [Event.panic?, h, eq_comm]

/-- A request for a new block panics because of something that happens in its course. -/
theorem involves_of_allocate_panics
    (h : (allocateThrough thread size layers site).1 = .error (.panic panic)) :
    ∃ depth event, Involves thread (.allocate size) layers site depth event ∧
      event.panic? = some panic := by
  fun_induction allocateThrough thread size layers site with
  | case1 site block after hsite | case2 site fault after hsite => cases h
  | case3 counters below site block stack hbelow counted ih =>
      have hcounted := Counters.recordAllocation_panics_iff.1 (settle_eq_panic_iff.1 h)
      exact ⟨0, .counts counters, .allocated hbelow, Event.panic?_counts.2 hcounted⟩
  | case4 counters below site stop stack hbelow ih =>
      rw [hbelow] at ih
      obtain ⟨depth, event, hinvolves, hevent⟩ := ih h
      exact ⟨depth + 1, event, .allocate_counting hinvolves, hevent⟩
  | case5 gate below site verdict gate' hask site' raised hanswer =>
      obtain rfl := Stop.panic.inj (Except.error.inj h)
      have hraised : (gate.ask thread size).1.answer = .panic raised := by rw [hask, hanswer]
      exact ⟨0, .raises raised, .allocate_raised hraised, rfl⟩
  | case6 gate below site verdict gate' hask site' fault hanswer => cases h
  | case7 gate below site verdict gate' hask site' hanswer block stack hbelow ih
  | case8 gate below site verdict gate' hask site' hanswer fault stack hbelow ih => cases h
  | case9 gate below site verdict gate' hask site' hanswer stop stack hstop hbelow ih =>
      rw [hbelow] at ih
      obtain ⟨depth, event, hinvolves, hevent⟩ := ih h
      have hpassed : (gate.ask thread size).1.answer = .pass := by rw [hask, hanswer]
      have hverdict : heed site (gate.ask thread size).1 = site' := by rw [hask]
      rw [← hverdict] at hinvolves
      exact ⟨depth + 1, event, .allocate_gate hpassed hinvolves, hevent⟩

/-- The default way to resize panics over the new block or not at all. -/
theorem replaceThrough_eq_panic_iff :
    replaceThrough thread block size layers site = (.error (.panic panic), after) ↔
      allocateThrough thread size layers site = (.error (.panic panic), after) := by
  unfold replaceThrough
  rcases allocateThrough thread size layers site with ⟨(fault | raised | exit) | fresh, stack⟩ <;>
    simp

/-- A resize panics because of something that happens in its course. -/
theorem involves_of_resize_panics
    (h : (resizeThrough thread block size layers site).1 = .error (.panic panic)) :
    ∃ depth event, Involves thread (.resize block size) layers site depth event ∧
      event.panic? = some panic := by
  fun_induction resizeThrough thread block size layers site with
  | case1 site fresh after hsite | case2 site fault after hsite => cases h
  | case3 counters below site fresh stack hbelow counted ih =>
      have hcounted := Counters.recordAllocation_panics_iff.1 (settle_eq_panic_iff.1 h)
      exact ⟨0, .counts counters.recordRelease, .resized hbelow, Event.panic?_counts.2 hcounted⟩
  | case4 counters below site fault stack hbelow ih => cases h
  | case5 counters below site stop stack hstop hbelow ih =>
      rw [hbelow] at ih
      obtain ⟨depth, event, hinvolves, hevent⟩ := ih h
      exact ⟨depth + 1, event, .resize_counting hinvolves, hevent⟩
  | case6 gate below site hforwards verdict gate' hask site' raised hanswer =>
      obtain rfl := Stop.panic.inj (Except.error.inj h)
      have hraised : (gate.ask thread size).1.answer = .panic raised := by rw [hask, hanswer]
      exact ⟨0, .raises raised, .resize_raised hforwards hraised, rfl⟩
  | case7 gate below site hforwards verdict gate' hask site' fault hanswer => cases h
  | case8 gate below site hforwards verdict gate' hask site' hanswer fresh stack hbelow ih
  | case9 gate below site hforwards verdict gate' hask site' hanswer fault stack hbelow ih =>
      cases h
  | case10 gate below site hforwards verdict gate' hask site' hanswer stop stack hstop hbelow ih =>
      rw [hbelow] at ih
      obtain ⟨depth, event, hinvolves, hevent⟩ := ih h
      have hpassed : (gate.ask thread size).1.answer = .pass := by rw [hask, hanswer]
      have hverdict : heed site (gate.ask thread size).1 = site' := by rw [hask]
      rw [← hverdict] at hinvolves
      exact ⟨depth + 1, event, .resize_gate hforwards hpassed hinvolves, hevent⟩
  | case11 gate below site hforwards =>
      have hreplace := replaceThrough_eq_panic_iff.1 (Prod.ext h rfl)
      obtain ⟨depth, event, hinvolves, hevent⟩ :=
        involves_of_allocate_panics (congrArg Prod.fst hreplace)
      exact ⟨depth, event, .replaced (by simpa using hforwards) hinvolves, hevent⟩

theorem perform_allocate_eq_panic_iff :
    perform ⟨layers, site⟩ thread (.allocate size) = (.error (.panic panic), after) ↔
      allocateThrough thread size layers site = (.error (.panic panic), after) := by
  simp only [perform, allocate]
  rcases allocateThrough thread size layers site with ⟨stop | fresh, stack⟩ <;>
    simp [Except.map]

theorem perform_resize_eq_panic_iff :
    perform ⟨layers, site⟩ thread (.resize block size) = (.error (.panic panic), after) ↔
      resizeThrough thread block size layers site = (.error (.panic panic), after) := by
  simp only [perform, resize]
  rcases resizeThrough thread block size layers site with ⟨stop | fresh, stack⟩ <;>
    simp [Except.map]

theorem perform_pair_eq_panic_iff :
    perform ⟨layers, site⟩ thread (.pair size) = (.error (.panic panic), after) ↔
      allocateThrough thread size layers site = (.error (.panic panic), after) := by
  simp only [perform, pair, allocate]
  rcases allocateThrough thread size layers site with ⟨stop | fresh, stack⟩ <;> simp

/-- What a panic leaves at the layer where an event brought it about: a counting layer counts no
live block then, and its peak is the one from before the call. -/
def Event.Leaves (event : Event) (before after : Option Layer) : Prop :=
  ∀ start, event = .counts start → ∃ counted shown, before = some (.counting counted) ∧
    after = some (.counting shown) ∧ (start = counted ∨ start = counted.recordRelease) ∧
    shown.live = 0 ∧ shown.peak = counted.peak

theorem Event.leaves_raises {before shown : Option Layer} :
    (Event.raises panic).Leaves before shown := nofun

theorem Event.leaves_counts {start : Counters} (hlargest : start.live = Word.largest)
    (hstart : start = counters ∨ start = counters.recordRelease) (size : UInt64) :
    (Event.counts start).Leaves (some (.counting counters))
      (some (.counting (start.recordAllocation size).2)) := by
  obtain ⟨hlive, hpeak⟩ := Counters.recordAllocation_of_largest hlargest size
  intro start' hcounts
  obtain rfl := Event.counts.inj hcounts
  refine ⟨counters, _, rfl, rfl, hstart, hlive, hpeak.trans ?_⟩
  rcases hstart with rfl | rfl
  · rfl
  · rfl

/-- A call in the course of which an event must bring about a panic ends in that panic. -/
theorem perform_of_involves (h : Involves thread operation layers site depth event)
    (hevent : event.panic? = some panic) :
    ∃ after, perform ⟨layers, site⟩ thread operation = (.error (.panic panic), after) ∧
      event.Leaves layers[depth]? after.layers[depth]? := by
  induction h with
  | @allocated size counters below site block stack granted =>
      obtain ⟨hlargest, rfl⟩ := Event.panic?_counts.1 hevent
      have hcounted : (counters.recordAllocation size).1 = some .addOverflow :=
        Counters.recordAllocation_panics_iff.2 ⟨hlargest, rfl⟩
      refine ⟨stack.push (.counting (counters.recordAllocation size).2),
        perform_allocate_eq_panic_iff.2 ?_, Event.leaves_counts hlargest (.inl rfl) size⟩
      rw [allocateThrough, granted]
      simp only [settle_eq_panic_iff.2 hcounted]
  | @allocate_raised size gate below site raised hraised =>
      obtain rfl := Option.some.inj hevent
      refine ⟨⟨.gate (gate.ask thread size).2 :: below, heed site (gate.ask thread size).1⟩,
        perform_allocate_eq_panic_iff.2 ?_, Event.leaves_raises⟩
      simp only [allocateThrough, hraised]
  | @allocate_counting size counters below site depth event under ih =>
      obtain ⟨after, hperform, hleaves⟩ := ih hevent
      refine ⟨after.push (.counting counters), perform_allocate_eq_panic_iff.2 ?_, hleaves⟩
      rw [allocateThrough, perform_allocate_eq_panic_iff.1 hperform]
  | @allocate_gate size gate below site depth event passed under ih =>
      obtain ⟨after, hperform, hleaves⟩ := ih hevent
      refine ⟨after.push (.gate (gate.ask thread size).2), perform_allocate_eq_panic_iff.2 ?_,
        hleaves⟩
      simp only [allocateThrough, passed, perform_allocate_eq_panic_iff.1 hperform]
  | @resized block fresh size counters below site stack granted =>
      obtain ⟨hlargest, rfl⟩ := Event.panic?_counts.1 hevent
      have hcounted : (counters.recordRelease.recordAllocation size).1 = some .addOverflow :=
        Counters.recordAllocation_panics_iff.2 ⟨hlargest, rfl⟩
      refine ⟨stack.push (.counting (counters.recordRelease.recordAllocation size).2),
        perform_resize_eq_panic_iff.2 ?_, Event.leaves_counts hlargest (.inr rfl) size⟩
      rw [resizeThrough, granted]
      simp only [settle_eq_panic_iff.2 hcounted]
  | @resize_raised block size gate below site raised forwards hraised =>
      obtain rfl := Option.some.inj hevent
      refine ⟨⟨.gate (gate.ask thread size).2 :: below, heed site (gate.ask thread size).1⟩,
        perform_resize_eq_panic_iff.2 ?_, Event.leaves_raises⟩
      rw [resizeThrough, if_pos forwards]
      simp only [hraised]
  | @resize_counting block size counters below site depth event under ih =>
      obtain ⟨after, hperform, hleaves⟩ := ih hevent
      refine ⟨after.push (.counting counters), perform_resize_eq_panic_iff.2 ?_, hleaves⟩
      rw [resizeThrough, perform_resize_eq_panic_iff.1 hperform]
  | @resize_gate block size gate below site depth event forwards passed under ih =>
      obtain ⟨after, hperform, hleaves⟩ := ih hevent
      refine ⟨after.push (.gate (gate.ask thread size).2), perform_resize_eq_panic_iff.2 ?_,
        hleaves⟩
      rw [resizeThrough, if_pos forwards]
      simp only [passed, perform_resize_eq_panic_iff.1 hperform]
  | @replaced block size gate below site depth event keeps fresh ih =>
      obtain ⟨after, hperform, hleaves⟩ := ih hevent
      have hreplace : replaceThrough thread block size (.gate gate :: below) site =
          (.error (.panic panic), after) :=
        replaceThrough_eq_panic_iff.2 (perform_allocate_eq_panic_iff.1 hperform)
      refine ⟨after, perform_resize_eq_panic_iff.2 ?_, hleaves⟩
      rw [resizeThrough, if_neg (by simp [keeps]), hreplace]
  | @paired size layers site depth event first ih =>
      obtain ⟨after, hperform, hleaves⟩ := ih hevent
      exact ⟨after, perform_pair_eq_panic_iff.2 (perform_allocate_eq_panic_iff.1 hperform),
        hleaves⟩

/-- A call panics exactly if something happens in its course that must bring this about. -/
theorem perform_panics_iff :
    (perform ⟨layers, site⟩ thread operation).1 = .error (.panic panic) ↔
      ∃ depth event, Involves thread operation layers site depth event ∧
        event.panic? = some panic := by
  constructor
  · intro h
    have hperform : perform ⟨layers, site⟩ thread operation = (.error (.panic panic), _) :=
      Prod.ext h rfl
    cases operation with
    | allocate size =>
        exact involves_of_allocate_panics
          (congrArg Prod.fst (perform_allocate_eq_panic_iff.1 hperform))
    | release block => cases h
    | resize block size =>
        exact involves_of_resize_panics
          (congrArg Prod.fst (perform_resize_eq_panic_iff.1 hperform))
    | pair size =>
        obtain ⟨depth, event, hinvolves, hevent⟩ := involves_of_allocate_panics
          (congrArg Prod.fst (perform_pair_eq_panic_iff.1 hperform))
        exact ⟨depth, event, .paired hinvolves, hevent⟩
  · rintro ⟨depth, event, hinvolves, hevent⟩
    obtain ⟨after, hperform, -⟩ := perform_of_involves hinvolves hevent
    exact congrArg Prod.fst hperform

end Panics

/-- All layers that count are even. -/
def AllEven (layers : List Layer) : Prop :=
  ∀ counters, .counting counters ∈ layers → counters.Even

section Even

variable {thread : Thread} {size : UInt64} {block : Block} {layers below : List Layer}
  {site : Site} {counters : Counters} {gate : Gate}

@[simp]
theorem allEven_nil : AllEven [] := nofun

@[simp]
theorem allEven_counting :
    AllEven (.counting counters :: below) ↔ counters.Even ∧ AllEven below := by
  simp [AllEven]

@[simp]
theorem allEven_gate : AllEven (.gate gate :: below) ↔ AllEven below := by
  simp [AllEven]

theorem allEven_append {above : List Layer} :
    AllEven (above ++ below) ↔ AllEven above ∧ AllEven below := by
  simp [AllEven, or_imp, forall_and]

theorem allEven_allocateThrough (thread : Thread) (size : UInt64) (site : Site)
    (even : AllEven layers) : AllEven (allocateThrough thread size layers site).2.layers := by
  fun_induction allocateThrough thread size layers site with
  | case1 | case2 => exact allEven_nil
  | case3 counters below site block stack h counted ih =>
      obtain ⟨hcounters, hbelow⟩ := allEven_counting.1 even
      rw [h] at ih
      exact allEven_counting.2 ⟨hcounters.recordAllocation size, ih hbelow⟩
  | case4 counters below site stop stack h ih =>
      obtain ⟨hcounters, hbelow⟩ := allEven_counting.1 even
      rw [h] at ih
      exact allEven_counting.2 ⟨hcounters, ih hbelow⟩
  | case5 => exact allEven_gate.2 (allEven_gate.1 even)
  | case6 =>
      rw [layers_note]
      exact allEven_gate.2 (allEven_gate.1 even)
  | case7 gate below site verdict gate' hask site' hanswer block stack h ih
  | case8 gate below site verdict gate' hask site' hanswer fault stack h ih =>
      rw [h] at ih
      rw [layers_note]
      exact allEven_gate.2 (ih (allEven_gate.1 even))
  | case9 gate below site verdict gate' hask site' hanswer stop stack hstop h ih =>
      rw [h] at ih
      exact allEven_gate.2 (ih (allEven_gate.1 even))

theorem allEven_releaseThrough (thread : Thread) (block : Block) (site : Site)
    (even : AllEven layers) : AllEven (releaseThrough thread block layers site).layers := by
  fun_induction releaseThrough thread block layers site with
  | case1 => exact allEven_nil
  | case2 counters below site ih =>
      obtain ⟨hcounters, hbelow⟩ := allEven_counting.1 even
      exact allEven_counting.2 ⟨hcounters.recordRelease, ih hbelow⟩
  | case3 gate below site noted ih => exact allEven_gate.2 (ih (allEven_gate.1 even))

theorem allEven_replaceThrough (thread : Thread) (block : Block) (size : UInt64) (site : Site)
    (even : AllEven layers) :
    AllEven (replaceThrough thread block size layers site).2.layers := by
  have hfresh := allEven_allocateThrough thread size site even
  unfold replaceThrough
  rcases h : allocateThrough thread size layers site with
    ⟨(fault | panic | exit) | fresh, stack⟩ <;> rw [h] at hfresh
  · exact allEven_releaseThrough thread block _ hfresh
  · exact hfresh
  · exact hfresh
  · exact allEven_releaseThrough thread block _ hfresh

theorem allEven_resizeThrough (thread : Thread) (block : Block) (size : UInt64) (site : Site)
    (even : AllEven layers) :
    AllEven (resizeThrough thread block size layers site).2.layers := by
  fun_induction resizeThrough thread block size layers site with
  | case1 | case2 => exact allEven_nil
  | case3 counters below site fresh stack h counted ih =>
      obtain ⟨hcounters, hbelow⟩ := allEven_counting.1 even
      rw [h] at ih
      exact allEven_counting.2 ⟨hcounters.recordRelease.recordAllocation size, ih hbelow⟩
  | case4 counters below site fault stack h ih =>
      obtain ⟨hcounters, hbelow⟩ := allEven_counting.1 even
      rw [h] at ih
      exact allEven_counting.2 ⟨hcounters.recordRelease, ih hbelow⟩
  | case5 counters below site stop stack hstop h ih =>
      obtain ⟨hcounters, hbelow⟩ := allEven_counting.1 even
      rw [h] at ih
      exact allEven_counting.2 ⟨hcounters, ih hbelow⟩
  | case6 => exact allEven_gate.2 (allEven_gate.1 even)
  | case7 gate below site hforwards verdict gate' hask site' fault hanswer =>
      rw [layers_note]
      exact allEven_gate.2 (allEven_releaseThrough thread block site' (allEven_gate.1 even))
  | case8 gate below site hforwards verdict gate' hask site' hanswer fresh stack h ih
  | case9 gate below site hforwards verdict gate' hask site' hanswer fault stack h ih =>
      rw [h] at ih
      rw [layers_note]
      exact allEven_gate.2 (ih (allEven_gate.1 even))
  | case10 gate below site hforwards verdict gate' hask site' hanswer stop stack hstop h ih =>
      rw [h] at ih
      exact allEven_gate.2 (ih (allEven_gate.1 even))
  | case11 gate below site hforwards =>
      exact allEven_replaceThrough thread block size site even

theorem allEven_perform {stack : Stack} (thread : Thread) (operation : Operation)
    (even : AllEven stack.layers) : AllEven (stack.perform thread operation).2.layers := by
  cases operation with
  | allocate size => exact allEven_allocateThrough thread size stack.site even
  | release block => exact allEven_releaseThrough thread block stack.site even
  | resize block size => exact allEven_resizeThrough thread block size stack.site even
  | pair size =>
      have hfresh := allEven_allocateThrough thread size stack.site even
      obtain ⟨block, between, hallocate, hpair⟩ | ⟨stop, between, hallocate, hpair⟩ :=
        pair_eq stack thread size
      · rw [allocate] at hallocate
        rw [hallocate] at hfresh
        rw [perform, hpair]
        exact allEven_releaseThrough thread block between.site hfresh
      · rw [allocate] at hallocate
        rw [hallocate] at hfresh
        rw [perform, hpair]
        exact hfresh

theorem mem_counters_iff {stack : Stack} :
    counters ∈ stack.counters ↔ .counting counters ∈ stack.layers := by
  rw [Stack.counters, List.mem_reverse, List.mem_filterMap]
  constructor
  · rintro ⟨layer, hlayer, hcounters⟩
    cases layer with
    | counting shown =>
        obtain rfl := Option.some.inj hcounters
        exact hlayer
    | gate gate => cases hcounters
  · exact fun h => ⟨_, h, rfl⟩

end Even

end Stack

/-- A call that a user makes of some layer of a stack. -/
structure LayerCall where
  thread : Thread
  /-- The number of layers that the call goes through, the lowest ones of the stack. -/
  layer : Nat
  operation : Operation

namespace LayerCall

/-- Makes the call. -/
def run (call : LayerCall) (stack : Stack) : Except Stop Unit × Stack :=
  stack.within call.layer (·.perform call.thread call.operation)

/-- Makes calls one after the other, whatever comes of them. -/
def runAll (calls : List LayerCall) (stack : Stack) : Stack :=
  calls.foldl (fun stack call => (call.run stack).2) stack

/-- In the course of a call something happens at the layer with so many layers above it. -/
def Involves (call : LayerCall) (stack : Stack) (depth : Nat) (event : Stack.Event) : Prop :=
  ∃ inner, depth = stack.layers.length - call.layer + inner ∧
    Stack.Involves call.thread call.operation (stack.lower call.layer).layers stack.site
      inner event

section Run

variable {call : LayerCall} {stack : Stack} {depth : Nat} {event : Stack.Event} {panic : Panic}

theorem layers_run (call : LayerCall) (stack : Stack) :
    (call.run stack).2.layers = stack.layers.take (stack.layers.length - call.layer) ++
      ((stack.lower call.layer).perform call.thread call.operation).2.layers := rfl

theorem allEven_run (call : LayerCall) (even : Stack.AllEven stack.layers) :
    Stack.AllEven (call.run stack).2.layers := by
  have hparts := even
  rw [← List.take_append_drop (stack.layers.length - call.layer) stack.layers,
    Stack.allEven_append] at hparts
  rw [layers_run, Stack.allEven_append]
  exact ⟨hparts.1, Stack.allEven_perform _ _ hparts.2⟩

theorem allEven_runAll (calls : List LayerCall) (even : Stack.AllEven stack.layers) :
    Stack.AllEven (runAll calls stack).layers := by
  induction calls generalizing stack with
  | nil => exact even
  | cons call rest ih => exact ih (allEven_run call even)

/-- A call of a layer panics exactly if something happens in its course that must bring this
about. -/
theorem run_panics_iff :
    (call.run stack).1 = .error (.panic panic) ↔
      ∃ depth event, call.Involves stack depth event ∧ event.panic? = some panic := by
  refine Iff.trans Stack.perform_panics_iff ⟨?_, ?_⟩
  · rintro ⟨inner, event, hinvolves, hevent⟩
    exact ⟨_, event, ⟨inner, rfl, hinvolves⟩, hevent⟩
  · rintro ⟨depth, event, ⟨inner, -, hinvolves⟩, hevent⟩
    exact ⟨inner, event, hinvolves, hevent⟩

/-- What a panic leaves at the layer where an event brought it about. -/
theorem leaves_run (h : call.Involves stack depth event) (hevent : event.panic? = some panic) :
    event.Leaves stack.layers[depth]? (call.run stack).2.layers[depth]? := by
  obtain ⟨inner, rfl, hinvolves⟩ := h
  obtain ⟨after, hperform, hleaves⟩ := Stack.perform_of_involves hinvolves hevent
  have hafter : ((stack.lower call.layer).perform call.thread call.operation).2 = after :=
    congrArg Prod.snd hperform
  have hlength : (stack.layers.take (stack.layers.length - call.layer)).length =
      stack.layers.length - call.layer := by
    rw [List.length_take]
    omega
  rw [layers_run, hafter, List.getElem?_append_right (by omega), hlength, Nat.add_sub_cancel_left]
  rw [Stack.lower, List.getElem?_drop] at hleaves
  exact hleaves

end Run

/-- Whatever calls are made of whatever layers of an unused stack, also with blocks that other
layers handed out, and whether they are granted, refused or end in a panic: after each call every
counting layer is even, and balanced exactly if it counts no live block.  A call ends in the
overflow of a sum exactly if some layer counts a request in its course on top of the largest number
of live blocks, unless a gate panics in just this way.  That layer counts no live block then, and
its peak is the one from before the call. -/
theorem even_through_misuse {stack : Stack} (unused : stack.Unused) (calls : List LayerCall)
    (call : LayerCall) :
    (∀ counters ∈ (call.run (runAll calls stack)).2.counters,
        counters.Even ∧ (counters.isBalanced = true ↔ counters.live = 0)) ∧
      ((call.run (runAll calls stack)).1 = .error (.panic .addOverflow) ↔
        (∃ depth start, call.Involves (runAll calls stack) depth (.counts start) ∧
          start.live = Word.largest) ∨
        ∃ depth, call.Involves (runAll calls stack) depth (.raises .addOverflow)) ∧
      ∀ depth start, call.Involves (runAll calls stack) depth (.counts start) →
        start.live = Word.largest →
        ∃ counted shown, (runAll calls stack).layers[depth]? = some (.counting counted) ∧
          (call.run (runAll calls stack)).2.layers[depth]? = some (.counting shown) ∧
          (start = counted ∨ start = counted.recordRelease) ∧
          shown.live = 0 ∧ shown.peak = counted.peak := by
  have heven : Stack.AllEven stack.layers := by
    intro counters hcounters
    rw [unused counters hcounters]
    exact Counters.even_zero
  refine ⟨?_, ?_, ?_⟩
  · intro counters hcounters
    have hshown := allEven_run call (allEven_runAll calls heven) counters
      (Stack.mem_counters_iff.1 hcounters)
    exact ⟨hshown, hshown.isBalanced_iff⟩
  · rw [run_panics_iff]
    constructor
    · rintro ⟨depth, start | panic, hinvolves, hevent⟩
      · exact .inl ⟨depth, start, hinvolves, (Stack.Event.panic?_counts.1 hevent).1⟩
      · obtain rfl := Option.some.inj hevent
        exact .inr ⟨depth, hinvolves⟩
    · rintro (⟨depth, start, hinvolves, hlargest⟩ | ⟨depth, hinvolves⟩)
      · exact ⟨depth, .counts start, hinvolves, Stack.Event.panic?_counts.2 ⟨hlargest, rfl⟩⟩
      · exact ⟨depth, .raises .addOverflow, hinvolves, rfl⟩
  · intro depth start hinvolves hlargest
    exact leaves_run hinvolves (Stack.Event.panic?_counts.2 ⟨hlargest, rfl⟩) start rfl

/-- A block is given back to the lower of two counting layers, which never handed it out, and the
next request has no room there. -/
theorem counters_are_even_after_foreign_release :
    let stack : Stack := ⟨[.counting .zero, .counting .zero], .fresh .claimed (.start .silent)⟩
    let calls := [LayerCall.mk .main 2 (.allocate 8), ⟨.main, 1, .release ⟨0, 8⟩⟩,
      ⟨.main, 1, .release ⟨0, 8⟩⟩]
    let call : LayerCall := ⟨.main, 2, .allocate 8⟩
    stack.Unused ∧ (runAll calls stack).counters =
        [⟨1, 2, 8, Word.largest, 1⟩, ⟨1, 0, 8, 1, 1⟩] ∧
      (call.run (runAll calls stack)).1 = .error (.panic .addOverflow) ∧
      (call.run (runAll calls stack)).2.counters = [⟨2, 2, 16, 0, 1⟩, ⟨1, 0, 8, 1, 1⟩] ∧
      ∀ counters ∈ (call.run (runAll calls stack)).2.counters,
        counters.Even ∧ (counters.isBalanced = true ↔ counters.live = 0) := by
  intro stack calls call
  have unused : stack.Unused := by simp [stack, Stack.Unused]
  exact ⟨unused, by decide, by decide, by decide, (even_through_misuse unused calls call).1⟩

end LayerCall
end HeapFixtures
