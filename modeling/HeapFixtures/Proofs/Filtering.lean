/-
# What a filter can change

Two runs that differ in the filter of their journal alone go the same way, step by step.  Of
what is said, each journal has what its filter lets through, so the journal of the quieter
filter is that of the louder one, filtered once more.

The relation that says so stands between the journals and is carried up through sites, stacks,
sessions and pools, which agree in everything else.  Each function of a fixture keeps it.
-/

import HeapFixtures.Fixture.Growth
import HeapFixtures.Fixture.Sequential
import HeapFixtures.Fixture.Vectors
import HeapFixtures.Fixture.Workers

namespace HeapFixtures

namespace Log

/-- Whether a filter lets an entry through.  It holds back no printed text. -/
def Filter.passes (filter : Filter) : Entry → Bool
  | .event e => filter.enables e.origin e.level (valueNames e.fields)
  | .printed _ => true

/-- A filter that lets nothing through that the other holds back. -/
def Filter.Within (quiet loud : Filter) : Prop :=
  ∀ entry, quiet.passes entry = true → loud.passes entry = true

theorem Filter.within_upTo {quiet loud : Level} (h : quiet.verbosity ≤ loud.verbosity) :
    (upTo quiet).Within (upTo loud) := by
  intro entry passes
  cases entry with
  | event e => exact decide_eq_true (Nat.le_trans (of_decide_eq_true passes) h)
  | printed text => rfl

/-- A quiet filter and a loud one. -/
structure FilterPair where
  quiet : Filter
  loud : Filter
  within : quiet.Within loud

namespace Journal

/-- Says something, which is written if the filter lets it through. -/
def say (journal : Journal) (entry : Entry) : Journal :=
  if journal.filter.passes entry then { journal with entries := journal.entries.push entry }
  else journal

/-- Says one thing after the other. -/
def sayAll (journal : Journal) (said : List Entry) : Journal := said.foldl say journal

/-- What the two journals of a pair of filters have in common: of the entries of the loud one
the quiet one has those that its filter lets through. -/
structure IsFiltered (filters : FilterPair) (quiet loud : Journal) : Prop where
  quiet_eq : quiet.filter = filters.quiet
  loud_eq : loud.filter = filters.loud
  entries : quiet.entries.toList = loud.entries.toList.filter filters.quiet.passes

namespace IsFiltered

variable {filters : FilterPair} {quiet loud : Journal}

theorem start (filters : FilterPair) :
    (Journal.start filters.quiet).IsFiltered filters (Journal.start filters.loud) :=
  ⟨rfl, rfl, rfl⟩

theorem say (h : quiet.IsFiltered filters loud) (entry : Entry) :
    (quiet.say entry).IsFiltered filters (loud.say entry) := by
  obtain ⟨_, written⟩ := quiet
  obtain ⟨_, heard⟩ := loud
  obtain ⟨rfl, rfl, entries⟩ := h
  unfold Journal.say
  by_cases passes : filters.quiet.passes entry = true
  · rw [if_pos passes, if_pos (filters.within entry passes)]
    refine ⟨rfl, rfl, ?_⟩
    simpa [passes] using entries
  · rw [if_neg passes]
    split
    · refine ⟨rfl, rfl, ?_⟩
      simpa [passes] using entries
    · exact ⟨rfl, rfl, entries⟩

theorem emit (h : quiet.IsFiltered filters loud) (thread : Thread) (level : Level)
    (origin : Origin) (message : String) (fields : List (String × Value)) :
    (quiet.emit thread level origin message fields).IsFiltered filters
      (loud.emit thread level origin message fields) :=
  h.say (.event ⟨thread, level, origin, message, fields⟩)

theorem sayAll (h : quiet.IsFiltered filters loud) (said : List Entry) :
    (quiet.sayAll said).IsFiltered filters (loud.sayAll said) := by
  induction said generalizing quiet loud with
  | nil => exact h
  | cons entry rest ih => exact ih (h.say entry)

/-- The events of the quiet journal are those of the loud one that its filter lets through. -/
theorem events_eq (h : quiet.IsFiltered filters loud) :
    quiet.events = loud.events.filter fun event => filters.quiet.passes (.event event) := by
  unfold events
  rw [h.entries]
  generalize loud.entries.toList = entries
  induction entries with
  | nil => rfl
  | cons entry rest ih =>
      cases entry with
      | event event =>
          by_cases passes : filters.quiet.passes (.event event) = true
          · simp [Entry.event?, passes, ih]
          · simp [Entry.event?, passes, ih]
      | printed text => exact ih

end IsFiltered
end Journal
end Log

/-- Two calls that have the same result, and leave related states. -/
inductive InStep {α σ : Type} (related : σ → σ → Prop) : α × σ → α × σ → Prop
  | intro (result : α) {quiet loud : σ} (states : related quiet loud) :
      InStep related (result, quiet) (result, loud)

section InStep

variable {α σ : Type} {related : σ → σ → Prop} {first second : α × σ}

theorem InStep.result_eq (h : InStep related first second) : first.1 = second.1 := by
  cases h with
  | intro => rfl

theorem InStep.states (h : InStep related first second) : related first.2 second.2 := by
  cases h with
  | intro result states => exact states

theorem InStep.of_eq (result : first.1 = second.1) (states : related first.2 second.2) :
    InStep related first second := by
  obtain ⟨answer, state⟩ := first
  obtain ⟨answer', state'⟩ := second
  obtain rfl : answer = answer' := result
  exact .intro answer states

end InStep

/-- Two sites that differ in their journals alone. -/
inductive Site.IsFiltered (filters : Log.FilterPair) : Site → Site → Prop
  | intro (heap : Heap) (calls : Array CallRecord) (stopRequested : Bool)
      {quiet loud : Log.Journal} (journals : quiet.IsFiltered filters loud) :
      IsFiltered filters ⟨heap, quiet, calls, stopRequested⟩ ⟨heap, loud, calls, stopRequested⟩

/-- Two stacks that differ in their journals alone. -/
inductive Stack.IsFiltered (filters : Log.FilterPair) : Stack → Stack → Prop
  | intro (layers : List Layer) {quiet loud : Site} (sites : quiet.IsFiltered filters loud) :
      IsFiltered filters ⟨layers, quiet⟩ ⟨layers, loud⟩

namespace Site.IsFiltered

variable {filters : Log.FilterPair} {quiet loud : Site}

theorem emit (h : quiet.IsFiltered filters loud) (thread : Thread) (level : Log.Level)
    (origin : Log.Origin) (message : String) (fields : List (String × Log.Value)) :
    (quiet.emit thread level origin message fields).IsFiltered filters
      (loud.emit thread level origin message fields) := by
  cases h with
  | intro heap calls stopRequested journals =>
      exact .intro heap calls stopRequested (journals.emit ..)

theorem mention (h : quiet.IsFiltered filters loud) (thread : Thread) (message : String)
    (size : UInt64) :
    (quiet.mention thread message size).IsFiltered filters (loud.mention thread message size) := by
  have hemit := h.emit thread .trace .allocation message [("size", .word size), ("addr", .address)]
  cases h with
  | intro heap calls stopRequested journals =>
      unfold Site.mention
      dsimp only
      cases heap.backing with
      | system => exact hemit
      | claimed => exact .intro heap calls stopRequested journals

theorem requestStop (h : quiet.IsFiltered filters loud) :
    quiet.requestStop.IsFiltered filters loud.requestStop := by
  cases h with
  | intro heap calls stopRequested journals => exact .intro heap calls true journals

theorem note (h : quiet.IsFiltered filters loud) (record : CallRecord) :
    (quiet.note record).IsFiltered filters (loud.note record) := by
  cases h with
  | intro heap calls stopRequested journals =>
      exact .intro heap (calls.push record) stopRequested journals

/-- The heap hears nothing of the journal. -/
theorem onHeap (h : quiet.IsFiltered filters loud) (change : Heap → Heap) :
    IsFiltered filters { quiet with heap := change quiet.heap }
      { loud with heap := change loud.heap } := by
  cases h with
  | intro heap calls stopRequested journals =>
      exact .intro (change heap) calls stopRequested journals

theorem heap_eq (h : quiet.IsFiltered filters loud) : quiet.heap = loud.heap := by
  cases h with
  | intro => rfl

theorem allocate (h : quiet.IsFiltered filters loud) (thread : Thread) (size : UInt64) :
    InStep (IsFiltered filters) (quiet.allocate thread size) (loud.allocate thread size) := by
  unfold Site.allocate
  split
  · exact .intro _ h
  · have hgranted := h.onHeap fun heap => (heap.grant size).2
    rw [h.heap_eq] at hgranted ⊢
    generalize loud.heap.grant size = called at hgranted ⊢
    obtain ⟨_ | block, heap⟩ := called
    · exact .intro _ hgranted
    · exact .intro _ (hgranted.mention ..)

theorem release (h : quiet.IsFiltered filters loud) (thread : Thread) (block : Block) :
    (quiet.release thread block).IsFiltered filters (loud.release thread block) :=
  (h.mention thread "releasing block" block.size).onHeap fun heap => heap.free block

theorem resize (h : quiet.IsFiltered filters loud) (thread : Thread) (block : Block)
    (size : UInt64) :
    InStep (IsFiltered filters) (quiet.resize thread block size)
      (loud.resize thread block size) := by
  unfold Site.resize
  split
  · exact .intro _ (h.release thread block)
  · have hmoved := h.onHeap fun heap => (heap.move block size).2
    rw [h.heap_eq] at hmoved ⊢
    generalize loud.heap.move block size = called at hmoved ⊢
    obtain ⟨_ | fresh, heap⟩ := called
    · exact .intro _ (hmoved.onHeap fun heap => heap.free block)
    · exact .intro _ (hmoved.mention ..)

end Site.IsFiltered

namespace Stack.IsFiltered

variable {filters : Log.FilterPair} {quiet loud : Stack}

theorem push (h : quiet.IsFiltered filters loud) (layer : Layer) :
    (quiet.push layer).IsFiltered filters (loud.push layer) := by
  cases h with
  | intro layers sites => exact .intro (layer :: layers) sites

theorem note (h : quiet.IsFiltered filters loud) (records : Bool) (thread : Thread) (call : Call) :
    (quiet.note records thread call).IsFiltered filters (loud.note records thread call) := by
  cases h with
  | intro layers sites =>
      unfold Stack.note
      split
      · exact .intro layers (sites.note _)
      · exact .intro layers sites

theorem site (h : quiet.IsFiltered filters loud) : quiet.site.IsFiltered filters loud.site := by
  cases h with
  | intro layers sites => exact sites

theorem layers_eq (h : quiet.IsFiltered filters loud) : quiet.layers = loud.layers := by
  cases h with
  | intro => rfl

theorem emit (h : quiet.IsFiltered filters loud) (thread : Thread) (level : Log.Level)
    (origin : Log.Origin) (message : String) (fields : List (String × Log.Value)) :
    (quiet.emit thread level origin message fields).IsFiltered filters
      (loud.emit thread level origin message fields) := by
  cases h with
  | intro layers sites => exact .intro layers (sites.emit ..)

end Stack.IsFiltered

namespace Stack

variable {filters : Log.FilterPair} {quiet loud : Site}

theorem isFiltered_heed (h : quiet.IsFiltered filters loud) (verdict : Verdict) :
    (heed quiet verdict).IsFiltered filters (heed loud verdict) := by
  unfold heed
  split
  · exact h.requestStop
  · exact h

theorem inStep_allocateThrough (thread : Thread) (size : UInt64) (layers : List Layer)
    (h : quiet.IsFiltered filters loud) :
    InStep (IsFiltered filters) (allocateThrough thread size layers quiet)
      (allocateThrough thread size layers loud) := by
  induction layers generalizing quiet loud with
  | nil =>
      have hcall := h.allocate thread size
      unfold allocateThrough
      generalize quiet.allocate thread size = calm, loud.allocate thread size = full at hcall
      cases hcall with
      | intro answer sites => cases answer <;> exact .intro _ (.intro [] sites)
  | cons layer below ih =>
      cases layer with
      | counting counters =>
          have hcall := ih h
          unfold allocateThrough
          generalize allocateThrough thread size below quiet = calm,
            allocateThrough thread size below loud = full at hcall
          cases hcall with
          | intro answer alike => cases answer <;> exact .intro _ (alike.push _)
      | gate gate =>
          have hheeded := isFiltered_heed h (gate.ask thread size).1
          have hcall := ih hheeded
          simp only [allocateThrough]
          split
          · exact .intro _ (.intro _ hheeded)
          · exact .intro _ (IsFiltered.note (.intro _ hheeded) ..)
          · generalize allocateThrough thread size below (heed quiet _) = calm,
              allocateThrough thread size below (heed loud _) = full at hcall
            cases hcall with
            | intro answer alike =>
                obtain ⟨fault | panic | exit⟩ | block := answer
                · exact .intro _ ((alike.push _).note ..)
                · exact .intro _ (alike.push _)
                · exact .intro _ (alike.push _)
                · exact .intro _ ((alike.push _).note ..)

theorem isFiltered_releaseThrough (thread : Thread) (block : Block) (layers : List Layer)
    (h : quiet.IsFiltered filters loud) :
    (releaseThrough thread block layers quiet).IsFiltered filters
      (releaseThrough thread block layers loud) := by
  induction layers generalizing quiet loud with
  | nil => exact .intro [] (h.release thread block)
  | cons layer below ih =>
      cases layer with
      | counting counters => exact (ih h).push _
      | gate gate =>
          have hnoted : IsFiltered filters (note ⟨.gate gate :: below, quiet⟩ _ _ _)
              (note ⟨.gate gate :: below, loud⟩ _ _ _) :=
            IsFiltered.note (.intro _ h) gate.records thread (.release block.size)
          exact (ih hnoted.site).push _

theorem inStep_replaceThrough (thread : Thread) (block : Block) (size : UInt64)
    (layers : List Layer) (h : quiet.IsFiltered filters loud) :
    InStep (IsFiltered filters) (replaceThrough thread block size layers quiet)
      (replaceThrough thread block size layers loud) := by
  have hcall := inStep_allocateThrough thread size layers h
  unfold replaceThrough
  generalize allocateThrough thread size layers quiet = calm,
    allocateThrough thread size layers loud = full at hcall
  cases hcall with
  | intro answer alike =>
      cases alike with
      | intro after sites =>
          obtain ⟨fault | panic | exit⟩ | fresh := answer
          · exact .intro _ (isFiltered_releaseThrough thread block after sites)
          · exact .intro _ (.intro after sites)
          · exact .intro _ (.intro after sites)
          · exact .intro _ (isFiltered_releaseThrough thread block after
              (sites.onHeap fun heap => heap.copy block fresh))

theorem inStep_resizeThrough (thread : Thread) (block : Block) (size : UInt64)
    (layers : List Layer) (h : quiet.IsFiltered filters loud) :
    InStep (IsFiltered filters) (resizeThrough thread block size layers quiet)
      (resizeThrough thread block size layers loud) := by
  induction layers generalizing quiet loud with
  | nil =>
      have hcall := h.resize thread block size
      unfold resizeThrough
      generalize quiet.resize thread block size = calm,
        loud.resize thread block size = full at hcall
      cases hcall with
      | intro answer sites => cases answer <;> exact .intro _ (.intro [] sites)
  | cons layer below ih =>
      cases layer with
      | counting counters =>
          have hcall := ih h
          unfold resizeThrough
          generalize resizeThrough thread block size below quiet = calm,
            resizeThrough thread block size below loud = full at hcall
          cases hcall with
          | intro answer alike =>
              obtain ⟨fault | panic | exit⟩ | fresh := answer <;> exact .intro _ (alike.push _)
      | gate gate =>
          have hheeded := isFiltered_heed h (gate.ask thread size).1
          have hcall := ih hheeded
          simp only [resizeThrough]
          split
          · split
            · exact .intro _ (.intro _ hheeded)
            · exact .intro _
                (((isFiltered_releaseThrough thread block below hheeded).push _).note ..)
            · generalize resizeThrough thread block size below (heed quiet _) = calm,
                resizeThrough thread block size below (heed loud _) = full at hcall
              cases hcall with
              | intro answer alike =>
                  obtain ⟨fault | panic | exit⟩ | fresh := answer
                  · exact .intro _ ((alike.push _).note ..)
                  · exact .intro _ (alike.push _)
                  · exact .intro _ (alike.push _)
                  · exact .intro _ ((alike.push _).note ..)
          · exact inStep_replaceThrough thread block size _ h

end Stack

namespace Stack.IsFiltered

variable {filters : Log.FilterPair} {quiet loud : Stack}

theorem allocate (h : quiet.IsFiltered filters loud) (thread : Thread) (size : UInt64) :
    InStep (IsFiltered filters) (quiet.allocate thread size) (loud.allocate thread size) := by
  unfold Stack.allocate
  rw [h.layers_eq]
  exact inStep_allocateThrough thread size loud.layers h.site

theorem release (h : quiet.IsFiltered filters loud) (thread : Thread) (block : Block) :
    (quiet.release thread block).IsFiltered filters (loud.release thread block) := by
  unfold Stack.release
  rw [h.layers_eq]
  exact isFiltered_releaseThrough thread block loud.layers h.site

theorem resize (h : quiet.IsFiltered filters loud) (thread : Thread) (block : Block)
    (size : UInt64) :
    InStep (IsFiltered filters) (quiet.resize thread block size)
      (loud.resize thread block size) := by
  unfold Stack.resize
  rw [h.layers_eq]
  exact inStep_resizeThrough thread block size loud.layers h.site

theorem pair (h : quiet.IsFiltered filters loud) (thread : Thread) (size : UInt64) :
    InStep (IsFiltered filters) (quiet.pair thread size) (loud.pair thread size) := by
  have hcall := h.allocate thread size
  unfold Stack.pair
  generalize quiet.allocate thread size = calm, loud.allocate thread size = full at hcall
  cases hcall with
  | intro answer alike =>
      cases answer with
      | ok block => exact .intro _ (alike.release thread block)
      | error stop => exact .intro _ alike

end Stack.IsFiltered

namespace Growth

variable {filters : Log.FilterPair} {quiet loud : Stack}

theorem inStep_growThrough (thread : Thread) (sizes : List UInt64) (block : Block)
    (h : quiet.IsFiltered filters loud) :
    InStep (Stack.IsFiltered filters) (growThrough thread sizes block quiet)
      (growThrough thread sizes block loud) := by
  induction sizes generalizing block quiet loud with
  | nil => exact .intro _ (h.release thread block)
  | cons size rest ih =>
      have hcall := h.resize thread block size
      unfold growThrough
      generalize quiet.resize thread block size = calm,
        loud.resize thread block size = full at hcall
      cases hcall with
      | intro answer alike =>
          cases answer with
          | ok fresh => exact ih fresh alike
          | error stop => exact .intro _ alike

theorem inStep_grow (thread : Thread) (sizes : List UInt64) (h : quiet.IsFiltered filters loud) :
    InStep (Stack.IsFiltered filters) (grow thread sizes quiet) (grow thread sizes loud) := by
  cases sizes with
  | nil => exact .intro _ h
  | cons first rest =>
      have hcall := h.allocate thread first
      unfold grow
      dsimp only
      generalize quiet.allocate thread first = calm, loud.allocate thread first = full at hcall
      cases hcall with
      | intro answer alike =>
          cases answer with
          | ok block => exact inStep_growThrough thread rest block alike
          | error stop => exact .intro _ alike

theorem inStep_rounds (sizes : List UInt64) (left : Nat) (round requests : UInt64)
    (h : quiet.IsFiltered filters loud) :
    InStep (Stack.IsFiltered filters) (rounds sizes left round requests quiet)
      (rounds sizes left round requests loud) := by
  induction left generalizing round requests quiet loud with
  | zero => exact .intro _ h
  | succ left ih =>
      have hcall := inStep_grow .main sizes h
      unfold rounds
      generalize grow .main sizes quiet = calm, grow .main sizes loud = full at hcall
      cases hcall with
      | intro answer alike =>
          cases answer with
          | error stop => exact .intro _ alike
          | ok _ =>
              dsimp only
              split
              · exact .intro _ alike
              · exact ih _ _ (alike.emit ..)

/-- The growing fixture goes the same way. -/
theorem inStep_run (config : Config) (h : quiet.IsFiltered filters loud) :
    InStep (Stack.IsFiltered filters) (run config quiet) (run config loud) := by
  unfold run
  split
  · exact .intro _ h
  · exact inStep_rounds _ _ _ _ (h.emit ..)

end Growth

/-- The vector fixture goes the same way. -/
theorem Vectors.inStep_run {filters : Log.FilterPair} (config : Config) (heap : Heap)
    {quiet loud : Log.Journal} (h : quiet.IsFiltered filters loud) :
    InStep (Log.Journal.IsFiltered filters) (run config heap quiet) (run config heap loud) := by
  unfold run
  split
  · exact .intro _ h
  · dsimp only
    split <;> exact .intro _ (h.emit ..)

namespace Workers

variable {filters : Log.FilterPair} {quiet loud : Stack}

theorem inStep_cycles (thread : Thread) (size : UInt64) (left : Nat)
    (h : quiet.IsFiltered filters loud) :
    InStep (Stack.IsFiltered filters) (cycles thread size left quiet)
      (cycles thread size left loud) := by
  induction left generalizing quiet loud with
  | zero => exact .intro _ h
  | succ left ih =>
      have hcall := h.pair thread size
      unfold cycles
      generalize quiet.pair thread size = calm, loud.pair thread size = full at hcall
      cases hcall with
      | intro answer alike =>
          cases answer with
          | ok _ => exact ih alike
          | error stop => exact .intro _ alike

/-- A worker goes the same way. -/
theorem inStep_runWorker (thread : Thread) (index count size : UInt64)
    (h : quiet.IsFiltered filters loud) :
    InStep (Stack.IsFiltered filters) (runWorker thread index count size quiet)
      (runWorker thread index count size loud) := by
  have hcall := inStep_cycles thread size count.toNat
    (h.emit thread .trace .workers "worker started"
      [("index", .word index), ("cycles", .word count)])
  unfold runWorker
  dsimp only
  generalize cycles thread size count.toNat (quiet.emit ..) = calm,
    cycles thread size count.toNat (loud.emit ..) = full at hcall
  cases hcall with
  | intro answer alike => cases answer <;> exact .intro _ alike

end Workers
end HeapFixtures
