/-
# The requests of the growing fixture

All requests of a run are known before the first: each round asks for a block of the first
size, moves it to the others one after the other, and gives it back, and all rounds are alike.
A run makes these requests in this order, to the end or up to the first one that is refused,
wherever in a round that is, and then it makes no more: neither the rest of the round nor
another round, and no release.

A refused block and a block that is refused another size come out alike on the counters,
although there is a block in hand in one case and none in the other.
-/

import HeapFixtures.Proofs.Bookkeeping
import HeapFixtures.Proofs.Overrun
import HeapFixtures.Proofs.Recording

namespace HeapFixtures

/-- The counters of a layer that has seen the first sizes of some, up to the one of a number. -/
theorem Counters.ofSizes_take {sizes : List UInt64} {number : Nat} (positive : 0 < number)
    (within : number ≤ sizes.length) :
    ofSizes (sizes.take (number - 1)) =
      { allocations := UInt64.ofNat (number - 1)
        releases := UInt64.ofNat (number - 1)
        bytes := UInt64.ofNat ((sizes.take (number - 1)).map UInt64.toNat).sum
        live := 0
        peak := if number = 1 then 0 else 1 } := by
  have hlength : (sizes.take (number - 1)).length = number - 1 := by
    rw [List.length_take]
    omega
  have hnone : sizes.take (number - 1) = [] ↔ number = 1 := by
    rw [← List.length_eq_zero_iff, hlength]
    omega
  simp only [ofSizes, hlength, hnone]

/-- The counters of a layer that has seen the same sizes a number of times. -/
theorem Counters.ofSizes_replicate {sizes : List UInt64} {count : Nat} (some : sizes ≠ [])
    (positive : count ≠ 0) :
    ofSizes (List.replicate count sizes).flatten =
      { allocations := UInt64.ofNat (count * sizes.length)
        releases := UInt64.ofNat (count * sizes.length)
        bytes := UInt64.ofNat (count * (sizes.map UInt64.toNat).sum)
        live := 0
        peak := 1 } := by
  have hlength : (List.replicate count sizes).flatten.length = count * sizes.length := by simp
  have hsum : ((List.replicate count sizes).flatten.map UInt64.toNat).sum =
      count * (sizes.map UInt64.toNat).sum := by
    simp [List.map_flatten, List.sum_flatten]
  have hsome : (List.replicate count sizes).flatten ≠ [] := by
    intro hnone
    rw [hnone] at hlength
    exact Nat.mul_ne_zero positive (mt List.length_eq_zero_iff.1 some) hlength.symm
  simp only [ofSizes, hlength, hsum, if_neg hsome]

namespace Growth

open Script

section Played

variable {stack : Stack} {sizes : List UInt64} {round requests : UInt64}

theorem played_growThrough (thread : Thread) (sizes : List UInt64) (block : Block)
    (stack : Stack) :
    Played thread (some block) (growth sizes) stack (growThrough thread sizes block stack).1
      (growThrough thread sizes block stack).2 := by
  induction sizes generalizing block stack with
  | nil => exact .whole () (.cons (.release thread block) (.nil _)) (.release (.nil none))
  | cons size rest ih =>
      unfold growThrough
      rcases hcall : stack.resize thread block size with ⟨answer, after⟩
      cases answer with
      | ok fresh => exact .resize hcall (ih fresh after)
      | error stop => exact .denied (.resize hcall) (.resize block size) (growth rest)

/-- A round follows its script, whichever request of it is refused. -/
theorem played_grow (thread : Thread) (sizes : List UInt64) (stack : Stack) :
    Played thread none (Script.round sizes) stack (grow thread sizes stack).1
      (grow thread sizes stack).2 := by
  cases sizes with
  | nil => exact .nil () ⟨rfl, rfl, rfl⟩
  | cons first rest =>
      rcases hcall : stack.allocate thread first with ⟨answer, after⟩
      cases answer with
      | ok block =>
          simp only [grow, hcall]
          exact .allocate hcall (played_growThrough thread rest block after)
      | error stop =>
          simp only [grow, hcall]
          exact .denied (.allocate hcall) (.allocate first) (growth rest)

/-- Rounds whose requests can be counted follow their script. -/
theorem played_rounds (sizes : List UInt64) (left : Nat) (round requests : UInt64)
    (stack : Stack) (fits : requests.toNat + left * sizes.length < UInt64.size) :
    Played .main none (Script.rounds sizes left) stack
      (rounds sizes left round requests stack).1 (rounds sizes left round requests stack).2 := by
  induction left generalizing round requests stack with
  | zero => exact .nil requests ⟨rfl, rfl, rfl⟩
  | succ left ih =>
      have hgrow := played_grow .main sizes stack
      rw [Nat.succ_mul] at fits
      have hlength : sizes.length.toUInt64.toNat = sizes.length :=
        Nat.mod_eq_of_lt (show sizes.length < UInt64.size by omega)
      -- A round that is broken off leaves the rounds that were to follow unasked.
      rw [rounds_succ]
      rcases hcall : grow .main sizes stack with ⟨stop | _, between⟩
      · rw [hcall] at hgrow
        simp only [rounds, hcall]
        exact hgrow.stopped _
      · rw [hcall] at hgrow
        cases hadd : Word.add? requests sizes.length.toUInt64 with
        | none =>
            rw [Word.add?, hlength, if_pos (by omega)] at hadd
            cases hadd
        | some counted =>
            have hcounted := Word.toNat_of_add? hadd
            rw [rounds_of_counted left hcall hadd]
            exact hgrow.append (.aside (Stack.aside_emit ..) (ih _ counted _ (by omega)))

end Played

/-- What becomes of a run of rounds of some sizes on an allocator.  A counting layer that is new
and on top shows the requests that were granted, and a recording layer on top notes the calls. -/
inductive Plays (count : Nat) (sizes : List UInt64) (before after : Stack) :
    Except Stop UInt64 → Prop
  /-- Every request was granted. -/
  | complete {dealings : List Dealing} (history : before.History dealings after)
      (performed : Performed .main none (Script.rounds sizes count) dealings none)
      (shows : before.Shows .zero → after.Shows
        { allocations := UInt64.ofNat (count * sizes.length)
          releases := UInt64.ofNat (count * sizes.length)
          bytes := UInt64.ofNat (count * (sizes.map UInt64.toNat).sum)
          live := 0
          peak := 1 })
      (notes : before.Records → after.noted = before.noted ++
        ((Script.rounds sizes count).calls (count * sizes.length) 0).map (Thread.main, ·)) :
      Plays count sizes before after (.ok (UInt64.ofNat (count * sizes.length)))
  /-- The request of a number was the first that was not granted, and the last one made. -/
  | cut {dealings : List Dealing} {stop : Stop} {number : Nat}
      (history : before.History dealings after)
      (brokenOff : BrokenOff .main stop none (Script.rounds sizes count) number dealings)
      (bounds : 0 < number ∧ number ≤ count * sizes.length)
      (shows : ∀ fault, stop = .fault fault → before.Shows .zero → after.Shows
        { allocations := UInt64.ofNat (number - 1)
          releases := UInt64.ofNat (number - 1)
          bytes := UInt64.ofNat
            (((List.replicate count sizes).flatten.take (number - 1)).map UInt64.toNat).sum
          live := 0
          peak := if number = 1 then 0 else 1 })
      (notes : ∀ fault, stop = .fault fault → before.Records → after.noted = before.noted ++
        ((Script.rounds sizes count).calls (number - 1) 0).map (Thread.main, ·)) :
      Plays count sizes before after (.error stop)

theorem rounds_ne_zero {config : Config} (valid : config.validate = .ok ()) :
    config.rounds.toNat ≠ 0 := by
  intro hzero
  have hrounds : config.rounds = 0 := UInt64.toNat_inj.1 hzero
  rw [Config.validate, if_pos hrounds] at valid
  cases valid

theorem plays_of_played {count : Nat} {sizes : List UInt64} {before after : Stack}
    {result : Except Stop UInt64} (some : sizes ≠ []) (positive : count ≠ 0)
    (h : Played .main none (Script.rounds sizes count) before result after)
    (counts : ∀ total, result = .ok total → total = UInt64.ofNat (count * sizes.length)) :
    Plays count sizes before after result := by
  have hsizes := sizes_rounds sizes count
  cases h with
  | whole total history performed =>
      rw [counts total rfl]
      refine .complete history performed ?_ ?_
      · intro fresh
        have hshows := performed.shows history fresh
        rw [hsizes, Counters.ofSizes_replicate some positive] at hshows
        exact hshows
      · intro records
        have hlength : (Script.rounds sizes count).sizes.length = count * sizes.length := by
          simp [hsizes]
        have hnoted := performed.noted history records
        rw [hlength] at hnoted
        exact hnoted
  | @cut _ dealings stop number history brokenOff =>
      have hbounds := brokenOff.bounds
      rw [hsizes] at hbounds
      refine .cut history brokenOff (by simpa using hbounds) ?_ ?_
      · rintro fault rfl fresh
        have hshows := brokenOff.shows history fresh
        rw [hsizes, Counters.ofSizes_take hbounds.1 hbounds.2] at hshows
        exact hshows
      · rintro fault rfl records
        exact brokenOff.noted history records

/-- An accepted run whose requests a word can count makes them in order, all of them or up to the
first that is not granted.  It returns their number, or what that one was answered.  On an allocator
that does not panic it returns. -/
theorem run_follows_its_script {config : Config} (valid : config.validate = .ok ())
    {sizes : List UInt64} (hsizes : config.roundSizes? = some sizes)
    (fits : config.rounds.toNat * sizes.length < UInt64.size) (stack : Stack) :
    Plays config.rounds.toNat sizes stack (run config stack).2 (run config stack).1 ∧
      (stack.Sturdy 0 → Returns (run config stack).1) := by
  have hsome : sizes ≠ [] := by
    obtain ⟨rest, -, rfl⟩ := roundSizes?_eq_some_iff.1 hsizes
    exact List.cons_ne_nil _ _
  have hrun : run config stack =
      rounds sizes config.rounds.toNat 0 0 (opened config stack) := by
    simp only [run, valid, opened, hsizes]
    rfl
  have hzero : (0 : UInt64).toNat + config.rounds.toNat * sizes.length < UInt64.size := by
    rw [show (0 : UInt64).toNat = 0 from rfl, Nat.zero_add]
    exact fits
  constructor
  · have hlength : sizes.length.toUInt64.toNat = sizes.length := by
      apply Nat.mod_eq_of_lt
      have hfew := (roundSizes_of_valid valid).1
      rw [hsizes] at hfew
      exact (show sizes.length ≤ 65 from hfew).trans_lt (by decide)
    rw [hrun]
    refine plays_of_played hsome (rounds_ne_zero valid)
      (.aside (Stack.aside_emit ..) (played_rounds sizes _ 0 0 _ hzero)) ?_
    intro total htotal
    have hcounted := toNat_of_rounds (Prod.ext htotal rfl)
    rw [hlength, show (0 : UInt64).toNat = 0 from rfl, Nat.zero_add] at hcounted
    rw [← hcounted, UInt64.ofNat_toNat]
  · intro sturdy
    obtain ⟨returns, -⟩ | ⟨-, overruns⟩ := run_cases config sturdy
    · exact returns
    · have hsize := overruns.2.size_le
      rw [hsizes] at hsize
      exact absurd fits (Nat.not_lt.2 hsize)

/-- On three counting layers the fourth request of the only round is refused, where a lower gate
keeps the block from growing.  A recording layer on top of them notes the four. -/
theorem fourth_request_is_refused :
    Config.validate ⟨1, 8, 64⟩ = .ok () ∧ Config.roundSizes? ⟨1, 8, 64⟩ = some [8, 16, 32, 64] ∧
      (run ⟨1, 8, 64⟩ .layered).1 = .error (.fault (.allocationFailed 64)) ∧
      (run ⟨1, 8, 64⟩ .layered).2.Shows ⟨3, 3, 56, 0, 1⟩ ∧
      Plays 1 [8, 16, 32, 64] .layered (run ⟨1, 8, 64⟩ .layered).2 (run ⟨1, 8, 64⟩ .layered).1 ∧
      Returns (run ⟨1, 8, 64⟩ .layered).1 ∧
      (run ⟨1, 8, 64⟩ (Stack.layered.push (.gate .recorder))).2.noted =
        [(.main, .allocate 8 true), (.main, .resize 8 16 true), (.main, .resize 16 32 true),
          (.main, .resize 32 64 false)] := by
  have valid : Config.validate ⟨1, 8, 64⟩ = .ok () := by decide
  have hsizes : Config.roundSizes? ⟨1, 8, 64⟩ = some [8, 16, 32, 64] := by decide
  have hrefused : (run ⟨1, 8, 64⟩ .layered).1 = .error (.fault (.allocationFailed 64)) := by decide
  have unused : Stack.layered.Unused := by
    simp [Stack.Unused, Stack.layered]
  obtain ⟨hplays, hreturns⟩ := run_follows_its_script valid hsizes (by decide) .layered
  exact ⟨valid, hsizes, hrefused, by rfl, hplays, hreturns (unused.sturdy Stack.calm_layered),
    by rfl⟩

end Growth
end HeapFixtures
