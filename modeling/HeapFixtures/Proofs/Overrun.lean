/-
# Rounds that words do not count

The growing fixture counts its requests in a word, round by round.  A run overruns if it comes to
a round that goes well and whose requests the word no longer takes.  That round is the end of the
run, with a panic; all other runs on an allocator that does not panic come back.

A round has 65 requests at most, so a run that overruns has more than `2 ^ 57` rounds.  On a heap
that refuses nothing it takes no more than so many requests.
-/

import HeapFixtures.Proofs.Doubling
import HeapFixtures.Proofs.Sturdiness
import HeapFixtures.Proofs.Totals

namespace HeapFixtures

/-- A heap that refuses nothing does not panic. -/
theorem Stack.Lavish.sturdy {stack : Stack} (lavish : stack.Lavish) : stack.Sturdy 0 := by
  constructor
  · rw [lavish.bare]
    exact nofun
  · rw [lavish.bare]
    exact nofun

namespace Growth

/-- The part of a run before its first round. -/
def opened (config : Config) (stack : Stack) : Stack :=
  stack.emit .main .info .growth "realloc fixture started"
    [("rounds", .word config.rounds),
      ("requests_per_round", .word (config.roundSizes?.getD []).length.toUInt64)]

/-- Among the rounds that are left there is one that goes well and has more requests than can
be counted after those before it. -/
def Uncounted (sizes : List UInt64) (left : Nat) (round requests : UInt64) (stack : Stack) : Prop :=
  ∃ done < left, ∃ counted between,
    rounds sizes done round requests stack = (.ok counted, between) ∧
      (grow .main sizes between).1 = .ok () ∧ Word.add? counted sizes.length.toUInt64 = none

section Rounds

variable {stack : Stack} {sizes : List UInt64} {left : Nat} {round requests : UInt64}

/-- A block that grows comes back, and is given back. -/
theorem returns_growThrough (thread : Thread) (sizes : List UInt64) (block : Block)
    (sturdy : stack.Sturdy 1) :
    Returns (growThrough thread sizes block stack).1 ∧
      (growThrough thread sizes block stack).2.Sturdy 0 := by
  induction sizes generalizing block stack with
  | nil => exact ⟨.ok (), sturdy.release thread block⟩
  | cons size rest ih =>
      unfold growThrough
      rcases hcall : stack.resize thread block size with ⟨answer, after⟩
      obtain ⟨fresh, rfl, hsturdy⟩ | ⟨fault, rfl, hsturdy⟩ := sturdy.resize hcall
      · exact ih fresh hsturdy
      · exact ⟨.fault fault, hsturdy⟩

theorem returns_grow (thread : Thread) (sizes : List UInt64) (sturdy : stack.Sturdy 0) :
    Returns (grow thread sizes stack).1 ∧ (grow thread sizes stack).2.Sturdy 0 := by
  cases sizes with
  | nil => exact ⟨.ok (), sturdy⟩
  | cons first rest =>
      rcases hcall : stack.allocate thread first with ⟨answer, after⟩
      obtain ⟨block, rfl, hsturdy⟩ | ⟨fault, rfl, hsturdy⟩ := sturdy.allocate hcall
      · simp only [grow, hcall]
        exact returns_growThrough thread rest block hsturdy
      · simp only [grow, hcall]
        exact ⟨.fault fault, hsturdy⟩

/-- A round that goes well and can be counted is followed by the others. -/
theorem rounds_of_counted {counted : UInt64} {between : Stack} (left : Nat)
    (well : grow .main sizes stack = (.ok (), between))
    (hcounted : Word.add? requests sizes.length.toUInt64 = some counted) :
    rounds sizes (left + 1) round requests stack =
      rounds sizes left (round + 1) counted
        (between.emit .main .debug .growth "round released" [("round", .word round)]) := by
  simp only [rounds, well, hcounted]

theorem uncounted_of_full (left : Nat) (well : (grow .main sizes stack).1 = .ok ())
    (full : Word.add? requests sizes.length.toUInt64 = none) :
    Uncounted sizes (left + 1) round requests stack :=
  ⟨0, Nat.succ_pos left, requests, stack, rfl, well, full⟩

/-- Where the first round can be counted, it is one of the others that cannot. -/
theorem uncounted_iff_of_counted {counted : UInt64} {between : Stack} (left : Nat)
    (well : grow .main sizes stack = (.ok (), between))
    (hcounted : Word.add? requests sizes.length.toUInt64 = some counted) :
    Uncounted sizes (left + 1) round requests stack ↔
      Uncounted sizes left (round + 1) counted
        (between.emit .main .debug .growth "round released" [("round", .word round)]) := by
  constructor
  · rintro ⟨_ | done, hdone, total, last, hrounds, hwell, full⟩
    · obtain ⟨htotal, rfl⟩ := Prod.mk.inj hrounds
      rw [← Except.ok.inj htotal, hcounted] at full
      cases full
    · rw [rounds_of_counted done well hcounted] at hrounds
      exact ⟨done, Nat.lt_of_succ_lt_succ hdone, total, last, hrounds, hwell, full⟩
  · rintro ⟨done, hdone, total, last, hrounds, hwell, full⟩
    rw [← rounds_of_counted done well hcounted] at hrounds
    exact ⟨done + 1, Nat.succ_lt_succ hdone, total, last, hrounds, hwell, full⟩

/-- Rounds come back, unless there is one among them that cannot be counted. -/
theorem rounds_cases (sturdy : stack.Sturdy 0) (sizes : List UInt64) (left : Nat)
    (round requests : UInt64) :
    Returns (rounds sizes left round requests stack).1 ∧
        ¬ Uncounted sizes left round requests stack ∨
      (rounds sizes left round requests stack).1 = .error (.panic .addOverflow) ∧
        Uncounted sizes left round requests stack := by
  induction left generalizing round requests stack with
  | zero =>
      refine .inl ⟨.ok _, ?_⟩
      rintro ⟨done, hdone, -⟩
      exact Nat.not_lt_zero _ hdone
  | succ left ih =>
      obtain ⟨returns, hsturdy⟩ := returns_grow .main sizes sturdy
      rcases hgrow : grow .main sizes stack with ⟨stop | _, between⟩
      · rw [hgrow] at returns
        have hstopped (done : Nat) : rounds sizes (done + 1) round requests stack =
            (.error stop, between) := by
          simp only [rounds, hgrow]
        rw [hstopped]
        refine .inl ⟨returns.of_error, ?_⟩
        rintro ⟨_ | done, -, counted, last, hrounds, hwell, -⟩
        · obtain ⟨-, rfl⟩ := Prod.mk.inj hrounds
          rw [hgrow] at hwell
          cases hwell
        · rw [hstopped] at hrounds
          cases hrounds
      · rw [hgrow] at hsturdy
        cases hadd : Word.add? requests sizes.length.toUInt64 with
        | none =>
            have well : (grow .main sizes stack).1 = .ok () := by rw [hgrow]
            refine .inr ⟨?_, uncounted_of_full left well hadd⟩
            simp only [rounds, hgrow, hadd]
        | some counted =>
            have hreported : (between.emit .main .debug .growth "round released"
                [("round", .word round)]).Sturdy 0 := hsturdy.congr rfl
            rw [rounds_of_counted left hgrow hadd, uncounted_iff_of_counted left hgrow hadd]
            exact ih hreported (round + 1) counted

/-- Each round that was counted has added its requests. -/
theorem toNat_of_rounds {done : Nat} {counted : UInt64} {between : Stack}
    (h : rounds sizes done round requests stack = (.ok counted, between)) :
    counted.toNat = requests.toNat + done * sizes.length.toUInt64.toNat := by
  induction done generalizing round requests stack with
  | zero =>
      obtain rfl := Except.ok.inj (Prod.mk.inj h).1
      simp
  | succ done ih =>
      unfold rounds at h
      rcases hgrow : grow .main sizes stack with ⟨stop | _, after⟩
      · rw [hgrow] at h
        cases h
      · cases hadd : Word.add? requests sizes.length.toUInt64 with
        | none =>
            simp only [hgrow, hadd] at h
            cases h
        | some total =>
            simp only [hgrow, hadd] at h
            rw [ih h, Word.toNat_of_add? hadd, Nat.succ_mul]
            omega

/-- A word counts the requests of a run unless there are more of them than words. -/
theorem Uncounted.size_le (uncounted : Uncounted sizes left 0 0 stack) :
    UInt64.size ≤ left * sizes.length := by
  obtain ⟨done, hdone, counted, between, hrounds, -, hnone⟩ := uncounted
  have hcounted := toNat_of_rounds hrounds
  have hexceeds : UInt64.size ≤ counted.toNat + sizes.length.toUInt64.toNat := by
    by_contra fits
    rw [Word.add?, if_pos (Nat.not_le.1 fits)] at hnone
    cases hnone
  have hlength : sizes.length.toUInt64.toNat ≤ sizes.length := Nat.mod_le _ _
  calc UInt64.size
      ≤ counted.toNat + sizes.length.toUInt64.toNat := hexceeds
    _ = (done + 1) * sizes.length.toUInt64.toNat := by
        rw [hcounted, Nat.succ_mul, show (0 : UInt64).toNat = 0 from rfl, Nat.zero_add]
    _ ≤ left * sizes.length := Nat.mul_le_mul hdone hlength

end Rounds

/-- A run of accepted settings comes to a round that goes well and whose requests a word does not
count. -/
def Config.Overruns (config : Config) (stack : Stack) : Prop :=
  config.validate = .ok () ∧
    Uncounted (config.roundSizes?.getD []) config.rounds.toNat 0 0 (opened config stack)

/-- A run comes back, unless it has a round that cannot be counted, and then it panics. -/
theorem run_cases (config : Config) {stack : Stack} (sturdy : stack.Sturdy 0) :
    Returns (run config stack).1 ∧ ¬ config.Overruns stack ∨
      (run config stack).1 = .error (.panic .addOverflow) ∧ config.Overruns stack := by
  unfold run Config.Overruns
  cases hvalid : config.validate with
  | error fault => exact .inl ⟨.fault fault, fun h => nomatch h.1⟩
  | ok _ =>
      rw [and_iff_right rfl]
      have hopened : (opened config stack).Sturdy 0 := sturdy.congr rfl
      exact rounds_cases hopened _ _ 0 0

theorem initialSize_ne_zero {config : Config} (valid : config.validate = .ok ()) :
    config.initialSize ≠ 0 := by
  intro hzero
  unfold Config.validate at valid
  rw [if_pos hzero] at valid
  split at valid <;> cases valid

/-- A round of accepted settings has 65 requests at most, and none of them is for zero bytes. -/
theorem roundSizes_of_valid {config : Config} (valid : config.validate = .ok ()) :
    (config.roundSizes?.getD []).length ≤ 65 ∧ ∀ size ∈ config.roundSizes?.getD [], size ≠ 0 := by
  have positive := initialSize_ne_zero valid
  obtain ⟨rest, h⟩ := exists_doubles config.maxSize positive
  rw [roundSizes?_eq_some_iff.2 ⟨rest, h, rfl⟩]
  refine ⟨Nat.succ_le_succ (h.length_le positive), List.forall_mem_cons.2 ⟨positive, ?_⟩⟩
  intro size hsize hzero
  have hlt := List.rel_of_pairwise_cons (h.pairwise positive) hsize
  rw [hzero] at hlt
  exact UInt64.not_lt_zero hlt

/-- It takes a word full of requests to overrun. -/
theorem Config.Overruns.size_le {config : Config} {stack : Stack}
    (overruns : config.Overruns stack) : UInt64.size ≤ config.rounds.toNat * 65 :=
  overruns.2.size_le.trans (Nat.mul_le_mul_left _ (roundSizes_of_valid overruns.1).1)

section Lavish

variable {stack : Stack} {sizes : List UInt64}

theorem exists_growThrough (lavish : stack.Lavish) (positive : ∀ size ∈ sizes, size ≠ 0)
    (thread : Thread) (block : Block) :
    ∃ after, growThrough thread sizes block stack = (.ok (), after) ∧ after.Lavish := by
  induction sizes generalizing block stack with
  | nil => exact ⟨_, rfl, (lavish.serves (.release thread block)).1⟩
  | cons size rest ih =>
      obtain ⟨hsize, hrest⟩ := List.forall_mem_cons.1 positive
      rcases hcall : stack.resize thread block size with ⟨answer, after⟩
      obtain ⟨hafter, generous⟩ := lavish.serves (.resize hcall)
      obtain ⟨fresh, rfl⟩ := generous hsize
      simp only [growThrough, hcall]
      exact ih hafter hrest fresh

theorem exists_grow (lavish : stack.Lavish) (positive : ∀ size ∈ sizes, size ≠ 0)
    (thread : Thread) : ∃ after, grow thread sizes stack = (.ok (), after) ∧ after.Lavish := by
  cases sizes with
  | nil => exact ⟨stack, rfl, lavish⟩
  | cons first rest =>
      obtain ⟨hfirst, hrest⟩ := List.forall_mem_cons.1 positive
      rcases hcall : stack.allocate thread first with ⟨answer, after⟩
      obtain ⟨hafter, generous⟩ := lavish.serves (.allocate hcall)
      obtain ⟨block, rfl⟩ := generous hfirst
      simp only [grow, hcall]
      exact exists_growThrough hafter hrest thread block

/-- On a heap that refuses nothing no round comes back with a fault. -/
theorem exists_rounds (lavish : stack.Lavish) (positive : ∀ size ∈ sizes, size ≠ 0) (left : Nat)
    (round requests : UInt64)
    (returns : Returns (rounds sizes left round requests stack).1) :
    ∃ counted between, rounds sizes left round requests stack = (.ok counted, between) := by
  induction left generalizing round requests stack with
  | zero => exact ⟨requests, stack, rfl⟩
  | succ left ih =>
      obtain ⟨after, hgrow, hafter⟩ := exists_grow lavish positive .main
      cases hadd : Word.add? requests sizes.length.toUInt64 with
      | none =>
          simp only [rounds, hgrow, hadd] at returns
          exact absurd (returns _ rfl) Panic.addOverflow.not_fault
      | some counted =>
          have hreported : (after.emit .main .debug .growth "round released"
              [("round", .word round)]).Lavish := ⟨hafter.bare, hafter.grants⟩
          rw [rounds_of_counted left hgrow hadd] at returns ⊢
          exact ih hreported (round + 1) counted returns

/-- On a heap that refuses nothing a run overruns if a word does not count its requests. -/
theorem overruns_of_lavish {config : Config} (valid : config.validate = .ok ())
    (lavish : stack.Lavish)
    (exceeds : UInt64.size ≤ config.rounds.toNat * (config.roundSizes?.getD []).length) :
    config.Overruns stack := by
  obtain ⟨few, positive⟩ := roundSizes_of_valid valid
  have hopened : (opened config stack).Lavish := ⟨lavish.bare, lavish.grants⟩
  refine ⟨valid, ?_⟩
  obtain ⟨returns, -⟩ | ⟨-, uncounted⟩ := rounds_cases (hopened.sturdy)
    (config.roundSizes?.getD []) config.rounds.toNat 0 0
  · obtain ⟨counted, between, hrounds⟩ := exists_rounds hopened positive _ _ _ returns
    have hcounted := toNat_of_rounds hrounds
    have hlength : (config.roundSizes?.getD []).length.toUInt64.toNat =
        (config.roundSizes?.getD []).length :=
      Nat.mod_eq_of_lt (few.trans_lt (by decide))
    rw [hlength, show (0 : UInt64).toNat = 0 from rfl, Nat.zero_add] at hcounted
    exact absurd counted.toNat_lt (Nat.not_lt.2 (exceeds.trans_eq hcounted.symm))
  · exact uncounted

end Lavish

end Growth

end HeapFixtures
