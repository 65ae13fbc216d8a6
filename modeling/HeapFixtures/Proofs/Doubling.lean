/-
# Sizes that double

The sizes of a round come from a loop without a bound of its own: as long as a size is below
the largest, it is doubled, cut to the largest, and listed.  `Doubles` is that loop as a
relation, so that a loop without an end is one that relates to no list.

The loop ends unless it starts from zero and is to go anywhere.  The sizes are the doubles in
unbounded arithmetic, cut to the largest: where a product leaves the words, the largest size
is below it all the same, so the product that is used instead is never seen.
-/

import HeapFixtures.Fixture.Growth
import Mathlib.Algebra.Order.Ring.Nat
import Mathlib.Data.List.Chain
import Mathlib.Order.Bounds.Basic

namespace HeapFixtures

/-- A saturating product is the product, as far as words reach. -/
theorem Word.toNat_saturatingMul (a b : UInt64) :
    (saturatingMul a b).toNat = min (a.toNat * b.toNat) (UInt64.size - 1) := by
  unfold saturatingMul mul?
  split
  next fits =>
    rw [Option.getD_some, UInt64.toNat_mul, Nat.mod_eq_of_lt fits]
    omega
  next exceeds =>
    rw [Option.getD_none, show largest.toNat = UInt64.size - 1 from rfl]
    omega

namespace Growth

/-- The loop that lists the sizes after a size. -/
inductive Doubles (maxSize : UInt64) : UInt64 → List UInt64 → Prop
  | done {size : UInt64} (reached : maxSize ≤ size) : Doubles maxSize size []
  | again {size : UInt64} {rest : List UInt64} (below : size < maxSize)
      (further : Doubles maxSize (grown size maxSize) rest) :
      Doubles maxSize size (grown size maxSize :: rest)

section Doubles

variable {size maxSize : UInt64} {rest : List UInt64}

/-- A size is doubled exactly: a product that leaves the words is cut to the largest size. -/
theorem toNat_grown (size maxSize : UInt64) :
    (grown size maxSize).toNat = min (size.toNat * 2) maxSize.toNat := by
  have hlt := maxSize.toNat_lt
  rw [grown, UInt64.toNat_min, Word.toNat_saturatingMul]
  show min (min (size.toNat * 2) _) _ = _
  simp only [UInt64.size]
  omega

/-- A size that is not zero grows until it has reached the largest. -/
theorem lt_grown (positive : size ≠ 0) (below : size < maxSize) : size < grown size maxSize := by
  have hpositive : size.toNat ≠ 0 := fun hzero => positive (UInt64.toNat_inj.1 hzero)
  rw [UInt64.lt_iff_toNat_lt] at below ⊢
  rw [toNat_grown]
  omega

/-- Zero stays where it is. -/
theorem grown_zero (maxSize : UInt64) : grown 0 maxSize = 0 := by
  rw [← UInt64.toNat_inj, toNat_grown]
  exact Nat.zero_min _

/-- From zero the loop has no end, if it begins at all. -/
theorem Doubles.ne_zero (h : Doubles maxSize size rest) (positive : maxSize ≠ 0) : size ≠ 0 := by
  induction h with
  | done reached =>
      rintro rfl
      exact positive (UInt64.le_zero_iff.1 reached)
  | again below further ih =>
      rintro rfl
      exact ih (grown_zero maxSize)

/-- From any other size the loop ends: each turn brings the size nearer to the largest. -/
theorem exists_doubles (maxSize : UInt64) (positive : size ≠ 0) :
    ∃ rest, Doubles maxSize size rest := by
  induction hdistance : maxSize.toNat - size.toNat using Nat.strong_induction_on
    generalizing size with
  | h distance ih =>
      by_cases below : size < maxSize
      · have hgrown := lt_grown positive below
        rw [UInt64.lt_iff_toNat_lt] at below hgrown
        have hpositive : grown size maxSize ≠ 0 := by
          intro hzero
          rw [hzero] at hgrown
          exact Nat.not_lt_zero _ hgrown
        obtain ⟨rest, hrest⟩ := ih _ (by omega) hpositive rfl
        exact ⟨_, .again (UInt64.lt_iff_toNat_lt.2 below) hrest⟩
      · exact ⟨[], .done (UInt64.not_lt.1 below)⟩

/-- The loop ends unless it doubles zero for ever. -/
theorem exists_doubles_iff : (∃ rest, Doubles maxSize size rest) ↔ size ≠ 0 ∨ maxSize = 0 := by
  constructor
  · rintro ⟨rest, h⟩
    by_cases hzero : maxSize = 0
    · exact .inr hzero
    · exact .inl (h.ne_zero hzero)
  · rintro (positive | rfl)
    · exact exists_doubles maxSize positive
    · exact ⟨[], .done UInt64.zero_le⟩

/-- Each size that is listed is a double of the first one, cut to the largest. -/
theorem Doubles.toNat_getElem (h : Doubles maxSize size rest) (i : Nat) (hi : i < rest.length) :
    rest[i].toNat = min (size.toNat * 2 ^ (i + 1)) maxSize.toNat := by
  induction h generalizing i with
  | done reached => cases hi
  | @again size rest below further ih =>
      cases i with
      | zero => exact toNat_grown size maxSize
      | succ i =>
          -- The cut of an earlier size changes no later one: what it takes away lies above the
          -- largest size, and doubling keeps it there.
          have hcut (size limit factor : Nat) (hfactor : 0 < factor) :
              min (min size limit * factor) limit = min (size * factor) limit := by
            have hlimit : limit ≤ limit * factor := Nat.le_mul_of_pos_right limit hfactor
            rw [← Nat.mul_min_mul_right, min_assoc, min_eq_right hlimit]
          have hrest := ih i (Nat.lt_of_succ_lt_succ hi)
          rw [List.getElem_cons_succ, hrest, toNat_grown, hcut _ _ _ (Nat.two_pow_pos _),
            Nat.mul_assoc, ← Nat.pow_succ']

/-- There are as many sizes after the first as it takes doublings to reach the largest. -/
theorem Doubles.isLeast_length (h : Doubles maxSize size rest) :
    IsLeast {n | maxSize.toNat ≤ size.toNat * 2 ^ n} rest.length := by
  induction h with
  | done reached =>
      refine ⟨?_, fun n _ => Nat.zero_le n⟩
      simpa using UInt64.le_iff_toNat_le.1 reached
  | @again size rest below further ih =>
      have hcut (n : Nat) : maxSize.toNat ≤ (grown size maxSize).toNat * 2 ^ n ↔
          maxSize.toNat ≤ size.toNat * 2 ^ (n + 1) := by
        have hlimit : maxSize.toNat ≤ maxSize.toNat * 2 ^ n :=
          Nat.le_mul_of_pos_right _ (Nat.two_pow_pos n)
        rw [toNat_grown, ← Nat.mul_min_mul_right, le_min_iff, Nat.mul_assoc, ← Nat.pow_succ']
        exact and_iff_left hlimit
      constructor
      · exact (hcut rest.length).1 ih.1
      · intro n hn
        cases n with
        | zero =>
            rw [UInt64.lt_iff_toNat_lt] at below
            have hreached : maxSize.toNat ≤ size.toNat := by simpa using hn
            omega
        | succ n => exact Nat.succ_le_succ (ih.2 ((hcut n).2 hn))

/-- The first size reaches the largest within as many doublings as a word has digits. -/
theorem Doubles.length_le (h : Doubles maxSize size rest) (positive : size ≠ 0) :
    rest.length ≤ 64 := by
  apply h.isLeast_length.2
  have hpositive : 0 < size.toNat :=
    Nat.pos_of_ne_zero fun hzero => positive (UInt64.toNat_inj.1 hzero)
  have hlt : maxSize.toNat < 2 ^ 64 := maxSize.toNat_lt
  exact hlt.le.trans (Nat.le_mul_of_pos_left _ hpositive)

/-- The sizes grow. -/
theorem Doubles.pairwise (h : Doubles maxSize size rest) (positive : size ≠ 0) :
    (size :: rest).Pairwise (· < ·) := by
  rw [← List.isChain_iff_pairwise]
  induction h with
  | done reached => exact .singleton _
  | @again size rest below further ih =>
      have hgrown := lt_grown positive below
      have hpositive : grown size maxSize ≠ 0 := by
        intro hzero
        rw [hzero] at hgrown
        exact UInt64.not_lt_zero hgrown
      exact .cons_cons hgrown (ih hpositive)

/-- The last size is the largest, unless the first one is beyond it. -/
theorem Doubles.getLast?_eq (h : Doubles maxSize size rest) (within : size ≤ maxSize) :
    (size :: rest).getLast? = some maxSize := by
  induction h with
  | done reached => rw [List.getLast?_singleton, UInt64.le_antisymm within reached]
  | @again size rest below further ih =>
      have hgrown : grown size maxSize ≤ maxSize := by
        rw [UInt64.le_iff_toNat_le, toNat_grown]
        exact min_le_right _ _
      rw [List.getLast?_cons_cons]
      exact ih hgrown

/-- With room for all of them the sizes are those that the loop lists. -/
theorem sizesAfter_eq_some_iff (room : Nat) :
    sizesAfter maxSize room size = some rest ↔ Doubles maxSize size rest ∧ rest.length ≤ room := by
  induction room generalizing size rest with
  | zero =>
      unfold sizesAfter
      split
      next below =>
        constructor
        · exact nofun
        · rintro ⟨h, hlength⟩
          cases h with
          | done reached => exact absurd below (UInt64.not_lt.2 reached)
          | again => cases hlength
      next reached =>
        constructor
        · intro h
          obtain rfl := Option.some.inj h
          exact ⟨.done (UInt64.not_lt.1 reached), Nat.le_refl 0⟩
        · rintro ⟨h, hlength⟩
          rw [List.eq_nil_of_length_eq_zero (Nat.le_zero.1 hlength)]
  | succ room ih =>
      unfold sizesAfter
      split
      next below =>
        rw [Option.map_eq_some_iff]
        constructor
        · rintro ⟨further, hfurther, rfl⟩
          obtain ⟨h, hlength⟩ := ih.1 hfurther
          exact ⟨.again below h, Nat.succ_le_succ hlength⟩
        · rintro ⟨h, hlength⟩
          cases h with
          | done reached => exact absurd below (UInt64.not_lt.2 reached)
          | again _ further => exact ⟨_, ih.2 ⟨further, Nat.le_of_succ_le_succ hlength⟩, rfl⟩
      next reached =>
        constructor
        · intro h
          obtain rfl := Option.some.inj h
          exact ⟨.done (UInt64.not_lt.1 reached), Nat.zero_le _⟩
        · rintro ⟨h, -⟩
          cases h with
          | done => rfl
          | again below => exact absurd below reached

/-- The sizes of a round are those that the loop lists: the room in their definition is always
enough. -/
theorem roundSizes?_eq_some_iff {config : Config} {sizes : List UInt64} :
    config.roundSizes? = some sizes ↔
      ∃ rest, Doubles config.maxSize config.initialSize rest ∧
        sizes = config.initialSize :: rest := by
  unfold Config.roundSizes?
  rw [Option.map_eq_some_iff]
  constructor
  · rintro ⟨rest, hrest, rfl⟩
    exact ⟨rest, ((sizesAfter_eq_some_iff 64).1 hrest).1, rfl⟩
  · rintro ⟨rest, h, rfl⟩
    refine ⟨rest, (sizesAfter_eq_some_iff 64).2 ⟨h, ?_⟩, rfl⟩
    cases h with
    | done reached => exact Nat.zero_le 64
    | again below further =>
        have hpositive : config.maxSize ≠ 0 := by
          intro hzero
          rw [hzero] at below
          exact UInt64.not_lt_zero below
        have h := Doubles.again below further
        exact h.length_le (h.ne_zero hpositive)

end Doubles

/-- What is to be said of the sizes of a round. -/
structure Doubling (initialSize maxSize : UInt64) (sizes : List UInt64) : Prop where
  /-- Every size after the first is a double of it in unbounded arithmetic, cut to the
  largest. -/
  exact : ∀ i (h : i < sizes.length), sizes[i].toNat =
    if i = 0 then initialSize.toNat else min (initialSize.toNat * 2 ^ i) maxSize.toNat
  /-- A round that grows does so from the first size to the largest, in as many steps as the
  first size takes to be doubled beyond it. -/
  grows : initialSize < maxSize →
    sizes.Pairwise (· < ·) ∧ sizes.head? = some initialSize ∧ sizes.getLast? = some maxSize ∧
      (∃ n, IsLeast {n | maxSize.toNat ≤ initialSize.toNat * 2 ^ n} n ∧ sizes.length = 1 + n) ∧
      sizes.length ≤ 65
  single : maxSize ≤ initialSize → sizes = [initialSize]

/-- The loop that lists the sizes of a round ends exactly if it does not start from zero or has
nowhere to go, and then it lists the sizes of the round.  From a size that is not zero these are its
doubles, cut to the largest size. -/
theorem round_sizes_double (config : Config) :
    ((∃ rest, Doubles config.maxSize config.initialSize rest) ↔
        config.initialSize ≠ 0 ∨ config.maxSize = 0) ∧
      (∀ sizes, config.roundSizes? = some sizes ↔
        ∃ rest, Doubles config.maxSize config.initialSize rest ∧
          sizes = config.initialSize :: rest) ∧
      (config.initialSize ≠ 0 → ∃ sizes, config.roundSizes? = some sizes ∧
        Doubling config.initialSize config.maxSize sizes) ∧
      ∀ size, (grown size config.maxSize).toNat = min (size.toNat * 2) config.maxSize.toNat := by
  refine ⟨exists_doubles_iff, fun sizes => roundSizes?_eq_some_iff, ?_,
    fun size => toNat_grown size config.maxSize⟩
  intro positive
  obtain ⟨rest, h⟩ := exists_doubles config.maxSize positive
  refine ⟨_, roundSizes?_eq_some_iff.2 ⟨rest, h, rfl⟩, ?_⟩
  constructor
  case exact =>
    intro i hi
    cases i with
    | zero => rfl
    | succ i => exact h.toNat_getElem i (Nat.lt_of_succ_lt_succ hi)
  case grows =>
    intro below
    have hlength : (config.initialSize :: rest).length = 1 + rest.length := Nat.add_comm _ _
    refine ⟨h.pairwise positive, rfl, h.getLast?_eq (UInt64.le_of_lt below),
      ⟨rest.length, h.isLeast_length, hlength⟩, ?_⟩
    exact Nat.succ_le_succ (h.length_le positive)
  case single =>
    intro reached
    cases h with
    | done => rfl
    | again below => exact absurd below (UInt64.not_lt.2 reached)

/-- The last doubling leaves the words, and its size is the largest all the same. -/
theorem last_size_is_largest_word :
    Config.roundSizes? ⟨1, 6148914691236517206, 18446744073709551615⟩ =
        some [6148914691236517206, 12297829382473034412, 18446744073709551615] ∧
      Doubling 6148914691236517206 18446744073709551615
        [6148914691236517206, 12297829382473034412, 18446744073709551615] := by
  have hsizes : Config.roundSizes? ⟨1, 6148914691236517206, 18446744073709551615⟩ =
      some [6148914691236517206, 12297829382473034412, 18446744073709551615] := by decide
  obtain ⟨sizes, hsome, hdoubling⟩ :=
    (round_sizes_double ⟨1, 6148914691236517206, 18446744073709551615⟩).2.2.1 (by decide)
  obtain rfl := Option.some.inj (hsizes.symm.trans hsome)
  exact ⟨hsizes, hdoubling⟩

end Growth
end HeapFixtures
