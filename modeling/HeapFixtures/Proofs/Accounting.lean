/-
# Blocks in the journal

The system's heap tells the journal of its blocks, so that a log of all traces can be read as
an account of them: a block comes with one event and goes with another, and a resize that
succeeds is an event of its own, which leaves the number of blocks as it is.

The account has one gap.  A resize that the heap refuses takes the old block all the same, and
says nothing of it.  So after every operation there are as many blocks missing from the heap
that the journal takes for blocks in use, as there were refused resizes.
-/

import HeapFixtures.Proofs.Dealing
import Mathlib.Data.List.Nodup

namespace HeapFixtures

namespace Heap

/-- The blocks that a heap holds, as their owner sees them. -/
def blocks (heap : Heap) : List Block := heap.cells.map fun cell => ⟨cell.address, cell.size⟩

/-- The system's heap, which holds the blocks of its user and no others, each of them once. -/
structure Owns (heap : Heap) (held : List Block) : Prop where
  system : heap.backing = .system
  blocks_eq : heap.blocks = held
  distinct : (held.map Block.address).Nodup
  sound : ∀ block ∈ held, block.address < heap.next

namespace Owns

variable {heap after : Heap} {held : List Block} {size : UInt64} {block fresh : Block}

theorem grant (owns : heap.Owns held) (h : heap.grant size = (some fresh, after)) :
    after.Owns (fresh :: held) := by
  obtain ⟨system, rfl, distinct, sound⟩ := owns
  unfold Heap.grant at h
  split at h
  next granted =>
    obtain ⟨rfl, rfl⟩ := h
    constructor
    case system => exact system
    case blocks_eq => rfl
    case distinct =>
      rw [List.map_cons, List.nodup_cons]
      refine ⟨?_, distinct⟩
      intro hmem
      obtain ⟨block, hblock, haddress⟩ := List.mem_map.1 hmem
      exact absurd haddress (Nat.ne_of_lt (sound block hblock))
    case sound =>
      intro block hblock
      cases hblock with
      | head => exact Nat.lt_succ_self _
      | tail _ hblock => exact Nat.lt_succ_of_lt (sound block hblock)
  next refused => cases h

theorem refused (owns : heap.Owns held) (h : heap.grant size = (none, after)) :
    after.Owns held := by
  unfold Heap.grant at h
  split at h
  next granted => cases h
  next refused =>
    obtain ⟨-, rfl⟩ := h
    exact ⟨owns.system, owns.blocks_eq, owns.distinct, owns.sound⟩

/-- No two blocks share an address, so a block that goes is the one at its address. -/
theorem free (owns : heap.Owns held) (holds : block ∈ held) :
    (heap.free block).Owns (held.erase block) := by
  obtain ⟨system, rfl, distinct, sound⟩ := owns
  constructor
  case system => exact system
  case blocks_eq =>
    rw [(List.Nodup.of_map _ distinct).erase_eq_filter, blocks, Heap.free, blocks, List.filter_map]
    apply congrArg
    apply List.filter_congr
    intro cell hcell
    have hsame : cell.address = block.address ↔ (⟨cell.address, cell.size⟩ : Block) = block := by
      constructor
      · exact List.inj_on_of_nodup_map distinct (List.mem_map_of_mem hcell) holds
      · exact congrArg Block.address
    apply Bool.eq_iff_iff.2
    simp [hsame]
  case distinct => exact distinct.sublist (List.erase_sublist.map _)
  case sound => exact fun other hother => sound other (List.mem_of_mem_erase hother)

/-- Bytes are no matter of the blocks. -/
theorem store (owns : heap.Owns held) (block : Block) (bytes : List UInt8) :
    (heap.store block bytes).Owns held := by
  obtain ⟨system, rfl, distinct, sound⟩ := owns
  refine ⟨system, ?_, distinct, sound⟩
  rw [blocks, Heap.store, List.map_map, blocks]
  apply List.map_congr_left
  intro cell _
  rw [Function.comp_apply]
  split <;> rfl

theorem move (owns : heap.Owns held) (holds : block ∈ held)
    (h : heap.move block size = (some fresh, after)) : after.Owns (fresh :: held.erase block) := by
  unfold Heap.move at h
  split at h
  next granted grown hgrant =>
    obtain ⟨rfl, rfl⟩ := h
    have hgrown := owns.grant hgrant
    have hcopied := hgrown.store fresh ((grown.bytes block).take fresh.size.toNat)
    have hfreed := hcopied.free (List.mem_cons_of_mem fresh holds)
    have hother : fresh ≠ block := by
      rintro rfl
      exact (List.nodup_cons.1 hgrown.distinct).1 (List.mem_map_of_mem holds)
    rw [List.erase_cons_tail (by simpa using hother)] at hfreed
    exact hfreed
  next refused heap hgrant => cases h

theorem move_refused (owns : heap.Owns held) (h : heap.move block size = (none, after)) :
    after.Owns held := by
  unfold Heap.move at h
  split at h
  next granted grown hgrant => cases h
  next refused heap hgrant =>
    obtain ⟨-, rfl⟩ := h
    exact owns.refused hgrant

end Owns
end Heap

/-- What the system's heap says of a block. -/
def Log.Event.ofBlock (thread : Thread) (message : String) (size : UInt64) : Log.Event :=
  ⟨thread, .trace, .allocation, message, [("size", .word size), ("addr", .address)]⟩

/-- The names of the values in what the system's heap says. -/
def Log.blockNames : List String := Log.valueNames [("size", .word 0), ("addr", .address)]

namespace Dealing

/-- A resize that was refused for want of memory. -/
def isUntold : Dealing → Bool
  | .resize _ _ _ (.error (.fault (.allocationFailed _))) => true
  | _ => false

/-- What the journal is told of a dealing with the system's heap. -/
def told : Dealing → List Log.Event
  | .allocate thread size (.ok _) => [.ofBlock thread "allocated block" size]
  | .allocate _ _ (.error _) => []
  | .release thread block => [.ofBlock thread "releasing block" block.size]
  | .resize thread _ size (.ok _) => [.ofBlock thread "resized block" size]
  | .resize _ _ _ (.error (.fault (.allocationFailed _))) => []
  | .resize thread block _ (.error _) => [.ofBlock thread "releasing block" block.size]

end Dealing

namespace Log

/-- How many of these events have a message. -/
def tally (message : String) (events : List Event) : Nat :=
  events.countP fun event => event.message = message

end Log

/-- A site whose heap holds what the user holds, with a journal that writes what the heap
says. -/
structure Site.Accounts (site : Site) (held : List Block) : Prop where
  audible : site.journal.enables .allocation .trace Log.blockNames = true
  owns : site.heap.Owns held

namespace Site.Accounts

variable {site after : Site} {held : List Block} {thread : Thread} {size : UInt64}
  {block fresh : Block} {fault : Fault}

theorem of_heap {heap : Heap} {now : List Block} (accounts : site.Accounts held)
    (owns : heap.Owns now) : Accounts { site with heap := heap } now :=
  ⟨accounts.audible, owns⟩

/-- The journal hears of a block, and nothing else happens. -/
theorem mention (accounts : site.Accounts held) (thread : Thread) (message : String)
    (size : UInt64) :
    (site.mention thread message size).Accounts held ∧
      (site.mention thread message size).journal.events =
        site.journal.events ++ [.ofBlock thread message size] := by
  have haudible : site.journal.enables .allocation .trace
      (Log.valueNames [("size", .word size), ("addr", .address)]) = true := accounts.audible
  unfold Site.mention
  rw [accounts.owns.system]
  refine ⟨⟨?_, accounts.owns⟩, ?_⟩
  · unfold Site.emit Log.Journal.enables
    rw [Log.Journal.filter_emit]
    exact accounts.audible
  · rw [Site.emit, Log.Journal.events_emit, if_pos haudible]
    rfl

theorem allocate (accounts : site.Accounts held)
    (h : site.allocate thread size = (.ok fresh, after)) :
    after.Accounts (fresh :: held) ∧
      after.journal.events = site.journal.events ++ [.ofBlock thread "allocated block" size] := by
  unfold Site.allocate at h
  split at h
  next zero => cases h
  next positive =>
    split at h
    next block heap hgrant =>
      obtain ⟨rfl, rfl⟩ := h
      exact (accounts.of_heap (accounts.owns.grant hgrant)).mention ..
    next heap hgrant => cases h

/-- A refused request is not spoken of. -/
theorem allocate_refused (accounts : site.Accounts held)
    (h : site.allocate thread size = (.error fault, after)) :
    after.Accounts held ∧ after.journal.events = site.journal.events := by
  unfold Site.allocate at h
  split at h
  next zero =>
    obtain ⟨-, rfl⟩ := h
    exact ⟨accounts, rfl⟩
  next positive =>
    split at h
    next block heap hgrant => cases h
    next heap hgrant =>
      obtain ⟨-, rfl⟩ := h
      exact ⟨accounts.of_heap (accounts.owns.refused hgrant), rfl⟩

theorem release (accounts : site.Accounts held) (holds : block ∈ held) (thread : Thread) :
    (site.release thread block).Accounts (held.erase block) ∧
      (site.release thread block).journal.events =
        site.journal.events ++ [.ofBlock thread "releasing block" block.size] := by
  obtain ⟨hmentioned, hevents⟩ := accounts.mention thread "releasing block" block.size
  exact ⟨hmentioned.of_heap (hmentioned.owns.free holds), hevents⟩

theorem resize (accounts : site.Accounts held) (holds : block ∈ held)
    (h : site.resize thread block size = (.ok fresh, after)) :
    after.Accounts (fresh :: held.erase block) ∧
      after.journal.events = site.journal.events ++ [.ofBlock thread "resized block" size] := by
  unfold Site.resize at h
  split at h
  next zero => cases h
  next positive =>
    split at h
    next moved heap hmove =>
      obtain ⟨rfl, rfl⟩ := h
      exact (accounts.of_heap (accounts.owns.move holds hmove)).mention ..
    next heap hmove => cases h

/-- A refused resize takes the block.  It says so for a size of zero, and else it does not. -/
theorem resize_refused (accounts : site.Accounts held) (holds : block ∈ held)
    (h : site.resize thread block size = (.error fault, after)) :
    after.Accounts (held.erase block) ∧
      (fault = .zeroSize ∧ after.journal.events =
          site.journal.events ++ [.ofBlock thread "releasing block" block.size] ∨
        fault = .allocationFailed size ∧ after.journal.events = site.journal.events) := by
  unfold Site.resize at h
  split at h
  next zero =>
    obtain ⟨rfl, rfl⟩ := h
    obtain ⟨hreleased, hevents⟩ := accounts.release holds thread
    exact ⟨hreleased, .inl ⟨rfl, hevents⟩⟩
  next positive =>
    split at h
    next moved heap hmove => cases h
    next heap hmove =>
      obtain ⟨rfl, rfl⟩ := h
      have hrefused := accounts.of_heap (accounts.owns.move_refused hmove)
      exact ⟨hrefused.of_heap (hrefused.owns.free holds), .inr ⟨rfl, rfl⟩⟩

end Site.Accounts

namespace Stack

/-- A heap without layers. -/
structure Accounts (stack : Stack) (held : List Block) : Prop where
  bare : stack.layers = []
  accounts : stack.site.Accounts held

variable {stack after : Stack} {held : List Block} {dealing : Dealing}

/-- The journal is told of a dealing what it is to be told. -/
theorem Serves.told (served : stack.Serves dealing after) (accounts : stack.Accounts held)
    (lawful : dealing.Lawful held) :
    after.Accounts (dealing.hold held) ∧
      after.site.journal.events = stack.site.journal.events ++ dealing.told := by
  obtain ⟨layers, site⟩ := stack
  obtain ⟨rfl, accounts⟩ := accounts
  cases served with
  | @allocate thread size answer after served =>
      rw [Stack.allocate, allocateThrough] at served
      split at served
      next block last h =>
        obtain ⟨rfl, rfl⟩ := served
        obtain ⟨hlast, hevents⟩ := accounts.allocate h
        exact ⟨⟨rfl, hlast⟩, hevents⟩
      next fault last h =>
        obtain ⟨rfl, rfl⟩ := served
        obtain ⟨hlast, hevents⟩ := accounts.allocate_refused h
        exact ⟨⟨rfl, hlast⟩, hevents.trans (List.append_nil _).symm⟩
  | release thread block =>
      obtain ⟨hlast, hevents⟩ := accounts.release (lawful block rfl) thread
      exact ⟨⟨rfl, hlast⟩, hevents⟩
  | @resize thread block size answer after served =>
      have holds : block ∈ held := lawful block rfl
      rw [Stack.resize, resizeThrough] at served
      split at served
      next fresh last h =>
        obtain ⟨rfl, rfl⟩ := served
        obtain ⟨hlast, hevents⟩ := accounts.resize holds h
        exact ⟨⟨rfl, hlast⟩, hevents⟩
      next fault last h =>
        obtain ⟨rfl, rfl⟩ := served
        obtain ⟨hlast, ⟨rfl, hevents⟩ | ⟨rfl, hevents⟩⟩ := accounts.resize_refused holds h
        · exact ⟨⟨rfl, hlast⟩, hevents⟩
        · exact ⟨⟨rfl, hlast⟩, hevents.trans (List.append_nil _).symm⟩

/-- The dealings of an operation are told one after the other. -/
theorem told_operate (accounts : stack.Accounts held) (thread : Thread) (operation : Operation)
    (lawful : Dealing.Throughout Dealing.Lawful held (stack.operate thread operation).1) :
    (stack.operate thread operation).2.Accounts
        (Dealing.holdAll held (stack.operate thread operation).1) ∧
      (stack.operate thread operation).2.site.journal.events =
        stack.site.journal.events ++ (stack.operate thread operation).1.flatMap Dealing.told := by
  have hsingle {dealing : Dealing} {after : Stack} (served : stack.Serves dealing after)
      (lawful : dealing.Lawful held) :
      after.Accounts (Dealing.holdAll held [dealing]) ∧
        after.site.journal.events =
          stack.site.journal.events ++ [dealing].flatMap Dealing.told := by
    rw [List.flatMap_singleton]
    exact served.told accounts lawful
  cases operation with
  | allocate size => exact hsingle (.allocate rfl) lawful.1
  | release block => exact hsingle (.release thread block) lawful.1
  | resize block size => exact hsingle (.resize rfl) lawful.1
  | pair size =>
      obtain ⟨block, between, hallocate, hpair⟩ | ⟨stop, between, hallocate, hpair⟩ :=
        pair_eq stack thread size
      · simp only [operate, hallocate, hpair] at lawful ⊢
        have served : stack.Serves (.allocate thread size (.ok block)) between :=
          .allocate hallocate
        obtain ⟨hbetween, hfirst⟩ := served.told accounts lawful.1
        obtain ⟨hafter, hsecond⟩ := (Serves.release thread block).told hbetween lawful.2.1
        refine ⟨hafter, ?_⟩
        rw [hsecond, hfirst, List.append_assoc]
        rfl
      · simp only [operate, hallocate, hpair] at lawful ⊢
        exact hsingle (.allocate hallocate) lawful.1

/-- After any operations the heap holds what the user holds, and the journal has been told of
all of them. -/
theorem told_operateAll (accounts : stack.Accounts held)
    (operations : List (Thread × Operation))
    (lawful : Dealing.Throughout Dealing.Lawful held (stack.operateAll operations).1) :
    (stack.operateAll operations).2.Accounts
        (Dealing.holdAll held (stack.operateAll operations).1) ∧
      (stack.operateAll operations).2.site.journal.events =
        stack.site.journal.events ++ (stack.operateAll operations).1.flatMap Dealing.told := by
  induction operations generalizing stack held with
  | nil => exact ⟨accounts, (List.append_nil _).symm⟩
  | cons entry rest ih =>
      obtain ⟨thread, operation⟩ := entry
      simp only [operateAll] at lawful ⊢
      obtain ⟨hfirst, hrest⟩ := Dealing.throughout_append.1 lawful
      obtain ⟨haccounts, hevents⟩ := told_operate accounts thread operation hfirst
      obtain ⟨hlast, hlater⟩ := ih haccounts hrest
      rw [Dealing.holdAll_append, List.flatMap_append, ← List.append_assoc, ← hevents]
      exact ⟨hlast, hlater⟩

end Stack

namespace Dealing

variable {held : List Block} {dealing : Dealing} {dealings : List Dealing}

/-- One dealing: the blocks that have come are those that are there, those that were seen to
go, and those that went untold. -/
theorem tally_told (lawful : dealing.Lawful held) :
    held.length + Log.tally "allocated block" dealing.told =
      (dealing.hold held).length + Log.tally "releasing block" dealing.told +
        [dealing].countP isUntold := by
  have herase {block : Block} (hblock : dealing.parted? = some block) :
      (held.erase block).length + 1 = held.length := by
    have holds : block ∈ held := lawful block hblock
    rw [List.length_erase_of_mem holds]
    exact Nat.succ_pred_eq_of_pos (List.length_pos_of_mem holds)
  cases dealing with
  | allocate thread size answer =>
      cases answer with
      | ok block => rfl
      | error stop => rfl
  | release thread block => exact (herase rfl).symm
  | resize thread block size answer =>
      cases answer with
      | ok fresh => exact (herase rfl).symm
      | error stop =>
          cases stop with
          | fault fault => cases fault with | _ => exact (herase rfl).symm
          | panic panic => exact (herase rfl).symm
          | exit exit => exact (herase rfl).symm

/-- Any number of dealings, added up. -/
theorem tally_told_all (lawful : Throughout Lawful held dealings) :
    held.length + Log.tally "allocated block" (dealings.flatMap told) =
      (holdAll held dealings).length + Log.tally "releasing block" (dealings.flatMap told) +
        dealings.countP isUntold := by
  induction dealings generalizing held with
  | nil => rfl
  | cons dealing rest ih =>
      have hfirst := tally_told lawful.1
      have hrest := ih lawful.2
      have hall : holdAll held (dealing :: rest) = holdAll (dealing.hold held) rest := rfl
      have hcount : (dealing :: rest).countP isUntold =
          [dealing].countP isUntold + rest.countP isUntold := by
        rw [← List.singleton_append, List.countP_append]
      simp only [List.flatMap_cons, Log.tally, List.countP_append, hall, hcount] at *
      omega

end Dealing

/-- The system's heap without a layer, as a filter lets one see it. -/
def Stack.onSystem (grants : Nat → UInt64 → Bool) (filter : Log.Filter) : Stack :=
  ⟨[], .fresh { Heap.system with grants := grants } (.start filter)⟩

theorem Stack.accounts_onSystem (grants : Nat → UInt64 → Bool) {filter : Log.Filter}
    (audible : filter.enables .allocation .trace Log.blockNames = true) :
    (Stack.onSystem grants filter).Accounts [] :=
  ⟨rfl, audible, rfl, rfl, List.nodup_nil, nofun⟩

/-- The system's heap holds the blocks of its user and no others, whatever it refuses, and its
journal tells of every dealing.  So at any time the blocks that came are those that are there, those
that were released, and those that a resize took which was refused for want of memory.  The journal
accounts for every block exactly as long as there is no such resize. -/
theorem journal_accounts_for_blocks (grants : Nat → UInt64 → Bool) (filter : Log.Filter)
    (operations : List (Thread × Operation))
    (audible : filter.enables .allocation .trace Log.blockNames = true)
    (lawful : Dealing.Throughout Dealing.Lawful []
      ((Stack.onSystem grants filter).operateAll operations).1) :
    let (dealings, after) := (Stack.onSystem grants filter).operateAll operations
    let events := after.site.journal.events
    let live := Dealing.holdAll [] dealings
    after.site.heap.blocks = live ∧ events = dealings.flatMap Dealing.told ∧
      Log.tally "allocated block" events =
        Log.tally "releasing block" events + live.length + dealings.countP Dealing.isUntold ∧
      ((Log.tally "allocated block" events : ℤ) - Log.tally "releasing block" events =
          live.length ↔
        ∀ dealing ∈ dealings, dealing.isUntold = false) := by
  obtain ⟨haccounts, hevents⟩ :=
    Stack.told_operateAll (Stack.accounts_onSystem grants audible) operations lawful
  have htally := Dealing.tally_told_all lawful
  dsimp only
  rw [show (Stack.onSystem grants filter).site.journal.events = [] from rfl,
    List.nil_append] at hevents
  rw [hevents]
  have hnone :
      ((Stack.onSystem grants filter).operateAll operations).1.countP Dealing.isUntold = 0 ↔
        ∀ dealing ∈ ((Stack.onSystem grants filter).operateAll operations).1,
          dealing.isUntold = false := by
    simp [List.countP_eq_zero]
  refine ⟨haccounts.accounts.owns.blocks_eq, rfl, ?_, ?_⟩
  · rw [List.length_nil] at htally
    omega
  · rw [← hnone]
    rw [List.length_nil] at htally
    omega

/-- A block that was resized and released is accounted for; one that a refused resize took is
missing. -/
theorem refused_resize_leaves_one_block :
    let operations : List (Thread × Operation) :=
      [(.main, .allocate 16), (.worker 0, .allocate 24), (.main, .resize ⟨0, 16⟩ 32),
        (.main, .release ⟨2, 32⟩), (.worker 0, .resize ⟨1, 24⟩ 64)]
    let (dealings, after) :=
      (Stack.onSystem (fun _ size => size < 64) (.upTo .trace)).operateAll operations
    Dealing.Throughout Dealing.Lawful [] dealings ∧
      Log.tally "allocated block" after.site.journal.events =
        Log.tally "releasing block" after.site.journal.events + 0 + 1 := by
  have hlawful : Dealing.Throughout Dealing.Lawful []
      ((Stack.onSystem (fun _ size => size < 64) (.upTo .trace)).operateAll
        [(.main, .allocate 16), (.worker 0, .allocate 24), (.main, .resize ⟨0, 16⟩ 32),
          (.main, .release ⟨2, 32⟩), (.worker 0, .resize ⟨1, 24⟩ 64)]).1 := by decide
  exact ⟨hlawful, (journal_accounts_for_blocks _ _ _ rfl hlawful).2.2.1⟩

/-- The journal does not account for every block: one that a refused resize took is missing
from the heap, and no event says so. -/
theorem refused_resize_untold :
    ¬ ∀ (grants : Nat → UInt64 → Bool) (operations : List (Thread × Operation)),
      Dealing.Throughout Dealing.Lawful []
          ((Stack.onSystem grants (.upTo .trace)).operateAll operations).1 →
        let (dealings, after) := (Stack.onSystem grants (.upTo .trace)).operateAll operations
        (Log.tally "allocated block" after.site.journal.events : ℤ) -
            Log.tally "releasing block" after.site.journal.events =
          (Dealing.holdAll [] dealings).length := by
  intro h
  have hcount := h (fun _ size => size < 64)
    [(.main, .allocate 16), (.main, .resize ⟨0, 16⟩ 64)] (by decide)
  exact absurd hcount (by decide)

end HeapFixtures
