/-
# What a sequential run leaves behind

The text in the sink is at every moment the beginning of a sequence of lines, whatever
the sink and the allocator do, and no line is begun before its block has been given back.
From the way in which a run ends one can tell how many lines, flushes and pairs there are,
since the effects of a run are whole iterations and, after a fault, one that was cut short.
-/

import HeapFixtures.Proofs.Iteration
import Mathlib.Computability.Primrec.List
import Mathlib.Data.List.Permutation

namespace HeapFixtures

/-- So many blocks of a size that were handed out and given back at once, and then the
rest of the dealings. -/
inductive Dealing.Paired (size : UInt64) (rest : List Dealing) : Nat → List Dealing → Prop
  | nil : Paired size rest 0 rest
  | cons {count : Nat} {dealings : List Dealing} (block : Block)
      (paired : Paired size rest count dealings) :
      Paired size rest (count + 1)
        (.allocate .main size (.ok block) :: .release .main block :: dealings)

theorem Dealing.Paired.append {size : UInt64} {rest dealings further : List Dealing}
    {count more : Nat} (h : Paired size [] count dealings) (h' : Paired size rest more further) :
    Paired size rest (count + more) (dealings ++ further) := by
  induction h with
  | nil =>
      rw [Nat.zero_add]
      exact h'
  | @cons count _ block _ ih =>
      rw [Nat.add_right_comm]
      exact .cons block ih

theorem Dealing.Paired.length_parted {size : UInt64} {count : Nat} {dealings : List Dealing}
    (h : Paired size [] count dealings) : (parted dealings).length = count := by
  induction h with
  | nil => rfl
  | cons block _ ih => exact congrArg (· + 1) ih

namespace Sequential

/-- A number of lines. -/
def lines (count : Nat) : List Char := (List.replicate count line).flatten

/-- The lengths at which a number of lines end, after a text of a length. -/
def lineEnds (length count : Nat) : List Nat :=
  (List.range count).map fun number => length + 5 * (number + 1)

section Lines

@[simp]
theorem length_line : line.length = 5 := rfl

theorem lines_succ (count : Nat) : lines (count + 1) = line ++ lines count := by
  rw [lines, List.replicate_succ, List.flatten_cons]
  rfl

theorem lines_succ' (count : Nat) : lines (count + 1) = lines count ++ line := by
  rw [lines, List.replicate_succ', List.flatten_append, List.flatten_singleton]
  rfl

theorem length_lines (count : Nat) : (lines count).length = 5 * count := by
  induction count with
  | zero => rfl
  | succ count ih =>
      rw [lines_succ, List.length_append, length_line, ih]
      omega

theorem line_prefix_lines (count : Nat) : line <+: lines (count + 1) := by
  rw [lines_succ]
  exact List.prefix_append line (lines count)

theorem lineEnds_succ (length count : Nat) :
    lineEnds length (count + 1) = lineEnds length count ++ [length + 5 * (count + 1)] := by
  rw [lineEnds, List.range_succ, List.map_append]
  rfl

/-- More lines end where the first ones end, and then at the same distances. -/
theorem lineEnds_add (length first rest : Nat) :
    lineEnds length (first + rest) =
      lineEnds length first ++ lineEnds (length + 5 * first) rest := by
  rw [lineEnds, List.range_add, List.map_append, List.map_map]
  congr 1
  apply List.map_congr_left
  intro number _
  show length + 5 * (first + number + 1) = length + 5 * first + 5 * (number + 1)
  omega

end Lines

namespace Effect

/-- The number of blocks given back. -/
def released (effects : List Effect) : Nat := (Dealing.parted (dealings effects)).length

/-- At every moment the text is a beginning of as many lines as blocks have been given
back. -/
def Timely (effects : List Effect) : Prop :=
  ∀ moment, moment <+: effects → text moment <+: lines (released moment)

section Takes

variable {part : List Char} {writes : List Effect} (takes : Takes part writes)

include takes

theorem Takes.dealings : dealings writes = [] := by
  rw [Effect.dealings, List.filterMap_eq_nil_iff]
  intro effect heffect
  have hwrite := takes.only effect heffect
  cases effect with
  | write text reply => rfl
  | dealing made => cases hwrite
  | flush reply => cases hwrite

/-- A flush takes no text. -/
theorem Takes.flush_begins (reply : Except IoError Unit) :
    Effect.text (writes ++ [.flush reply]) <+: part := by
  refine ⟨[], ?_⟩
  rw [List.append_nil, text_append, takes.text]
  exact List.append_nil part

theorem Takes.flushes : flushes writes = 0 := by
  rw [Effect.flushes, List.countP_eq_zero]
  intro effect heffect
  have hwrite := takes.only effect heffect
  cases effect with
  | write text reply => exact Bool.noConfusion
  | dealing made => cases hwrite
  | flush reply => cases hwrite

end Takes

theorem flushedAt_of_flushes {effects : List Effect} (h : flushes effects = 0)
    (length : Nat) : flushedAt length effects = [] := by
  induction effects generalizing length with
  | nil => rfl
  | cons effect rest ih =>
      rw [flushes, List.countP_eq_zero] at h
      have hrest : flushes rest = 0 := by
        rw [flushes, List.countP_eq_zero]
        intro later hlater
        exact h later (List.mem_cons_of_mem _ hlater)
      have hflush := h effect List.mem_cons_self
      cases effect with
      | dealing made => exact ih hrest _
      | write text reply => exact ih hrest _
      | flush reply => exact absurd rfl hflush

/-- The writes of an unfinished text take a proper beginning of it, and the last of them is
to blame. -/
theorem Written.unfinished {text : List Char} {error : IoError} {writes : List Effect}
    (h : Written text (.error error) writes) :
    ∃ part front rest reply, writes = front ++ [.write rest reply] ∧
      WriteReply.Blames reply error ∧ Takes part writes ∧ part <+: text ∧ part ≠ text := by
  cases h with
  | @broken part front error rest reply takes isBeginning isProper blames =>
      have hlast : Takes [] [.write rest reply] := by
        simpa [accepted_of_blames blames] using takes_write rest reply
      have htakes : Takes part (front ++ [.write rest reply]) := by
        simpa using takes.append hlast
      exact ⟨part, front, rest, reply, rfl, blames, htakes, isBeginning, isProper⟩

section Timely

variable {size : UInt64} {first rest effects : List Effect}

theorem released_append (first rest : List Effect) :
    released (first ++ rest) = released first + released rest := by
  simp [released, Dealing.parted]

theorem text_begins (h : first <+: effects) : text first <+: text effects := by
  obtain ⟨rest, rfl⟩ := h
  rw [text_append]
  exact List.prefix_append _ _

theorem timely_nil : Timely [] := by
  intro moment hmoment
  rw [List.prefix_nil.1 hmoment]
  exact List.nil_prefix

/-- A line is begun only after the pair of its iteration. -/
theorem timely_pair (block : Block) (h : text effects <+: line) :
    Timely (pair size block ++ effects) := by
  intro moment hmoment
  rcases List.prefix_cons_iff.1 hmoment with rfl | ⟨later, rfl, hlater⟩
  · exact List.nil_prefix
  · rcases List.prefix_cons_iff.1 hlater with rfl | ⟨tail, rfl, htail⟩
    · exact List.nil_prefix
    · have htext := (text_begins htail).trans h
      have hreleased : released (pair size block ++ tail) = released tail + 1 := rfl
      show text tail <+: lines (released (pair size block ++ tail))
      rw [hreleased]
      exact htext.trans (line_prefix_lines _)

/-- Lines may follow a line. -/
theorem timely_append (h : Timely first) (hline : text first = line)
    (hreleased : released first = 1) (h' : Timely rest) : Timely (first ++ rest) := by
  intro moment hmoment
  rcases List.prefix_or_prefix_of_prefix hmoment (List.prefix_append first rest) with
    hearly | ⟨later, rfl⟩
  · exact h moment hearly
  · have hlater := h' later ((List.prefix_append_right_inj first).1 hmoment)
    rw [released_append, hreleased, text_append, hline, Nat.add_comm, lines_succ]
    exact (List.prefix_append_right_inj line).2 hlater

end Timely

/-- What effects tell of a run: its text; its flushes, of which the first ones succeeded,
each at the end of a line; and its pairs, with the rest of the dealings. -/
structure Tally (size : UInt64) (text : List Char) (flushes flushed pairs : Nat)
    (rest : List Dealing) (effects : List Effect) : Prop where
  text : Effect.text effects = text
  flushes : Effect.flushes effects = flushes
  flushedAt : ∀ length, Effect.flushedAt length effects = lineEnds length flushed
  paired : Dealing.Paired size rest pairs (dealings effects)

section Tally

variable {size : UInt64} {text : List Char} {flushes flushed pairs : Nat}
  {rest : List Dealing} {writes effects : List Effect}

theorem tally_nil : Tally size [] 0 0 0 [] [] :=
  ⟨rfl, rfl, fun _ => rfl, .nil⟩

/-- Writes add to a pair what they take. -/
theorem tally_writes (block : Block) (takes : Takes text writes) :
    Tally size text 0 0 1 [] (pair size block ++ writes) := by
  refine ⟨takes.text, takes.flushes, ?_, ?_⟩
  · intro length
    exact flushedAt_of_flushes takes.flushes length
  · have h : dealings (pair size block ++ writes) = _ :: _ :: dealings writes := rfl
    rw [h, takes.dealings]
    exact .cons block .nil

theorem tally_refused (stop : Stop) :
    Tally size [] 0 0 0 [.allocate .main size (.error stop)]
      [.dealing (.allocate .main size (.error stop))] :=
  ⟨rfl, rfl, fun _ => rfl, .nil⟩

/-- A flush after a line is counted, and noted if it succeeds. -/
theorem tally_flush (block : Block) (reply : Except IoError Unit) (takes : Takes line writes) :
    Tally size line 1 (if reply.isOk then 1 else 0) 1 []
      (pair size block ++ (writes ++ [.flush reply])) := by
  have hwrites : Tally size line 0 0 1 [] (pair size block ++ writes) := tally_writes block takes
  rw [← List.append_assoc]
  constructor
  case text =>
    rw [text_append, hwrites.text]
    rfl
  case flushes =>
    rw [flushes_append, hwrites.flushes]
    rfl
  case flushedAt =>
    intro length
    have hnone : Effect.flushedAt length (pair size block ++ writes) = [] :=
      hwrites.flushedAt length
    rw [flushedAt_append, hnone, hwrites.text]
    cases reply with
    | ok _ => rfl
    | error error => rfl
  case paired =>
    have hdealings : dealings ((pair size block ++ writes) ++ [.flush reply]) =
        dealings (pair size block ++ writes) := by
      rw [dealings_append]
      exact List.append_nil _
    rw [hdealings]
    exact hwrites.paired

theorem Tally.released (h : Tally size text flushes flushed pairs [] effects) :
    released effects = pairs := h.paired.length_parted

/-- A run may go on where as many lines as flushes have succeeded. -/
theorem Tally.append {first : List Effect} {more : List Char} {flushes' flushed' pairs' : Nat}
    (h : Tally size text flushes flushed pairs [] first) (hlength : text.length = 5 * flushed)
    (h' : Tally size more flushes' flushed' pairs' rest effects) :
    Tally size (text ++ more) (flushes + flushes') (flushed + flushed') (pairs + pairs') rest
      (first ++ effects) := by
  constructor
  case text =>
    rw [text_append, h.text, h'.text]
  case flushes =>
    rw [flushes_append, h.flushes, h'.flushes]
  case flushedAt =>
    intro length
    rw [flushedAt_append, h.flushedAt, h'.flushedAt, h.text, hlength, lineEnds_add]
  case paired =>
    rw [dealings_append]
    exact h.paired.append h'.paired

end Tally
end Effect

section Run

open Effect

variable {size : UInt64} {effects iteration : List Effect}

theorem Whole.tally (whole : Whole size iteration) : Tally size line 1 1 1 [] iteration := by
  obtain ⟨block, takes⟩ := whole
  exact tally_flush block (.ok ()) takes

theorem Whole.timely (whole : Whole size iteration) : Timely iteration := by
  obtain ⟨block, takes⟩ := whole
  exact timely_pair block (takes.flush_begins _)

theorem Cut.timely {stop : Stop} (cut : Cut size stop effects) : Timely effects := by
  cases cut with
  | refused =>
      intro moment hmoment
      have htext := text_begins hmoment
      rw [List.prefix_nil.1 htext]
      exact List.nil_prefix
  | unwritten block written => exact timely_pair block written.text_begins
  | unflushed error block takes => exact timely_pair block (takes.flush_begins _)

/-- Whole iterations make as many lines, flushes and pairs, all of them in time. -/
theorem tally_iterations {iterations : List (List Effect)}
    (whole : ∀ iteration ∈ iterations, Whole size iteration) :
    Tally size (lines iterations.length) iterations.length iterations.length
      iterations.length [] iterations.flatten := by
  induction iterations with
  | nil => exact tally_nil
  | cons iteration iterations ih =>
      have hfirst := (whole iteration List.mem_cons_self).tally
      have hrest := ih fun later hlater => whole later (List.mem_cons_of_mem _ hlater)
      have h := hfirst.append rfl hrest
      rw [List.length_cons, lines_succ, Nat.add_comm]
      exact h

/-- A run is in time if its last iteration is. -/
theorem timely_iterations {iterations : List (List Effect)}
    (whole : ∀ iteration ∈ iterations, Whole size iteration) (h : Timely effects) :
    Timely (iterations.flatten ++ effects) := by
  induction iterations with
  | nil => exact h
  | cons iteration iterations ih =>
      have hfirst := whole iteration List.mem_cons_self
      have hrest := ih fun later hlater => whole later (List.mem_cons_of_mem _ hlater)
      have htally := hfirst.tally
      rw [List.flatten_cons, List.append_assoc]
      exact timely_append hfirst.timely htally.text htally.released hrest

/-- How the loop ends after a number of iterations: with the effects of one that was cut
short, if a fault ends it. -/
inductive Closed (size : UInt64) (count : Nat) :
    Except Stop Summary → UInt64 → List Effect → Prop
  | finished {summary : Summary} {completed : UInt64} (reported : summary.iterations = completed)
      (counted : completed.toNat = count) : Closed size count (.ok summary) completed []
  | cut {effects : List Effect} {stop : Stop} {completed : UInt64} (cut : Cut size stop effects)
      (counted : completed.toNat = count) : Closed size count (.error stop) completed effects
  | lost {stop : Stop} (completed : UInt64) (isLost : ∀ fault, stop ≠ .fault fault) :
      Closed size count (.error stop) completed []

theorem acts_loop (config : Config) (pauses : Pauses) (room : Nat) (session : Session) :
    ∃ (iterations : List (List Effect)) (last : List Effect),
      (∀ iteration ∈ iterations, Whole config.blockSize iteration) ∧
      session.Acts (iterations.flatten ++ last) (loop config pauses room session).2 ∧
      Closed config.blockSize (session.completed.toNat + iterations.length)
        (loop config pauses room session).1 (loop config pauses room session).2.completed
        last := by
  induction room generalizing session with
  | zero => exact ⟨[], [], by simp, .nil session, .lost _ fun _ => Stop.noConfusion⟩
  | succ room ih =>
      have hturn := turned_turn config pauses session
      unfold loop
      generalize turn config pauses session = made at hturn
      cases hturn with
      | @again next iteration whole acts counted =>
          obtain ⟨iterations, last, hwhole, hacts, hclosed⟩ := ih next
          refine ⟨iteration :: iterations, last, ?_, ?_, ?_⟩
          · exact List.forall_mem_cons.2 ⟨whole, hwhole⟩
          · rw [List.flatten_cons, List.append_assoc]
            exact acts.append hacts
          · rw [counted, Nat.add_right_comm] at hclosed
            exact hclosed
      | @ended next cause iterations whole acts counted =>
          refine ⟨iterations, [], whole, ?_, .finished rfl counted⟩
          exact acts.append (.of_aside (Stack.aside_emit ..) rfl)
      | @cut next effects stop cut acts counted =>
          exact ⟨[], effects, by simp, acts, .cut cut (congrArg UInt64.toNat counted)⟩
      | @lost next iteration stop whole acts isLost =>
          exact ⟨[iteration], [], by simpa using whole, by simpa using acts, .lost _ isLost⟩

/-- What a run has added to a sink: a text, and flushes of which the first ones succeeded,
each at the end of a line; and the pairs it has made, with the rest of its dealings. -/
structure Leaves (size : UInt64) (before after : Sink) (dealings : List Dealing)
    (text : List Char) (flushes flushed pairs : Nat) (rest : List Dealing) : Prop where
  taken : after.taken.toList = before.taken.toList ++ text
  flushes : after.flushes = before.flushes + flushes
  flushedAt : after.flushedAt.toList =
    before.flushedAt.toList ++ lineEnds before.taken.size flushed
  paired : Dealing.Paired size rest pairs dealings

theorem Session.Acts.leaves {session last : Session} {text : List Char}
    {flushes flushed pairs : Nat} {rest : List Dealing} (acts : session.Acts effects last)
    (tally : Tally size text flushes flushed pairs rest effects) :
    Leaves size session.sink last.sink (dealings effects) text flushes flushed pairs rest := by
  refine ⟨?_, ?_, ?_, tally.paired⟩
  · rw [acts.taken, tally.text]
  · rw [acts.flushes, tally.flushes]
  · rw [acts.flushedAt, tally.flushedAt]

/-- How a run ends with its effects, after a number of iterations.  A fault goes back to the
last of its effects. -/
inductive Ends (size : UInt64) (before after : Sink) (effects : List Effect) (count : Nat) :
    Except Stop Summary → Prop
  | finished {summary : Summary} (counted : summary.iterations.toNat = count)
      (leaves : Leaves size before after (dealings effects) (lines count) count count count []) :
      Ends size before after effects count (.ok summary)
  /-- The allocator gave no block. -/
  | refused {fault : Fault} {request : Dealing}
      (blamed : request = .allocate .main size (.error (.fault fault)))
      (last : effects.getLast? = some (.dealing request))
      (leaves : Leaves size before after (dealings effects) (lines count) count count count
        [request]) :
      Ends size before after effects count (.error (.fault fault))
  /-- The sink did not take a line. -/
  | unwritten {error : IoError} {part rest : List Char} {reply : WriteReply}
      (blamed : reply.Blames error) (last : effects.getLast? = some (.write rest reply))
      (isBeginning : part <+: line) (isProper : part ≠ line)
      (leaves : Leaves size before after (dealings effects) (lines count ++ part) count count
        (count + 1) []) :
      Ends size before after effects count (.error (.fault (.io error)))
  /-- The sink did not flush. -/
  | unflushed {error : IoError} (last : effects.getLast? = some (.flush (.error error)))
      (leaves : Leaves size before after (dealings effects) (lines (count + 1)) (count + 1) count
        (count + 1) []) :
      Ends size before after effects count (.error (.fault (.io error)))
  /-- Something panicked, or the process was ended. -/
  | lost {stop : Stop} (isLost : ∀ fault, stop ≠ .fault fault) :
      Ends size before after effects count (.error stop)

/-- A run that was cut short ends with the effect that is to blame. -/
theorem ends_cut {session last : Session} {iterations : List (List Effect)} {stop : Stop}
    {count : Nat} (whole : ∀ iteration ∈ iterations, Whole size iteration)
    (cut : Cut size stop effects) (acts : session.Acts (iterations.flatten ++ effects) last)
    (counted : iterations.length = count) :
    Ends size session.sink last.sink (iterations.flatten ++ effects) count (.error stop) := by
  subst counted
  have htally := tally_iterations whole
  have hlength := length_lines iterations.length
  cases cut with
  | refused stop =>
      cases stop with
      | panic panic => exact .lost fun _ => Stop.noConfusion
      | exit exit => exact .lost fun _ => Stop.noConfusion
      | fault fault =>
          have hlast := acts.leaves (htally.append hlength (tally_refused _))
          rw [List.append_nil] at hlast
          exact .refused rfl List.getLast?_concat hlast
  | unwritten block written =>
      obtain ⟨part, front, rest, reply, rfl, blames, takes, isBeginning, isProper⟩ :=
        written.unfinished
      have hlast := acts.leaves (htally.append hlength (tally_writes block takes))
      have heq : List.getLast?
          (iterations.flatten ++ (pair size block ++ (front ++ [Effect.write rest reply]))) =
            some (Effect.write rest reply) := by
        rw [← List.append_assoc, ← List.append_assoc, List.getLast?_concat]
      exact .unwritten blames heq isBeginning isProper hlast
  | unflushed error block takes =>
      have hlast := acts.leaves (htally.append hlength (tally_flush block (.error error) takes))
      rw [← lines_succ'] at hlast
      refine .unflushed ?_ hlast
      rw [← List.append_assoc, ← List.append_assoc, List.getLast?_concat]

/-- Whatever the sink and the allocator do, the text in the sink is at every moment a
beginning of as many lines as blocks have been given back, and the way in which a run ends
tells the lines, the flushes and the pairs.  That the sink may end a run at any character
of a line, and the allocator at any block, fixes the order between the two. -/
theorem run_leaves_its_lines {config : Config} (valid : config.validate = .ok ())
    (pauses : Pauses) (stack : Stack) (sink : Sink) :
    ∃ effects, Session.Acts ⟨stack, sink, 0⟩ effects (run config pauses stack sink).2 ∧
      Timely effects ∧
      Ends config.blockSize sink (run config pauses stack sink).2.sink effects
        (run config pauses stack sink).2.completed.toNat (run config pauses stack sink).1 := by
  have hstart : ∃ begun, start config stack sink = .ok begun ∧
      Session.Acts ⟨stack, sink, 0⟩ [] begun ∧ begun.completed = 0 := by
    rw [start, valid]
    exact ⟨_, rfl, .of_aside (Stack.aside_emit ..) rfl, rfl⟩
  obtain ⟨begun, hbegun, haside, hzero⟩ := hstart
  obtain ⟨iterations, last, hwhole, hacts, hclosed⟩ :=
    acts_loop config pauses UInt64.size begun
  have hrun : run config pauses stack sink = loop config pauses UInt64.size begun := by
    rw [run, hbegun]
  have hzero' : begun.completed.toNat + iterations.length = iterations.length := by
    rw [hzero]
    exact Nat.zero_add _
  rw [hrun]
  rw [hzero'] at hclosed
  generalize loop config pauses UInt64.size begun = ended at hacts hclosed
  obtain ⟨result, final⟩ := ended
  have hall : Session.Acts ⟨stack, sink, 0⟩ (iterations.flatten ++ last) final :=
    haside.append hacts
  refine ⟨_, hall, ?_, ?_⟩
  · apply timely_iterations hwhole
    cases hclosed with
    | finished reported counted => exact timely_nil
    | cut cut counted => exact cut.timely
    | lost completed isLost => exact timely_nil
  · cases hclosed with
    | finished reported counted =>
        rw [List.append_nil] at hall ⊢
        have hleaves := hall.leaves (tally_iterations hwhole)
        rw [← counted] at hleaves
        exact .finished (congrArg UInt64.toNat reported) hleaves
    | cut cut counted => exact ends_cut hwhole cut hall counted.symm
    | lost completed isLost => exact .lost isLost

/-- Two iterations with three counting layers, into a sink that takes nothing. -/
theorem full_device_takes_no_line :
    Config.validate ⟨16, ⟨0, 0⟩, some 2⟩ = .ok () ∧
      (run ⟨16, ⟨0, 0⟩, some 2⟩ .quiet .layered .full).1 = .error (.fault (.io (.os 28))) ∧
      ∃ effects, Session.Acts ⟨.layered, .full, 0⟩ effects
          (run ⟨16, ⟨0, 0⟩, some 2⟩ .quiet .layered .full).2 ∧
        Timely effects ∧
        Ends 16 .full (run ⟨16, ⟨0, 0⟩, some 2⟩ .quiet .layered .full).2.sink effects
          (run ⟨16, ⟨0, 0⟩, some 2⟩ .quiet .layered .full).2.completed.toNat
          (run ⟨16, ⟨0, 0⟩, some 2⟩ .quiet .layered .full).1 := by
  have valid : Config.validate ⟨16, ⟨0, 0⟩, some 2⟩ = .ok () := by decide
  refine ⟨valid, by cbv, ?_⟩
  exact run_leaves_its_lines valid .quiet .layered .full

end Run
end Sequential
end HeapFixtures
