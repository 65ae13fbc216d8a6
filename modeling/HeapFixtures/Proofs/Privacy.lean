/-
# Private allocators

An allocator is private if a thread cannot tell from its replies what other threads have asked
of it: two histories in which the thread has made the same calls and had the same replies lead
to the same reply, but for the address of a block, and no reply is a panic.  Nothing is said
about resizes.

Gates that do not panic over a heap that decides by the size alone are private, whatever their
rules are, since a gate counts the requests of each thread for itself.
-/

import HeapFixtures.Proofs.Agreement
import HeapFixtures.Proofs.InUse
import HeapFixtures.Proofs.Layering

namespace HeapFixtures

namespace Dealing

/-- The call that a layer would note. -/
def call? : Dealing → Option Call
  | .allocate _ size (.ok _) => some (.allocate size true)
  | .allocate _ size (.error (.fault _)) => some (.allocate size false)
  | .release _ block => some (.release block.size)
  | .resize _ block size (.ok _) => some (.resize block.size size true)
  | .resize _ block size (.error (.fault _)) => some (.resize block.size size false)
  | .allocate .. | .resize .. => none

/-- The calls of one thread. -/
def callsBy (thread : Thread) (dealings : List Dealing) : List Call :=
  dealings.filterMap fun dealing => if dealing.thread = thread then dealing.call? else none

def IsResize : Dealing → Prop
  | .resize .. => True
  | _ => False

theorem callsBy_append (thread : Thread) (dealings rest : List Dealing) :
    callsBy thread (dealings ++ rest) = callsBy thread dealings ++ callsBy thread rest :=
  List.filterMap_append

theorem callsBy_self (dealing : Dealing) :
    callsBy dealing.thread [dealing] = dealing.call?.toList := by
  rw [callsBy, List.filterMap_cons, if_pos rfl]
  cases dealing.call? <;> rfl

/-- A dealing's call comes before the other calls of its thread. -/
theorem callsBy_cons_self (dealing : Dealing) (rest : List Dealing) :
    callsBy dealing.thread (dealing :: rest) =
      dealing.call?.toList ++ callsBy dealing.thread rest := by
  rw [← callsBy_self, ← callsBy_append]
  rfl

/-- Other threads make other calls. -/
theorem callsBy_of_forall_ne {dealings : List Dealing} {thread : Thread}
    (h : ∀ dealing ∈ dealings, dealing.thread ≠ thread) : callsBy thread dealings = [] :=
  List.filterMap_eq_nil_iff.2 fun dealing hdealing => if_neg (h dealing hdealing)

theorem callsBy_of_ne {dealing : Dealing} {thread : Thread} (h : dealing.thread ≠ thread) :
    callsBy thread [dealing] = [] :=
  callsBy_of_forall_ne (List.forall_mem_singleton.2 h)

end Dealing

/-- Two replies that differ in the address of a block at most, and are no panics. -/
inductive SameReply : Except Stop Block → Except Stop Block → Prop
  | granted {block other : Block} (size : block.size = other.size) :
      SameReply (.ok block) (.ok other)
  | refused (fault : Fault) : SameReply (.error (.fault fault)) (.error (.fault fault))

/-- Replies to a thread depend on the thread's own calls only, and none is a panic. -/
def Stack.Private (inner : Stack) : Prop :=
  ∀ dealings dealings' stack stack', inner.History dealings stack →
    inner.History dealings' stack' → (∀ dealing ∈ dealings, ¬ dealing.IsResize) →
    (∀ dealing ∈ dealings', ¬ dealing.IsResize) →
    ∀ thread, Dealing.callsBy thread dealings = Dealing.callsBy thread dealings' →
      ∀ size, SameReply (stack.allocate thread size).1 (stack'.allocate thread size).1

/-- Two gates that a thread cannot tell apart. -/
inductive Layer.SameFor (thread : Thread) : Layer → Layer → Prop
  | gate {gate other : Gate} (akin : gate.Akin other)
      (made : gate.madeBy thread = other.madeBy thread) : SameFor thread (.gate gate) (.gate other)

/-- All layers are gates, and a thread cannot tell them apart from others. -/
abbrev SameFor (thread : Thread) (layers others : List Layer) : Prop :=
  List.Forall₂ (Layer.SameFor thread) layers others

/-- No layer counts. -/
def Gated (layers : List Layer) : Prop := ∀ layer ∈ layers, ∃ gate, layer = .gate gate

/-- A heap whose answer depends on the size alone. -/
def Heap.Impartial (heap : Heap) : Prop :=
  ∀ number other size, heap.grants number size = heap.grants other size

theorem Heap.Impartial.of_grants {heap later : Heap} (impartial : heap.Impartial)
    (same : later.grants = heap.grants) : later.Impartial := by
  unfold Heap.Impartial
  rw [same]
  exact impartial

section SameFor

variable {thread other : Thread} {size : UInt64} {layers layers' layers'' : List Layer}
  {site site' : Site}

theorem Gated.sameFor (gated : Gated layers) (thread : Thread) : SameFor thread layers layers := by
  apply List.forall₂_same.2
  intro layer hlayer
  obtain ⟨gate, rfl⟩ := gated layer hlayer
  exact .gate gate.akin_refl rfl

theorem SameFor.symm (h : SameFor thread layers layers') : SameFor thread layers' layers := by
  apply List.Forall₂.flip
  apply List.Forall₂.imp _ h
  rintro _ _ ⟨⟨hrule, hforwards, hrecords⟩, made⟩
  exact .gate ⟨hrule.symm, hforwards.symm, hrecords.symm⟩ made.symm

theorem SameFor.trans (h : SameFor thread layers layers')
    (h' : SameFor thread layers' layers'') : SameFor thread layers layers'' := by
  induction h generalizing layers'' with
  | nil => exact h'
  | cons hd _ ih =>
      cases h' with
      | cons hd' tl' =>
          refine .cons ?_ (ih tl')
          cases hd with
          | gate akin made =>
              cases hd' with
              | gate akin' made' => exact .gate (akin.trans akin') (made.trans made')

theorem SameFor.gated (h : SameFor thread layers layers') : Gated layers' := by
  intro layer hlayer
  induction h with
  | nil => cases hlayer
  | cons hd _ ih =>
      rcases List.mem_cons.1 hlayer with rfl | htail
      · cases hd with
        | gate akin made => exact ⟨_, rfl⟩
      · exact ih htail

theorem SameFor.calm (h : SameFor thread layers layers') (calm : Calm layers) :
    Calm layers' := by
  intro gate hgate
  induction h with
  | nil => cases hgate
  | cons hd _ ih =>
      rcases List.mem_cons.1 hgate with hhead | htail
      · cases hd with
        | gate akin made =>
            obtain rfl := Layer.gate.inj hhead
            rw [← akin.1]
            exact calm _ List.mem_cons_self
      · exact ih (Stack.calm_of_cons calm) htail

/-- Two gates that a thread cannot tell apart say the same to it, and it cannot tell them apart
afterwards. -/
theorem Gate.ask_same {gate other : Gate} (akin : gate.Akin other)
    (made : gate.madeBy thread = other.madeBy thread) (size : UInt64) :
    (gate.ask thread size).1 = (other.ask thread size).1 ∧
      Layer.SameFor thread (.gate (gate.ask thread size).2)
        (.gate (other.ask thread size).2) := by
  refine ⟨?_, .gate ⟨akin.1, akin.2.1, akin.2.2⟩ ?_⟩
  · simp only [Gate.ask, akin.1, made]
  · rw [Gate.madeBy_ask_self, Gate.madeBy_ask_self, made]

/-- A gate that is asked by another thread. -/
theorem Gate.ask_other (gate : Gate) (h : other ≠ thread) (size : UInt64) :
    Layer.SameFor thread (.gate gate) (.gate (gate.ask other size).2) :=
  .gate ⟨rfl, rfl, rfl⟩ (Gate.madeBy_ask_of_ne gate size h.symm).symm

/-- A thread has the same reply from two stacks that it cannot tell apart, and cannot tell them
apart afterwards. -/
theorem SameFor.allocate (same : SameFor thread layers layers') (calm : Calm layers)
    (size : UInt64) (grants : site.heap.grants = site'.heap.grants)
    (impartial : site.heap.Impartial) :
    SameReply (Stack.allocateThrough thread size layers site).1
        (Stack.allocateThrough thread size layers' site').1 ∧
      SameFor thread (Stack.allocateThrough thread size layers site).2.layers
        (Stack.allocateThrough thread size layers' site').2.layers := by
  induction same generalizing site site' with
  | nil =>
      rw [Stack.layers_allocateThrough_nil, Stack.layers_allocateThrough_nil]
      refine ⟨?_, .nil⟩
      have hgrants : site'.heap.grants site'.heap.requests size =
          site.heap.grants site.heap.requests size := by
        rw [← grants]
        exact impartial _ _ size
      simp only [Stack.allocateThrough, Site.allocate, Heap.grant, hgrants]
      by_cases hzero : size = 0
      · simp only [hzero, if_true]
        exact .refused _
      · by_cases hgranted : site.heap.grants site.heap.requests size = true
        · simp only [if_neg hzero, if_pos hgranted]
          exact .granted rfl
        · simp only [if_neg hzero, if_neg hgranted]
          exact .refused _
  | @cons layer layer' below below' hd tl ih =>
      cases hd with
      | @gate gate other akin made =>
          obtain ⟨hverdict, hasked⟩ := Gate.ask_same akin made size
          rcases hask : gate.ask thread size with ⟨verdict, asked⟩
          rcases hask' : other.ask thread size with ⟨verdict', asked'⟩
          rw [hask, hask'] at hverdict hasked
          dsimp only at hverdict hasked
          subst hverdict
          cases hanswer : verdict.answer with
          | panic panic => exact (Stack.not_calm_of_panic hask hanswer calm).elim
          | refuse fault =>
              rw [Stack.allocateThrough_gate_refuse hask hanswer,
                Stack.allocateThrough_gate_refuse hask' hanswer]
              refine ⟨.refused fault, ?_⟩
              rw [Stack.layers_note, Stack.layers_note]
              exact .cons hasked tl
          | pass =>
              rw [Stack.allocateThrough_gate_pass hask hanswer,
                Stack.allocateThrough_gate_pass hask' hanswer]
              obtain ⟨hreply, hlayers⟩ := ih (Stack.calm_of_cons calm)
                (congrArg Heap.grants (Stack.heap_heed site verdict) |>.trans grants |>.trans
                  (congrArg Heap.grants (Stack.heap_heed site' verdict)).symm)
                (by rw [Stack.heap_heed]; exact impartial)
              refine ⟨hreply, ?_⟩
              rw [Stack.layers_answered, Stack.layers_answered]
              exact .cons hasked hlayers

/-- What another thread asks for is not noticed. -/
theorem Gated.allocate_other (gated : Gated layers) (h : other ≠ thread) (size : UInt64)
    (site : Site) :
    SameFor thread layers (Stack.allocateThrough other size layers site).2.layers := by
  induction layers generalizing site with
  | nil =>
      rw [Stack.layers_allocateThrough_nil]
      exact .nil
  | cons layer below ih =>
      obtain ⟨gate, rfl⟩ := gated layer List.mem_cons_self
      have hbelow : Gated below := fun inner hinner => gated inner (List.mem_cons_of_mem _ hinner)
      have hasked := Gate.ask_other gate h size
      rcases hask : gate.ask other size with ⟨verdict, asked⟩
      rw [hask] at hasked
      cases hanswer : verdict.answer with
      | panic panic =>
          rw [Stack.allocateThrough_gate_panic hask hanswer]
          exact .cons hasked (hbelow.sameFor thread)
      | refuse fault =>
          rw [Stack.allocateThrough_gate_refuse hask hanswer, Stack.layers_note]
          exact .cons hasked (hbelow.sameFor thread)
      | pass =>
          rw [Stack.allocateThrough_gate_pass hask hanswer, Stack.layers_answered]
          exact .cons hasked (ih hbelow _)

/-- A block on its way back is not noticed. -/
theorem Gated.release (gated : Gated layers) (thread : Thread) (other : Thread) (block : Block)
    (site : Site) :
    SameFor thread layers (Stack.releaseThrough other block layers site).layers := by
  induction layers generalizing site with
  | nil => exact .nil
  | cons layer below ih =>
      obtain ⟨gate, rfl⟩ := gated layer List.mem_cons_self
      have hbelow : Gated below := fun inner hinner => gated inner (List.mem_cons_of_mem _ hinner)
      exact .cons (.gate gate.akin_refl rfl) (ih hbelow _)

end SameFor

/-- The size that a call asks for. -/
def Call.asked? : Call → Option UInt64
  | .allocate size _ => some size
  | _ => none

/-- A stack of which a thread has asked for blocks of some sizes, and nobody else for anything. -/
def Stack.askedBy (thread : Thread) (sizes : List UInt64) (stack : Stack) : Stack :=
  sizes.foldl (fun stack size => (stack.allocate thread size).2) stack

section Gates

variable {thread asker : Thread} {size : UInt64} {stack other after last : Stack}
  {answer : Except Stop Block} {dealings : List Dealing}

theorem Stack.grants_of_allocate (h : stack.allocate thread size = (answer, after)) :
    after.site.heap.grants = stack.site.heap.grants := by
  rcases Stack.heap_allocate h with hsame | hgrant
  · rw [hsame]
  · rw [hgrant, Heap.grant]
    split <;> rfl

theorem Stack.askedBy_append (stack : Stack) (thread : Thread) (sizes more : List UInt64) :
    stack.askedBy thread (sizes ++ more) = (stack.askedBy thread sizes).askedBy thread more :=
  List.foldl_append

theorem Stack.grants_askedBy (stack : Stack) (thread : Thread) (sizes : List UInt64) :
    (stack.askedBy thread sizes).site.heap.grants = stack.site.heap.grants := by
  induction sizes generalizing stack with
  | nil => rfl
  | cons size sizes ih => exact (ih _).trans (Stack.grants_of_allocate rfl)

/-- Gates that do not panic grant or refuse. -/
theorem Gated.replies (gated : Gated stack.layers) (calm : Calm stack.layers)
    (h : stack.allocate asker size = (answer, after)) :
    Calm after.layers ∧
      ∃ granted, (Dealing.allocate asker size answer).call? = some (.allocate size granted) := by
  cases Stack.allocates_of_allocate h with
  | granted counted heap => exact ⟨counted.calm calm, true, rfl⟩
  | refused counted heap => exact ⟨counted.calm calm, false, rfl⟩
  | panicked blame =>
      refine (blame calm ?_).elim
      intro counters hcounters
      obtain ⟨gate, hgate⟩ := gated _ hcounters
      cases hgate

/-- To a thread, a dealing of its own is one more request, and one of another thread is
nothing. -/
theorem Stack.Serves.sameFor {dealing : Dealing} (served : stack.Serves dealing after)
    (unresized : ¬ dealing.IsResize) (same : SameFor thread stack.layers other.layers)
    (calm : Calm stack.layers) (grants : stack.site.heap.grants = other.site.heap.grants)
    (impartial : stack.site.heap.Impartial) :
    SameFor thread after.layers
        (other.askedBy thread ((Dealing.callsBy thread [dealing]).filterMap Call.asked?)).layers ∧
      Calm after.layers ∧ after.site.heap.grants = stack.site.heap.grants := by
  have gated : Gated stack.layers := same.symm.gated
  cases served with
  | resize served => exact (unresized trivial).elim
  | release asker block =>
      have hasked : (Dealing.callsBy thread [.release asker block]).filterMap Call.asked? = [] := by
        unfold Dealing.callsBy
        by_cases hself : asker = thread
        · simp [Dealing.thread, hself, Dealing.call?, Call.asked?]
        · simp [Dealing.thread, hself]
      have hsame := gated.release thread asker block stack.site
      have hgrants : (stack.release asker block).site.heap.grants = stack.site.heap.grants := by
        rw [Stack.release, (Stack.releases asker block stack.layers stack.site).2]
        rfl
      rw [hasked]
      exact ⟨hsame.symm.trans same, hsame.calm calm, hgrants⟩
  | @allocate asker size answer after served =>
      obtain ⟨hcalm, granted, hcall⟩ := gated.replies calm served
      have hafter : (Stack.allocateThrough asker size stack.layers stack.site).2 = after :=
        congrArg Prod.snd served
      refine ⟨?_, hcalm, Stack.grants_of_allocate served⟩
      by_cases hself : asker = thread
      · subst hself
        have hasked : (Dealing.callsBy asker [.allocate asker size answer]).filterMap
            Call.asked? = [size] := by
          have hown := Dealing.callsBy_self (.allocate asker size answer)
          rw [hcall] at hown
          exact congrArg (List.filterMap Call.asked?) hown
        have hsame := (same.allocate calm size grants impartial).2
        rw [hafter] at hsame
        rw [hasked]
        exact hsame
      · have hasked : Dealing.callsBy thread [.allocate asker size answer] = [] :=
          Dealing.callsBy_of_ne hself
        have hsame := gated.allocate_other hself size stack.site
        rw [hafter] at hsame
        rw [hasked]
        exact hsame.symm.trans same

/-- To a thread, a stack with any history is as if it had been alone with the stack. -/
theorem Stack.History.sameFor (history : stack.History dealings last)
    (unresized : ∀ dealing ∈ dealings, ¬ dealing.IsResize)
    (same : SameFor thread stack.layers other.layers) (calm : Calm stack.layers)
    (grants : stack.site.heap.grants = other.site.heap.grants)
    (impartial : stack.site.heap.Impartial) :
    SameFor thread last.layers
        (other.askedBy thread ((Dealing.callsBy thread dealings).filterMap Call.asked?)).layers ∧
      Calm last.layers ∧ last.site.heap.grants = stack.site.heap.grants := by
  induction history generalizing other with
  | nil stack => exact ⟨same, calm, rfl⟩
  | aside aside _ ih =>
      rw [← aside.1] at same calm
      rw [← aside.2.1] at grants impartial
      obtain ⟨hsame, hcalm, hgrants⟩ := ih unresized same calm grants impartial
      exact ⟨hsame, hcalm, hgrants.trans (congrArg Heap.grants aside.2.1)⟩
  | @cons stack between last dealing dealings served _ ih =>
      obtain ⟨hunresized, hrest⟩ := List.forall_mem_cons.1 unresized
      obtain ⟨hsame, hcalm, hgrants⟩ := served.sameFor hunresized same calm grants impartial
      have hcalls : Dealing.callsBy thread (dealing :: dealings) =
          Dealing.callsBy thread [dealing] ++ Dealing.callsBy thread dealings :=
        Dealing.callsBy_append thread [dealing] dealings
      rw [hcalls, List.filterMap_append, Stack.askedBy_append]
      obtain ⟨hlast, hcalm', hsince⟩ := ih hrest hsame hcalm
        (hgrants.trans (grants.trans (other.grants_askedBy thread _).symm))
        (impartial.of_grants hgrants)
      exact ⟨hlast, hcalm', hsince.trans hgrants⟩

/-- Gates that do not panic, over a heap that decides by the size alone, keep the calls of
threads apart. -/
theorem Stack.private_of_gated (inner : Stack) (gated : Gated inner.layers)
    (calm : Calm inner.layers) (impartial : inner.site.heap.Impartial) : inner.Private := by
  intro dealings dealings' stack stack' history history' unresized unresized' thread hcalls size
  have hsame := gated.sameFor thread
  obtain ⟨hstack, hcalm, hgrants⟩ := history.sameFor unresized hsame calm rfl impartial
  obtain ⟨hstack', -, hgrants'⟩ := history'.sameFor unresized' hsame calm rfl impartial
  rw [hcalls] at hstack
  exact ((hstack.trans hstack'.symm).allocate hcalm size (hgrants.trans hgrants'.symm)
    (impartial.of_grants hgrants)).1

end Gates

end HeapFixtures
