import EventNotifier.Hub.Loop
import EventNotifier.Channels

/-!
# The hub's goroutines

`Run` creates a cancellable context, stores its cancel function in `cancelFunc` (overwriting the
one a previous `Run` stored) and starts the loop `run(ctx)` on it. `Close` calls the stored
cancel function, if there is one. The loop's `select` waits on `ctx.Done()` and on the five
unbuffered channels, and runs the handler of the case it took before it selects again.
`Broadcast`, `BroadcastRevert`, `BroadcastFinalized`, `RegisterEvent` and `UnregisterEvent`
block until a loop receives their message, and `Subscribe` calls the mapper without going
through the loop.

`HubSystem` is the hub with these goroutines around it, and `HubSystem.step` what one of them
can do next: a call of `Run` or `Close`, a producer blocking on a channel, a `Subscribe` call,
a loop's `select` taking one of its ready cases, or a loop running the handler of the message
it took. Go picks among ready cases at random, so the choice is part of the action;
`ctx.Done()` is ready once the context's cancel function has been called, and a channel case is
ready while a send is blocked on it, the oldest such send being the one received. The handlers
of register and unregister hold `rwMut`, so each handler is one step. A run is any list of
actions whose steps are all possible.

- `runActions_refines_loop`: in every interleaving the hub's state is the sequential loop's over
  the handlers in the order they ran; every message sent is handled, held by a loop or still
  blocked, exactly once; each channel is received in the order it was sent; and with one loop
  the handlers run in the order the messages were received. Two loops can run the handlers of
  two registers in the other order (the example after it).
- `broadcast_pushes_reachable`: a broadcast delivers as `Hub/Broadcast` says at every reachable
  state.
- `close_cancels_latest_run`: `Close` cancels the context of the latest `Run` before it and no
  other, and a loop returns only once its context is cancelled, after which it takes no step.
  A loop whose context is cancelled can still take a ready channel
  (`messages_handled_after_close`).
- `returned_loops_block_senders`, `blocked_sends_drain`: once every loop has returned, and until
  `Run` is called again, every producer blocked on a channel stays blocked for good; while a
  loop whose context is not cancelled runs and `Close` is not called, no producer is stuck.
-/

set_option autoImplicit false

namespace EventNotifier

/-- The hub's five unbuffered channels. -/
inductive Chan where
  | broadcast
  | broadcastRevert
  | broadcastFinalized
  | register
  | unregister
  deriving DecidableEq, Repr

/-- The channel a message is sent on. -/
def Inbound.chan : Inbound → Chan
  | .broadcast _ => .broadcast
  | .broadcastRevert _ => .broadcastRevert
  | .broadcastFinalized _ => .broadcastFinalized
  | .register _ => .register
  | .unregister _ => .unregister

/-- A loop goroutine: at its `select`, running the handler of the message it took, or returned
after taking `ctx.Done()`. -/
inductive LoopStatus where
  | selecting
  | handling (m : Inbound)
  | returned
  deriving DecidableEq, Repr

/-- The message whose handler a loop is running. -/
def LoopStatus.message? : LoopStatus → Option Inbound
  | .handling m => some m
  | _ => none

/-- The hub and its goroutines. The `i`-th call of `Run` creates context `i` and starts loop
`i`, which watches it; `cancelFunc` is the context whose cancel function `Close` calls. -/
structure HubSystem where
  hub : CommonHub
  cancelFunc : Option Nat
  cancelled : List Nat
  loops : List LoopStatus
  blockedSends : List Inbound

/-- A call of `Run` or `Close`, a producer blocking on a channel, a `Subscribe` call, loop `i`'s
`select` taking `ctx.Done()` or a message, or loop `i` running the handler of the message it
took. -/
inductive Action where
  | run
  | close
  | send (m : Inbound)
  | subscribe (event : SubscribeEvent)
  | done (i : Nat)
  | receive (i : Nat) (m : Inbound)
  | handle (i : Nat) (m : Inbound)
  deriving DecidableEq, Repr

namespace HubSystem

/-- `NewCommonHub(eventFilter)` with no goroutine started. -/
def init (eventFilter : EventFilter) : HubSystem where
  hub := newCommonHub eventFilter
  cancelFunc := none
  cancelled := []
  loops := []
  blockedSends := []

/-- One action, when it is possible. -/
def step (s : HubSystem) : Action → Option HubSystem
  | .run => some { s with cancelFunc := some s.loops.length, loops := s.loops ++ [.selecting] }
  | .close => some { s with cancelled := s.cancelFunc.toList ++ s.cancelled }
  | .send m => some { s with blockedSends := s.blockedSends ++ [m] }
  | .subscribe e => some { s with hub := s.hub.subscribe e }
  | .done i =>
      if s.loops[i]? = some .selecting ∧ i ∈ s.cancelled then
        some { s with loops := s.loops.set i .returned }
      else none
  | .receive i m =>
      if s.loops[i]? = some .selecting then
        match takeSend Inbound.chan m.chan s.blockedSends with
        | some (m', rest) =>
            if m' = m then
              some { s with loops := s.loops.set i (.handling m), blockedSends := rest }
            else none
        | none => none
      else none
  | .handle i m =>
      if s.loops[i]? = some (.handling m) then
        some { s with hub := s.hub.handle m, loops := s.loops.set i .selecting }
      else none

/-- The state after the actions `tr`, when each of them is possible in turn. -/
def runActions : HubSystem → List Action → Option HubSystem := runSteps step

/-- The states some run reaches from `NewCommonHub(eventFilter)`. -/
def Reachable (eventFilter : EventFilter) (s : HubSystem) : Prop :=
  ∃ tr, runActions (init eventFilter) tr = some s

/-- The messages whose handler a loop is running. -/
def held (s : HubSystem) : List Inbound := s.loops.filterMap LoopStatus.message?

/-- Loop `i` has been started and has not returned. -/
def Running (s : HubSystem) (i : Nat) : Prop :=
  s.loops[i]? ≠ none ∧ s.loops[i]? ≠ some .returned

instance (s : HubSystem) (i : Nat) : Decidable (s.Running i) := inferInstanceAs (Decidable (_ ∧ _))

end HubSystem

namespace Action

/-- The operation an action performs on the hub's state: a handler a loop runs, or a
`Subscribe` call. -/
def hubOp : Action → Option HubOp
  | .subscribe e => some (.subscribe e)
  | .handle _ m => some (.handle m)
  | _ => none

/-- The message a producer sends. -/
def sent? : Action → Option Inbound
  | .send m => some m
  | _ => none

/-- The message a loop's `select` takes. -/
def received? : Action → Option Inbound
  | .receive _ m => some m
  | _ => none

/-- The message whose handler a loop runs. -/
def handled? : Action → Option Inbound
  | .handle _ m => some m
  | _ => none

end Action

namespace HubSystem

/-- The messages the producers of `tr` send, in order. -/
def sent (tr : List Action) : List Inbound := tr.filterMap Action.sent?

/-- The messages the loops take during `tr`, in order. -/
def received (tr : List Action) : List Inbound := tr.filterMap Action.received?

/-- The messages whose handler runs during `tr`, in order. -/
def handled (tr : List Action) : List Inbound := tr.filterMap Action.handled?

/-- The messages `tr` sends on `ch`, in order. -/
def sentOn (ch : Chan) (tr : List Action) : List Inbound := (sent tr).filter (·.chan = ch)

variable {s s' : HubSystem}

/-! ## What one step can do -/

theorem eq_of_step_done {i : Nat} (h : s.step (.done i) = some s') :
    s.loops[i]? = some .selecting ∧ i ∈ s.cancelled ∧
      s' = { s with loops := s.loops.set i .returned } := by
  simp only [step] at h
  split at h
  · exact ⟨‹_ ∧ _›.1, ‹_ ∧ _›.2, (Option.some.inj h).symm⟩
  · cases h

theorem eq_of_step_receive {i : Nat} {m : Inbound} (h : s.step (.receive i m) = some s') :
    s.loops[i]? = some .selecting ∧
      ∃ rest, takeSend Inbound.chan m.chan s.blockedSends = some (m, rest) ∧
        s' = { s with loops := s.loops.set i (.handling m), blockedSends := rest } := by
  simp only [step] at h
  split at h
  · refine ⟨‹_›, ?_⟩
    split at h
    · rename_i m' rest hp
      split at h
      · subst m'
        exact ⟨rest, hp, (Option.some.inj h).symm⟩
      · cases h
    · cases h
  · cases h

theorem eq_of_step_handle {i : Nat} {m : Inbound} (h : s.step (.handle i m) = some s') :
    s.loops[i]? = some (.handling m) ∧
      s' = { s with hub := s.hub.handle m, loops := s.loops.set i .selecting } := by
  simp only [step] at h
  split at h
  · exact ⟨‹_›, (Option.some.inj h).symm⟩
  · cases h

/-- `Run` and `Close` are the only steps that touch the contexts, and no step but `Run` starts
a loop. -/
theorem frame_step {a : Action} (h : s.step a = some s') (hrun : a ≠ .run) (hclose : a ≠ .close) :
    s'.cancelFunc = s.cancelFunc ∧ s'.cancelled = s.cancelled ∧
      s'.loops.length = s.loops.length := by
  cases a with
  | run => exact absurd rfl hrun
  | close => exact absurd rfl hclose
  | done i =>
      obtain ⟨-, -, rfl⟩ := eq_of_step_done h
      simp
  | receive i m =>
      obtain ⟨-, rest, -, rfl⟩ := eq_of_step_receive h
      simp
  | handle i m =>
      obtain ⟨-, rfl⟩ := eq_of_step_handle h
      simp
  | _ =>
      obtain rfl := Option.some.inj h
      simp

theorem length_loops_step {a : Action} (h : s.step a = some s') :
    s.loops.length ≤ s'.loops.length := by
  cases a with
  | run =>
      obtain rfl := Option.some.inj h
      simp
  | close =>
      obtain rfl := Option.some.inj h
      exact Nat.le_refl _
  | _ => exact (frame_step h nofun nofun).2.2.ge

/-! ## Every interleaving is a run of the loop -/

theorem hub_step {a : Action} (h : s.step a = some s') :
    s'.hub = s.hub.applyAll a.hubOp.toList := by
  cases a with
  | done i =>
      obtain ⟨-, -, rfl⟩ := eq_of_step_done h
      rfl
  | receive i m =>
      obtain ⟨-, rest, -, rfl⟩ := eq_of_step_receive h
      rfl
  | handle i m =>
      obtain ⟨-, rfl⟩ := eq_of_step_handle h
      rfl
  | _ =>
      obtain rfl := Option.some.inj h
      rfl

/-- The hub's state after any run is the sequential loop run over the operations that run
performed, in the order it performed them. -/
theorem hub_runActions {tr : List Action} (h : runActions s tr = some s') :
    s'.hub = s.hub.applyAll (tr.filterMap Action.hubOp) :=
  runSteps_invariant (fun done t => t.hub = s.hub.applyAll (done.filterMap Action.hubOp))
    (fun done t a t' ht hinv => by
      dsimp only at hinv ⊢
      rw [hub_step ht, hinv, List.filterMap_append, CommonHub.applyAll_append,
        filterMap_singleton])
    h rfl

/-! ## Channels are FIFO -/

theorem blocked_step {a : Action} (h : s.step a = some s') (ch : Chan) :
    (a.received?.toList ++ s'.blockedSends).filter (·.chan = ch) =
      (s.blockedSends ++ a.sent?.toList).filter (·.chan = ch) := by
  cases a with
  | done i =>
      obtain ⟨-, -, rfl⟩ := eq_of_step_done h
      simp [Action.received?, Action.sent?]
  | receive i m =>
      obtain ⟨-, rest, hrest, rfl⟩ := eq_of_step_receive h
      simpa [Action.received?, Action.sent?] using (filter_of_takeSend hrest ch).symm
  | handle i m =>
      obtain ⟨-, rfl⟩ := eq_of_step_handle h
      simp [Action.received?, Action.sent?]
  | _ =>
      obtain rfl := Option.some.inj h
      simp [Action.received?, Action.sent?]

/-- On every channel, in every run, the messages the loops took followed by those still blocked
are the messages blocked before followed by those sent, in order. -/
theorem blocked_runActions {tr : List Action} (h : runActions s tr = some s') (ch : Chan) :
    (received tr ++ s'.blockedSends).filter (·.chan = ch) =
      (s.blockedSends ++ sent tr).filter (·.chan = ch) :=
  runSteps_invariant
    (fun done t => ∀ ch, (received done ++ t.blockedSends).filter (·.chan = ch) =
      (s.blockedSends ++ sent done).filter (·.chan = ch))
    (fun done t a t' ht hinv ch => by
      dsimp only at hinv ⊢
      have hstep := blocked_step ht ch
      simp only [received, sent, List.filterMap_append, filterMap_singleton, List.filter_append,
        List.append_assoc] at hinv hstep ⊢
      rw [hstep, ← List.append_assoc, hinv ch, List.append_assoc])
    h (fun _ => by simp [received, sent]) ch

/-! ## No message lost or handled twice -/

section Conservation

open scoped List

theorem conserves_step {a : Action} (h : s.step a = some s') :
    (a.handled?.toList ++ s'.held ++ s'.blockedSends).Perm
      (s.held ++ s.blockedSends ++ a.sent?.toList) := by
  cases a with
  | done i =>
      obtain ⟨hi, -, rfl⟩ := eq_of_step_done h
      simpa [held, LoopStatus.message?, Action.handled?, Action.sent?] using
        (filterMap_set_perm LoopStatus.message? .returned hi).append_right s.blockedSends
  | receive i m =>
      obtain ⟨hi, rest, hrest, rfl⟩ := eq_of_step_receive h
      have hheld := filterMap_set_perm LoopStatus.message? (.handling m) hi
      simp only [LoopStatus.message?, Option.toList_some, Option.toList_none, List.append_nil]
        at hheld
      calc [] ++ (s.loops.set i (.handling m)).filterMap LoopStatus.message? ++ rest
          ~ s.held ++ ([m] ++ rest) := by simpa using hheld.append_right rest
        _ ~ s.held ++ s.blockedSends ++ [] := by
          simpa using (perm_of_takeSend hrest).symm.append_left s.held
  | handle i m =>
      obtain ⟨hi, rfl⟩ := eq_of_step_handle h
      have hheld := filterMap_set_perm LoopStatus.message? .selecting hi
      simp only [LoopStatus.message?, Option.toList_some, Option.toList_none, List.append_nil]
        at hheld
      calc [m] ++ (s.loops.set i .selecting).filterMap LoopStatus.message? ++ s.blockedSends
          ~ (s.loops.set i .selecting).filterMap LoopStatus.message? ++ [m] ++ s.blockedSends :=
            List.perm_append_comm.append_right _
        _ ~ s.held ++ s.blockedSends ++ [] := by simpa using hheld.append_right s.blockedSends
  | _ =>
      obtain rfl := Option.some.inj h
      simp [held, LoopStatus.message?, Action.handled?, Action.sent?]

/-- In every run, the messages handled, those the loops hold and those still blocked are, as a
multiset, those held and blocked before and those sent. -/
theorem conserves_runActions {tr : List Action} (h : runActions s tr = some s') :
    (handled tr ++ s'.held ++ s'.blockedSends).Perm (s.held ++ s.blockedSends ++ sent tr) :=
  runSteps_invariant
    (fun done t => (handled done ++ t.held ++ t.blockedSends).Perm
      (s.held ++ s.blockedSends ++ sent done))
    (fun done t a t' ht hinv => by
      dsimp only at hinv ⊢
      calc handled (done ++ [a]) ++ t'.held ++ t'.blockedSends
          = handled done ++ (a.handled?.toList ++ t'.held ++ t'.blockedSends) := by
            simp [handled]
        _ ~ handled done ++ (t.held ++ t.blockedSends ++ a.sent?.toList) :=
            (conserves_step ht).append_left _
        _ = handled done ++ t.held ++ t.blockedSends ++ a.sent?.toList := by simp
        _ ~ s.held ++ s.blockedSends ++ sent done ++ a.sent?.toList := hinv.append_right _
        _ = s.held ++ s.blockedSends ++ sent (done ++ [a]) := by simp [sent])
    h (by simp [handled, sent])

end Conservation

/-! ## One loop handles in the order it receives -/

theorem inOrder_step {a : Action} (h : s.step a = some s') (hone : s'.loops.length ≤ 1) :
    a.handled?.toList ++ s'.held = s.held ++ a.received?.toList := by
  cases a with
  | run =>
      obtain rfl := Option.some.inj h
      simp [held, LoopStatus.message?, Action.handled?, Action.received?]
  | done i =>
      obtain ⟨hi, -, rfl⟩ := eq_of_step_done h
      obtain ⟨hloops, rfl⟩ := eq_singleton_of_getElem? (by simpa using hone) hi
      simp [held, hloops, LoopStatus.message?, Action.handled?, Action.received?]
  | receive i m =>
      obtain ⟨hi, rest, -, rfl⟩ := eq_of_step_receive h
      obtain ⟨hloops, rfl⟩ := eq_singleton_of_getElem? (by simpa using hone) hi
      simp [held, hloops, LoopStatus.message?, Action.handled?, Action.received?]
  | handle i m =>
      obtain ⟨hi, rfl⟩ := eq_of_step_handle h
      obtain ⟨hloops, rfl⟩ := eq_singleton_of_getElem? (by simpa using hone) hi
      simp [held, hloops, LoopStatus.message?, Action.handled?, Action.received?]
  | _ =>
      obtain rfl := Option.some.inj h
      simp [held, Action.handled?, Action.received?]

/-- With at most one loop, the messages handled followed by the one the loop holds are those
held before followed by those received, in order. -/
theorem inOrder_runActions {tr : List Action} (h : runActions s tr = some s')
    (hone : s'.loops.length ≤ 1) : handled tr ++ s'.held = s.held ++ received tr :=
  runSteps_invariant
    (fun done t => t.loops.length ≤ 1 → handled done ++ t.held = s.held ++ received done)
    (fun done t a t' ht hinv hone' => by
      dsimp only at hinv ⊢
      simp only [handled, received, List.filterMap_append, filterMap_singleton, List.append_assoc]
        at hinv ⊢
      rw [inOrder_step ht hone', ← List.append_assoc, hinv ((length_loops_step ht).trans hone'),
        List.append_assoc])
    h (fun _ => by simp [handled, received]) hone

/-- Every interleaving of the hub's goroutines is a run of the sequential loop over the handlers
in the order they ran: the hub's state is `NewCommonHub(eventFilter)` after the handlers run and
the `Subscribe` calls made, in the order they happened. Every message sent is, exactly once,
among those whose handler ran, those a loop holds and those still blocked; on every channel
the loops take the messages in the order they were sent; and with at most one loop the handlers
run in the order the messages were taken. -/
theorem runActions_refines_loop (eventFilter : EventFilter) {tr : List Action} {s : HubSystem}
    (h : runActions (init eventFilter) tr = some s) :
    s.hub = (newCommonHub eventFilter).applyAll (tr.filterMap Action.hubOp) ∧
      (handled tr ++ s.held ++ s.blockedSends).Perm (sent tr) ∧
      (∀ ch, (received tr).filter (·.chan = ch) ++ s.blockedSends.filter (·.chan = ch) =
        sentOn ch tr) ∧
      (s.loops.length ≤ 1 → handled tr ++ s.held = received tr) :=
  ⟨hub_runActions h, by simpa [init, held] using conserves_runActions h,
    fun ch => by simpa [init, sentOn, List.filter_append] using blocked_runActions h ch,
    fun hone => by simpa [init, held] using inOrder_runActions h hone⟩

/-- One loop took and handled a register and holds the unregister that followed it. -/
theorem runActions_refines_loop_holding :
    let d : EventDispatcher := ⟨⟨1⟩, 0⟩
    let tr : List Action :=
      [.run, .send (.register d), .receive 0 (.register d), .handle 0 (.register d),
        .send (.unregister d), .receive 0 (.unregister d)]
    ∃ s, runActions (init ⟨fun _ _ => true⟩) tr = some s ∧
      s.hub = (newCommonHub ⟨fun _ _ => true⟩).applyAll (tr.filterMap Action.hubOp) ∧
      (handled tr ++ s.held ++ s.blockedSends).Perm (sent tr) ∧
      (∀ ch, (received tr).filter (·.chan = ch) ++ s.blockedSends.filter (·.chan = ch) =
        sentOn ch tr) ∧
      (s.loops.length ≤ 1 → handled tr ++ s.held = received tr) :=
  ⟨_, rfl, runActions_refines_loop _ rfl⟩

/-- Two loops take two registers of one identifier in the order they were sent and run their
handlers in the other order: the dispatcher sent second is the one stored. -/
example :
    let d₁ : EventDispatcher := ⟨⟨1⟩, 1⟩
    let d₂ : EventDispatcher := ⟨⟨1⟩, 2⟩
    (runActions (init ⟨fun _ _ => true⟩)
        [.run, .run, .send (.register d₁), .send (.register d₂), .receive 0 (.register d₁),
          .receive 1 (.register d₂), .handle 1 (.register d₂), .handle 0 (.register d₁)]).map
      (fun s => s.hub.dispatchers.lookup ⟨1⟩) = some (some d₂) := by
  decide

/-! ## Broadcasts at reachable states -/

/-- At every reachable state, a broadcast a loop handles pushes, for every order in which `range`
visits the map it builds, up to order one call per registered identifier with matched events
under the mapper's current subscriptions and the filter given to `NewCommonHub`, to that
identifier's dispatcher and carrying exactly those events; it pushes to no dispatcher twice. -/
theorem broadcast_pushes_reachable {eventFilter : EventFilter} {s : HubSystem}
    (hs : s.Reachable eventFilter) (blockEvents : BlockEvents) {rangeOrder : List UUID}
    (hrange : rangeOrder.Perm
      (dispatchersMap eventFilter s.hub.subscriptionMapper.subscriptions blockEvents.events).keys) :
    (s.hub.handleBroadcast blockEvents rangeOrder).Perm
        (expectedPushes eventFilter s.hub.subscriptionMapper.subscriptions s.hub.dispatchers
          blockEvents.events) ∧
      ((s.hub.handleBroadcast blockEvents rangeOrder).map Prod.fst).Nodup := by
  obtain ⟨tr, h⟩ := hs
  have hfilter : s.hub.filter = eventFilter := by
    rw [hub_runActions h, CommonHub.filter_applyAll]
    rfl
  have hreg : WellKeyed s.hub.dispatchers := by
    rw [hub_runActions h]
    exact CommonHub.wellKeyed_applyAll wellKeyed_empty _
  rw [CommonHub.handleBroadcast, hfilter]
  exact ⟨handleBroadcastWith_perm _ _ _ hreg hrange,
    nodup_map_fst_handleBroadcastWith _ _ _ hreg hrange⟩

/-- A dispatcher that subscribed and registered is pushed the one event of a batch. -/
theorem broadcast_pushes_reachable_registered :
    let d : EventDispatcher := ⟨⟨1⟩, 0⟩
    let b : BlockEvents := ⟨"0xaa", 0, 0, [⟨"erd1x", "transfer", [], [], "0xtx"⟩]⟩
    let tr : List Action :=
      [.run, .subscribe ⟨d.getID, [⟨none, none, [], .all⟩]⟩, .send (.register d),
        .receive 0 (.register d), .handle 0 (.register d)]
    ∃ s, runActions (init ⟨fun _ _ => true⟩) tr = some s ∧
      [d.getID].Perm
        (dispatchersMap ⟨fun _ _ => true⟩ s.hub.subscriptionMapper.subscriptions b.events).keys ∧
      (s.hub.handleBroadcast b [d.getID]).Perm
        (expectedPushes ⟨fun _ _ => true⟩ s.hub.subscriptionMapper.subscriptions s.hub.dispatchers
          b.events) ∧
      ((s.hub.handleBroadcast b [d.getID]).map Prod.fst).Nodup := by
  intro d b tr
  refine ⟨_, rfl, ?_⟩
  exact ⟨by decide, broadcast_pushes_reachable ⟨tr, rfl⟩ b (by decide)⟩

/-! ## Cancellation -/

theorem exists_append_singleton_eq {α : Type} {l : List α} {a x : α} {P : List α → Prop} :
    (∃ pre post, l ++ [a] = pre ++ x :: post ∧ P pre) ↔
      (∃ pre post, l = pre ++ x :: post ∧ P pre) ∨ (a = x ∧ P l) := by
  constructor
  · rintro ⟨pre, post, h, hp⟩
    rcases List.eq_nil_or_concat post with rfl | ⟨post, b, rfl⟩
    · obtain ⟨rfl, hax⟩ := List.append_inj' h rfl
      exact .inr ⟨List.singleton_inj.1 hax, hp⟩
    · rw [List.concat_eq_append, ← List.cons_append, ← List.append_assoc] at h
      obtain ⟨rfl, -⟩ := List.append_inj' h rfl
      exact .inl ⟨pre, post, rfl, hp⟩
  · rintro (⟨pre, post, rfl, hp⟩ | ⟨rfl, hp⟩)
    · exact ⟨pre, post ++ [a], by simp, hp⟩
    · exact ⟨l, [], rfl, hp⟩

/-- What `Run` and `Close` have done after the actions `done`: one loop per `Run`, `cancelFunc`
holding the context of the latest `Run`, and the cancelled contexts those of the latest `Run`
before each `Close`. -/
def CloseHistory (done : List Action) (s : HubSystem) : Prop :=
  s.loops.length = done.count .run ∧ (∀ c, s.cancelFunc = some c ↔ s.loops.length = c + 1) ∧
    ∀ c, c ∈ s.cancelled ↔ ∃ pre post, done = pre ++ .close :: post ∧ pre.count .run = c + 1

theorem closeHistory_step {done : List Action} {a : Action} (h : s.step a = some s')
    (hs : CloseHistory done s) : CloseHistory (done ++ [a]) s' := by
  obtain ⟨hlen, hfunc, hcan⟩ := hs
  by_cases hrun : a = .run
  · subst hrun
    obtain rfl := Option.some.inj h
    refine ⟨by simp [hlen], fun c => by simp, fun c => ?_⟩
    rw [exists_append_singleton_eq, ← hcan]
    simp
  by_cases hclose : a = .close
  · subst hclose
    obtain rfl := Option.some.inj h
    refine ⟨by simpa using hlen, hfunc, fun c => ?_⟩
    rw [exists_append_singleton_eq, ← hcan, ← hlen, ← hfunc]
    cases s.cancelFunc <;> simp [or_comm, eq_comm]
  · obtain ⟨hfunc', hcan', hlen'⟩ := frame_step h hrun hclose
    refine ⟨by simp [hlen', hlen, List.count_singleton, hrun], fun c => ?_, fun c => ?_⟩
    · rw [hfunc', hlen', hfunc]
    · rw [hcan', hcan, exists_append_singleton_eq]
      simp [hclose]

theorem closeHistory_runActions (eventFilter : EventFilter) {tr : List Action}
    (h : runActions (init eventFilter) tr = some s) : CloseHistory tr s :=
  runSteps_invariant CloseHistory (fun _ _ _ _ ht hs => closeHistory_step ht hs) h
    ⟨rfl, fun c => by simp [init], fun c => by simp [init]⟩

/-- A loop that has returned stays returned, and takes no further step. -/
theorem returned_step {a : Action} {i : Nat} (h : s.step a = some s')
    (hi : s.loops[i]? = some .returned) :
    s'.loops[i]? = some .returned ∧ a ≠ .done i ∧ ∀ m, a ≠ .receive i m ∧ a ≠ .handle i m := by
  have hlt : i < s.loops.length := (List.getElem?_eq_some_iff.1 hi).1
  cases a with
  | run =>
      obtain rfl := Option.some.inj h
      exact ⟨(List.getElem?_append_left hlt).trans hi, nofun, fun _ => ⟨nofun, nofun⟩⟩
  | done j =>
      obtain ⟨hj, -, rfl⟩ := eq_of_step_done h
      have hji : j ≠ i := by rintro rfl; simp [hi] at hj
      exact ⟨(List.getElem?_set_ne hji).trans hi, fun h => hji (Action.done.inj h),
        fun _ => ⟨nofun, nofun⟩⟩
  | receive j m =>
      obtain ⟨hj, rest, -, rfl⟩ := eq_of_step_receive h
      have hji : j ≠ i := by rintro rfl; simp [hi] at hj
      exact ⟨(List.getElem?_set_ne hji).trans hi, nofun,
        fun _ => ⟨fun h => hji (Action.receive.inj h).1, nofun⟩⟩
  | handle j m =>
      obtain ⟨hj, rfl⟩ := eq_of_step_handle h
      have hji : j ≠ i := by rintro rfl; simp [hi] at hj
      exact ⟨(List.getElem?_set_ne hji).trans hi, nofun,
        fun _ => ⟨nofun, fun h => hji (Action.handle.inj h).1⟩⟩
  | _ =>
      obtain rfl := Option.some.inj h
      exact ⟨hi, nofun, fun _ => ⟨nofun, nofun⟩⟩

theorem returned_runActions {t : HubSystem} {tr : List Action} {i : Nat}
    (h : runActions t tr = some s) (hi : t.loops[i]? = some .returned) :
    Action.done i ∉ tr ∧ ∀ m, Action.receive i m ∉ tr ∧ Action.handle i m ∉ tr := by
  have := runSteps_invariant
    (fun done u => u.loops[i]? = some .returned ∧ Action.done i ∉ done ∧
      ∀ m, Action.receive i m ∉ done ∧ Action.handle i m ∉ done)
    (fun done u a u' hu ⟨hret, hdone, hm⟩ => by
      obtain ⟨hret', hdone', hm'⟩ := returned_step hu hret
      refine ⟨hret', by simpa [Ne.symm hdone'] using hdone, fun m => ?_⟩
      simpa [Ne.symm (hm' m).1, Ne.symm (hm' m).2] using hm m)
    h ⟨hi, List.not_mem_nil _, fun _ => ⟨List.not_mem_nil _, List.not_mem_nil _⟩⟩
  exact this.2

/-- In every run, `Close` cancels the context of the latest `Run` before it and no other: a
context is cancelled exactly when some `Close` came after exactly that many calls of `Run`. A
loop returns only once its context is cancelled, and after taking `ctx.Done()` it takes no
further step. So the loops of earlier `Run` calls, whose cancel function a later `Run`
overwrote, and the loop of a `Run` after the last `Close` never return. -/
theorem close_cancels_latest_run (eventFilter : EventFilter) {tr : List Action} {s : HubSystem}
    (h : runActions (init eventFilter) tr = some s) :
    (∀ c, c ∈ s.cancelled ↔ ∃ pre post, tr = pre ++ .close :: post ∧ pre.count .run = c + 1) ∧
      ∀ pre i post, tr = pre ++ .done i :: post →
        (∃ pre₁ pre₂, pre = pre₁ ++ .close :: pre₂ ∧ pre₁.count .run = i + 1) ∧
          Action.done i ∉ post ∧ ∀ m, Action.receive i m ∉ post ∧ Action.handle i m ∉ post := by
  refine ⟨(closeHistory_runActions eventFilter h).2.2, fun pre i post htr => ?_⟩
  subst htr
  obtain ⟨s₁, h₁, h₂⟩ := runSteps_append.1 h
  obtain ⟨s₂, hd, h₃⟩ := runSteps_cons.1 h₂
  obtain ⟨hsel, hc, rfl⟩ := eq_of_step_done hd
  have hlt : i < s₁.loops.length := (List.getElem?_eq_some_iff.1 hsel).1
  exact ⟨((closeHistory_runActions eventFilter h₁).2.2 i).1 hc,
    returned_runActions h₃ (List.getElem?_set_self hlt)⟩

/-- Two calls of `Run` and a `Close`: only the second loop's context is cancelled, and that loop
returns. -/
theorem close_cancels_latest_run_twoRuns :
    let tr : List Action := [.run, .run, .close, .done 1]
    ∃ s, runActions (init ⟨fun _ _ => true⟩) tr = some s ∧
      (∀ c, c ∈ s.cancelled ↔ ∃ pre post, tr = pre ++ .close :: post ∧ pre.count .run = c + 1) ∧
      ∀ pre i post, tr = pre ++ .done i :: post →
        (∃ pre₁ pre₂, pre = pre₁ ++ .close :: pre₂ ∧ pre₁.count .run = i + 1) ∧
          Action.done i ∉ post ∧ ∀ m, Action.receive i m ∉ post ∧ Action.handle i m ∉ post := by
  intro tr
  exact ⟨_, (fun h => ⟨h, close_cancels_latest_run _ h⟩) rfl⟩

/-! ## After the loops have returned, and while one runs -/

/-- With every loop returned, no step but `Run` lets a loop run again: no loop takes or handles
a message, and only `Subscribe` changes the hub, leaving the registry as it was. -/
theorem returnedAll_step {a : Action} (h : s.step a = some s') (ha : a ≠ .run)
    (hret : ∀ l ∈ s.loops, l = .returned) :
    s'.loops = s.loops ∧ (∀ i m, a ≠ .receive i m ∧ a ≠ .handle i m) ∧
      s'.hub.dispatchers = s.hub.dispatchers := by
  cases a with
  | run => exact absurd rfl ha
  | done i => cases hret _ (List.getElem?_mem (eq_of_step_done h).1)
  | receive i m => cases hret _ (List.getElem?_mem (eq_of_step_receive h).1)
  | handle i m => cases hret _ (List.getElem?_mem (eq_of_step_handle h).1)
  | _ =>
      obtain rfl := Option.some.inj h
      exact ⟨rfl, fun _ _ => ⟨nofun, nofun⟩, rfl⟩

theorem returnedAll_runActions {t : HubSystem} {tr : List Action}
    (hret : ∀ l ∈ t.loops, l = .returned) (hrun : Action.run ∉ tr)
    (h : runActions t tr = some s) :
    (∀ i m, Action.receive i m ∉ tr ∧ Action.handle i m ∉ tr) ∧
      s.hub.dispatchers = t.hub.dispatchers := by
  have := runSteps_invariant
    (fun done u => Action.run ∉ done → u.loops = t.loops ∧
      u.hub.dispatchers = t.hub.dispatchers ∧
      ∀ i m, Action.receive i m ∉ done ∧ Action.handle i m ∉ done)
    (fun done u a u' hu hinv hrun' => by
      have hnot : Action.run ∉ done ∧ a ≠ .run := by simpa [eq_comm] using hrun'
      obtain ⟨hloops, hdisp, hm⟩ := hinv hnot.1
      obtain ⟨hloops', hm', hdisp'⟩ := returnedAll_step hu hnot.2 (hloops ▸ hret)
      refine ⟨hloops'.trans hloops, hdisp'.trans hdisp, fun i m => ?_⟩
      simpa [Ne.symm (hm' i m).1, Ne.symm (hm' i m).2] using hm i m)
    h (fun _ => ⟨rfl, rfl, fun _ _ => ⟨List.not_mem_nil _, List.not_mem_nil _⟩⟩) hrun
  exact ⟨this.2.2, this.2.1⟩

/-- Once every loop has returned (each took `ctx.Done()` after `Close`), and until `Run` is
called again, no message is ever received or handled: every producer blocked in `Broadcast`,
`BroadcastRevert`, `BroadcastFinalized`, `RegisterEvent` or `UnregisterEvent`, and every later
one, stays blocked, each channel keeping its sends in order, and the registry does not
change. -/
theorem returned_loops_block_senders {tr : List Action}
    (hret : ∀ l ∈ s.loops, l = .returned) (hrun : Action.run ∉ tr)
    (h : runActions s tr = some s') :
    (∀ i m, Action.receive i m ∉ tr ∧ Action.handle i m ∉ tr) ∧
      s'.hub.dispatchers = s.hub.dispatchers ∧
      ∀ ch, s'.blockedSends.filter (·.chan = ch) =
        s.blockedSends.filter (·.chan = ch) ++ sentOn ch tr := by
  obtain ⟨hrecv, hdisp⟩ := returnedAll_runActions hret hrun h
  refine ⟨hrecv, hdisp, fun ch => ?_⟩
  have hnil : received tr = [] :=
    List.filterMap_eq_nil_iff.2 fun a ha => by
      cases a with
      | receive i m => exact absurd ha (hrecv i m).1
      | _ => rfl
  simpa [hnil, sentOn, List.filter_append] using blocked_runActions h ch

/-- After `Run`, `Close` and the loop's return, a register sent later is never received. -/
theorem returned_loops_block_senders_register :
    let d : EventDispatcher := ⟨⟨1⟩, 0⟩
    ∃ s s', runActions (init ⟨fun _ _ => true⟩) [.run, .close, .done 0] = some s ∧
      runActions s [.send (.register d)] = some s' ∧
      (∀ l ∈ s.loops, l = .returned) ∧ Action.run ∉ [Action.send (.register d)] ∧
      (∀ i m, Action.receive i m ∉ [Action.send (.register d)] ∧
        Action.handle i m ∉ [Action.send (.register d)]) ∧
      s'.hub.dispatchers = s.hub.dispatchers ∧
      ∀ ch, s'.blockedSends.filter (·.chan = ch) =
        s.blockedSends.filter (·.chan = ch) ++ sentOn ch [.send (.register d)] := by
  intro d
  refine ⟨_, _, rfl, rfl, ?_⟩
  have hret : ∀ l ∈ [LoopStatus.returned], l = .returned := by decide
  exact ⟨hret, by decide, returned_loops_block_senders hret (by decide) rfl⟩

theorem running_set {l : List LoopStatus} {i j : Nat} {x : LoopStatus} (hx : x ≠ .returned)
    (h : l[i]? ≠ none ∧ l[i]? ≠ some .returned) :
    (l.set j x)[i]? ≠ none ∧ (l.set j x)[i]? ≠ some .returned := by
  by_cases hji : j = i
  · subst hji
    have hlt : j < l.length := by
      by_contra hge
      exact h.1 (List.getElem?_eq_none_iff.2 (by omega))
    simp [List.getElem?_set_self hlt, hx]
  · rwa [List.getElem?_set_ne hji]

/-- No step but `Close` cancels a context, so a running loop whose context is not cancelled
keeps running. -/
theorem running_step {a : Action} {i : Nat} (h : s.step a = some s') (ha : a ≠ .close)
    (hrun : s.Running i) (hc : i ∉ s.cancelled) : s'.Running i ∧ i ∉ s'.cancelled := by
  cases a with
  | run =>
      obtain rfl := Option.some.inj h
      have hlt : i < s.loops.length := by
        by_contra hge
        exact hrun.1 (List.getElem?_eq_none_iff.2 (by omega))
      exact ⟨by rw [Running, List.getElem?_append_left hlt]; exact hrun, hc⟩
  | close => exact absurd rfl ha
  | done j =>
      obtain ⟨-, hj, rfl⟩ := eq_of_step_done h
      have hji : j ≠ i := by rintro rfl; exact hc hj
      exact ⟨by rw [Running, List.getElem?_set_ne hji]; exact hrun, hc⟩
  | receive j m =>
      obtain ⟨-, rest, -, rfl⟩ := eq_of_step_receive h
      exact ⟨running_set nofun hrun, hc⟩
  | handle j m =>
      obtain ⟨-, rfl⟩ := eq_of_step_handle h
      exact ⟨running_set nofun hrun, hc⟩
  | _ =>
      obtain rfl := Option.some.inj h
      exact ⟨hrun, hc⟩

theorem running_runActions {t : HubSystem} {tr : List Action} {i : Nat} (hrun : t.Running i)
    (hc : i ∉ t.cancelled) (hclose : Action.close ∉ tr) (h : runActions t tr = some s) :
    s.Running i ∧ i ∉ s.cancelled :=
  runSteps_invariant (fun done u => Action.close ∉ done → u.Running i ∧ i ∉ u.cancelled)
    (fun done u a u' hu hinv hclose' => by
      have hnot : Action.close ∉ done ∧ a ≠ .close := by simpa [eq_comm] using hclose'
      obtain ⟨hrun', hc'⟩ := hinv hnot.1
      exact running_step hu hnot.2 hrun' hc')
    h (fun _ => ⟨hrun, hc⟩) hclose

/-- Loop `i`, at its `select`, takes the blocked sends one by one, oldest first, and runs the
handler of each. -/
theorem drain_selecting {i : Nat} (s : HubSystem) (hi : s.loops[i]? = some .selecting) :
    ∃ tr s', runActions s tr = some s' ∧ s'.blockedSends = [] ∧
      received tr = s.blockedSends ∧ handled tr = s.blockedSends := by
  obtain ⟨hub, cancelFunc, cancelled, loops, blocked⟩ := s
  change loops[i]? = _ at hi
  induction blocked generalizing hub loops with
  | nil => exact ⟨[], _, rfl, rfl, rfl, rfl⟩
  | cons m rest ih =>
      have hlt : i < loops.length := (List.getElem?_eq_some_iff.1 hi).1
      have h₁ : step ⟨hub, cancelFunc, cancelled, loops, m :: rest⟩ (.receive i m) =
          some ⟨hub, cancelFunc, cancelled, loops.set i (.handling m), rest⟩ := by
        simp [step, hi, takeSend]
      have h₂ : step ⟨hub, cancelFunc, cancelled, loops.set i (.handling m), rest⟩
          (.handle i m) =
          some ⟨hub.handle m, cancelFunc, cancelled, (loops.set i (.handling m)).set i .selecting,
            rest⟩ := by
        simp [step, hlt]
      obtain ⟨tr, s', hrun, hblocked, hrecv, hhand⟩ :=
        ih (hub.handle m) ((loops.set i (.handling m)).set i .selecting) (by simp [hlt])
      exact ⟨.receive i m :: .handle i m :: tr, s',
        runSteps_cons.2 ⟨_, h₁, runSteps_cons.2 ⟨_, h₂, hrun⟩⟩, hblocked,
        by simpa [received, Action.received?] using hrecv,
        by simpa [handled, Action.handled?] using hhand⟩

/-- While a loop whose context is not cancelled runs, no producer is stuck: in every
continuation that does not call `Close` the loop keeps running, and from every state such a
continuation reaches, some further continuation has that loop finish the handler it is running,
if any, then take every blocked send, in the order sent, and run its handler, leaving no send
blocked. -/
theorem blocked_sends_drain {i : Nat} (hrun : s.Running i) (hc : i ∉ s.cancelled)
    {tr : List Action} {t : HubSystem} (hclose : Action.close ∉ tr)
    (h : runActions s tr = some t) :
    t.Running i ∧ i ∉ t.cancelled ∧
      ∃ tr' t', runActions t tr' = some t' ∧ t'.blockedSends = [] ∧
        received tr' = t.blockedSends ∧
        handled tr' = (t.loops[i]?.bind LoopStatus.message?).toList ++ t.blockedSends := by
  obtain ⟨⟨hnone, hret⟩, hc'⟩ := running_runActions hrun hc hclose h
  refine ⟨⟨hnone, hret⟩, hc', ?_⟩
  rcases hx : t.loops[i]? with _ | (_ | m | _)
  · exact absurd hx hnone
  · obtain ⟨tr', t', h', hb, hr, hh⟩ := drain_selecting t hx
    exact ⟨tr', t', h', hb, hr, by simpa [LoopStatus.message?] using hh⟩
  · have hlt : i < t.loops.length := (List.getElem?_eq_some_iff.1 hx).1
    have h₁ : t.step (.handle i m) =
        some { t with hub := t.hub.handle m, loops := t.loops.set i .selecting } := by
      simp [step, hx]
    obtain ⟨tr', t', h', hb, hr, hh⟩ :=
      @drain_selecting i { t with hub := t.hub.handle m, loops := t.loops.set i .selecting }
        (by simp [hlt])
    exact ⟨.handle i m :: tr', t', runSteps_cons.2 ⟨_, h₁, h'⟩, hb,
      by simpa [received, Action.received?] using hr,
      by simpa [handled, Action.handled?, LoopStatus.message?] using hh⟩
  · exact absurd hx hret

/-- After `Run`, the loop holds a register while an unregister and another register are sent:
it finishes the register and then takes and handles both. -/
theorem blocked_sends_drain_uncancelled :
    let d : EventDispatcher := ⟨⟨1⟩, 0⟩
    let tr : List Action := [.send (.unregister d), .send (.register d)]
    ∃ s t, runActions (init ⟨fun _ _ => true⟩)
        [.run, .send (.register d), .receive 0 (.register d)] = some s ∧
      runActions s tr = some t ∧ s.Running 0 ∧ 0 ∉ s.cancelled ∧ Action.close ∉ tr ∧
      t.Running 0 ∧ 0 ∉ t.cancelled ∧
      ∃ tr' t', runActions t tr' = some t' ∧ t'.blockedSends = [] ∧
        received tr' = t.blockedSends ∧
        handled tr' = (t.loops[0]?.bind LoopStatus.message?).toList ++ t.blockedSends := by
  intro d tr
  exact ⟨_, _, rfl, (fun h => ⟨h, by decide, by decide, by decide,
    blocked_sends_drain (by decide) (by decide) (by decide) h⟩) rfl⟩

end HubSystem

/-- After `Run`, a subscription and a register, `Close` cancels the loop's context, yet a
broadcast sent after `Close` is taken, its handler pushing the block's event to the registered
dispatcher, and a register sent after that is taken and changes the registry: the loop's
`select` finds `ctx.Done()` and the channel both ready and takes the channel. -/
theorem messages_handled_after_close :
    let d : EventDispatcher := ⟨⟨1⟩, 0⟩
    let d' : EventDispatcher := ⟨⟨2⟩, 1⟩
    let e : Event := ⟨"erd1x", "transfer", [], [], "0xtx"⟩
    let b : BlockEvents := ⟨"0xaa", 0, 0, [e]⟩
    ∃ s₀ s s', HubSystem.runActions (HubSystem.init ⟨fun _ _ => true⟩)
        [.run, .subscribe ⟨d.getID, [⟨none, none, [], .all⟩]⟩, .send (.register d),
          .receive 0 (.register d), .handle 0 (.register d), .close, .send (.broadcast b)] =
          some s₀ ∧
      (s₀.step (.done 0)).isSome ∧ s₀.step (.receive 0 (.broadcast b)) = some s ∧
      s.hub.handleBroadcast b [d.getID] = [(d, [e])] ∧
      HubSystem.runActions s
        [.handle 0 (.broadcast b), .send (.register d'), .receive 0 (.register d'),
          .handle 0 (.register d')] = some s' ∧
      d'.getID ∉ s.hub.dispatchers ∧ d'.getID ∈ s'.hub.dispatchers :=
  ⟨_, _, _, rfl, rfl, rfl, rfl, rfl, by decide, by decide⟩

/-! ## Subscriptions across interleavings -/

/-- In every interleaving, the mapper holds exactly the subscriptions that `Subscribe` made for
their identifier since the last unregister of that identifier the loops handled. -/
theorem subscriptions_since_last_unregister (eventFilter : EventFilter) {tr : List Action}
    {s : HubSystem} (h : HubSystem.runActions (HubSystem.init eventFilter) tr = some s)
    (sub : Subscription) :
    sub ∈ s.hub.subscriptionMapper.subscriptions ↔
      sub ∈ subscribedSinceUnregister sub.dispatcherID (tr.filterMap Action.hubOp) := by
  rw [HubSystem.hub_runActions h]
  exact subscriptions_characterization eventFilter _ sub

/-- A dispatcher subscribes before its register and again after its unregister: the mapper's
subscriptions are those made since the unregister. -/
theorem subscriptions_since_last_unregister_resubscribe :
    let d : EventDispatcher := ⟨⟨1⟩, 0⟩
    let tr : List Action :=
      [.run, .subscribe ⟨d.getID, [⟨none, none, [], .all⟩]⟩, .send (.register d),
        .receive 0 (.register d), .handle 0 (.register d), .send (.unregister d),
        .receive 0 (.unregister d), .handle 0 (.unregister d),
        .subscribe ⟨d.getID, [⟨none, none, [], .blockEvents⟩]⟩]
    ∃ s, HubSystem.runActions (HubSystem.init ⟨fun _ _ => true⟩) tr = some s ∧
      ∀ sub, sub ∈ s.hub.subscriptionMapper.subscriptions ↔
        sub ∈ subscribedSinceUnregister sub.dispatcherID (tr.filterMap Action.hubOp) := by
  intro d tr
  exact ⟨_, (fun h => ⟨h, subscriptions_since_last_unregister _ h⟩) rfl⟩

/-- A `Subscribe` handled after the unregister of its identifier leaves the mapper holding a
subscription whose identifier is not a key of the registry. -/
theorem subscription_after_unregister :
    let d : EventDispatcher := ⟨⟨1⟩, 0⟩
    let entry : SubscriptionEntry := ⟨none, none, [], .all⟩
    ∃ s, HubSystem.runActions (HubSystem.init ⟨fun _ _ => true⟩)
        [.run, .send (.register d), .receive 0 (.register d), .handle 0 (.register d),
          .send (.unregister d), .receive 0 (.unregister d), .handle 0 (.unregister d),
          .subscribe ⟨d.getID, [entry]⟩] = some s ∧
      ⟨d.getID, entry⟩ ∈ s.hub.subscriptionMapper.subscriptions ∧ d.getID ∉ s.hub.dispatchers :=
  ⟨_, rfl, by decide, by decide⟩

end EventNotifier
