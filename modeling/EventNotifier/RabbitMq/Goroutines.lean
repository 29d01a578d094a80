import EventNotifier.RabbitMq.Publisher
import EventNotifier.Channels

/-!
# The publisher's goroutines

`NewRabbitMqPublisher` makes three unbuffered channels. `Broadcast`, `BroadcastRevert` and
`BroadcastFinalized` block until a loop receives their message, and `Run`, launched as a
goroutine, loops forever on a `select` over the three channels and calls the publish method of
the stream it received from. Nothing stops `Run` from being called twice: the loops then share
the channels.

`PublisherSystem.step` is what one goroutine can do next: a call of `Run`, a producer blocking
on a channel, a loop's `select` taking the oldest send blocked on a ready channel, or a loop
finishing the publish method of the message it took, with the `Publish` call that makes. Go
picks among ready cases at random, so the choice is part of the action.

- `runActions_conserves`: in every interleaving, whatever the number of loops, each message a
  producer sent is exactly once among those whose publish method ran, those a loop holds and
  those still blocked, and the `Publish` calls made are the ones the spec asks for the first.
  No message is lost or published twice.
- `runActions_stream_order`: with at most one loop, the messages of each stream are published
  in the order they were sent. Two loops can publish two messages of one stream in the other
  order (the example after it).
- `runActions_drains`: from every state with a loop, some continuation publishes everything the
  loops hold and every blocked send, and leaves no producer blocked.
-/

set_option autoImplicit false

namespace EventNotifier.RabbitMq

/-- The publisher's three unbuffered channels. -/
inductive PublisherChan where
  | broadcast
  | broadcastRevert
  | broadcastFinalized
  deriving DecidableEq, Repr

/-- The channel a message is sent on. -/
def Message.chan : Message → PublisherChan
  | .broadcast _ => .broadcast
  | .broadcastRevert _ => .broadcastRevert
  | .broadcastFinalized _ => .broadcastFinalized

/-- A loop started by `Run`: at its `select`, or in the publish method of a message it
received. -/
inductive LoopState where
  | selecting
  | publishing (m : Message)
  deriving DecidableEq, Repr

/-- The message a loop holds. -/
def LoopState.message? : LoopState → Option Message
  | .selecting => none
  | .publishing m => some m

/-- The publisher and its goroutines: the loops `Run` started, the producers blocked on a
channel, oldest first, and the `Publish` calls made so far. -/
structure PublisherSystem where
  loops : List LoopState
  blockedSends : List Message
  published : List PublishCall
  deriving DecidableEq, Repr

/-- A call of `Run`, a producer blocking in `Broadcast`, `BroadcastRevert` or
`BroadcastFinalized`, loop `i`'s `select` taking channel `ch`, or loop `i` finishing the
publish method of the message it took. -/
inductive PublisherAction where
  | run
  | send (m : Message)
  | receive (i : Nat) (ch : PublisherChan)
  | publish (i : Nat)
  deriving DecidableEq, Repr

/-- The message an action sends. -/
def PublisherAction.sent : PublisherAction → List Message
  | .send m => [m]
  | _ => []

namespace PublisherSystem

/-- The publisher `NewRabbitMqPublisher` returns, before any `Run`. -/
def init : PublisherSystem := ⟨[], [], []⟩

/-- The messages the loops hold. -/
def inFlight (s : PublisherSystem) : List Message := s.loops.filterMap LoopState.message?

section Step

variable (rp : RabbitMqPublisher) (marshal : JsonMarshal)

/-- One action, when it is possible. -/
def step (s : PublisherSystem) : PublisherAction → Option PublisherSystem
  | .run => some { s with loops := s.loops ++ [.selecting] }
  | .send m => some { s with blockedSends := s.blockedSends ++ [m] }
  | .receive i ch =>
      match s.loops[i]? with
      | some .selecting => (takeSend Message.chan ch s.blockedSends).map fun p =>
          { s with loops := s.loops.set i (.publishing p.1), blockedSends := p.2 }
      | _ => none
  | .publish i =>
      match s.loops[i]? with
      | some (.publishing m) =>
          some { s with loops := s.loops.set i .selecting,
                        published := s.published ++ rp.handle marshal m }
      | _ => none

/-- The state after the actions `tr`, when each of them is possible in turn. -/
def runActions : PublisherSystem → List PublisherAction → Option PublisherSystem :=
  runSteps (step rp marshal)

end Step

/-! ## What one step can do -/

section Inversion

variable {rp : RabbitMqPublisher} {marshal : JsonMarshal} {s s' : PublisherSystem}

theorem eq_of_step_receive {i : Nat} {ch : PublisherChan}
    (h : s.step rp marshal (.receive i ch) = some s') :
    s.loops[i]? = some .selecting ∧ ∃ m rest, takeSend Message.chan ch s.blockedSends = some (m, rest) ∧
      s' = { s with loops := s.loops.set i (.publishing m), blockedSends := rest } := by
  simp only [step] at h
  split at h
  · obtain ⟨⟨m, rest⟩, hp, rfl⟩ := Option.map_eq_some'.1 h
    exact ⟨‹_›, m, rest, hp, rfl⟩
  · cases h

theorem eq_of_step_publish {i : Nat} (h : s.step rp marshal (.publish i) = some s') :
    ∃ m, s.loops[i]? = some (.publishing m) ∧
      s' = { s with loops := s.loops.set i .selecting,
                    published := s.published ++ rp.handle marshal m } := by
  simp only [step] at h
  split at h
  · exact ⟨_, ‹_›, (Option.some.inj h).symm⟩
  · cases h

theorem length_loops_step {a : PublisherAction} (h : s.step rp marshal a = some s') :
    s.loops.length ≤ s'.loops.length := by
  cases a with
  | run =>
      obtain rfl := Option.some.inj h
      simp
  | send m =>
      obtain rfl := Option.some.inj h
      exact Nat.le_refl _
  | receive i ch =>
      obtain ⟨-, m, rest, -, rfl⟩ := eq_of_step_receive h
      simp
  | publish i =>
      obtain ⟨m, -, rfl⟩ := eq_of_step_publish h
      simp

end Inversion

end PublisherSystem

/-! ## The messages the loops hold -/

section InFlight

variable {loops : List LoopState} {i : Nat} {m : Message}

theorem filterMap_message_set_publishing (hi : loops[i]? = some .selecting) :
    ((loops.set i (.publishing m)).filterMap LoopState.message?).Perm
      (m :: loops.filterMap LoopState.message?) := by
  simpa [LoopState.message?] using
    (filterMap_set_perm LoopState.message? (.publishing m) hi).trans (List.perm_append_singleton _ _)

theorem filterMap_message_set_selecting (hi : loops[i]? = some (.publishing m)) :
    (loops.filterMap LoopState.message?).Perm
      (m :: (loops.set i .selecting).filterMap LoopState.message?) := by
  have hperm := filterMap_set_perm LoopState.message? .selecting hi
  simp only [LoopState.message?, Option.toList_some, Option.toList_none, List.append_nil] at hperm
  exact hperm.symm.trans (List.perm_append_singleton _ _)

end InFlight

/-! ## No message lost or published twice -/

theorem run_append_singleton (rp : RabbitMqPublisher) (marshal : JsonMarshal)
    (done : List Message) (m : Message) :
    rp.run marshal (done ++ [m]) = rp.run marshal done ++ rp.handle marshal m := by
  simp [RabbitMqPublisher.run]

namespace PublisherSystem

section Conservation

open scoped List

variable (rp : RabbitMqPublisher) (marshal : JsonMarshal)

/-- Every message of `sent` is, exactly once, among `done` (whose publish method ran), the
loops' messages and the blocked sends; the `Publish` calls made are those of `done`, in
order. -/
def Conserves (s : PublisherSystem) (sent : List Message) : Prop :=
  ∃ done, s.published = rp.run marshal done ∧ (done ++ s.inFlight ++ s.blockedSends).Perm sent

variable {rp marshal} {s s' : PublisherSystem} {sent : List Message}

theorem conserves_step {a : PublisherAction} (h : s.step rp marshal a = some s')
    (hc : s.Conserves rp marshal sent) : s'.Conserves rp marshal (sent ++ a.sent) := by
  obtain ⟨done, hpub, hperm⟩ := hc
  cases a with
  | run =>
      obtain rfl := Option.some.inj h
      refine ⟨done, hpub, ?_⟩
      simpa [inFlight, LoopState.message?, PublisherAction.sent] using hperm
  | send m =>
      obtain rfl := Option.some.inj h
      refine ⟨done, hpub, ?_⟩
      simpa [PublisherAction.sent] using hperm.append_right [m]
  | receive i ch =>
      obtain ⟨hi, m, rest, ht, rfl⟩ := eq_of_step_receive h
      refine ⟨done, hpub, ?_⟩
      calc done ++ (s.loops.set i (.publishing m)).filterMap LoopState.message? ++ rest
            ~ done ++ (m :: s.inFlight) ++ rest :=
            ((filterMap_message_set_publishing hi).append_left done).append_right rest
        _ ~ done ++ s.inFlight ++ (m :: rest) := by
            simp only [List.append_assoc, List.cons_append]
            exact List.perm_middle.symm.append_left done
        _ ~ done ++ s.inFlight ++ s.blockedSends := ((perm_of_takeSend ht).symm.append_left _)
        _ ~ sent ++ [] := by simpa using hperm
  | publish i =>
      obtain ⟨m, hi, rfl⟩ := eq_of_step_publish h
      refine ⟨done ++ [m], by rw [hpub, run_append_singleton], ?_⟩
      calc done ++ [m] ++ (s.loops.set i .selecting).filterMap LoopState.message? ++ s.blockedSends
            ~ done ++ s.inFlight ++ s.blockedSends := by
            simpa using ((filterMap_message_set_selecting hi).symm.append_left done).append_right
              s.blockedSends
        _ ~ sent ++ [] := by simpa using hperm

theorem conserves_runActions {t : PublisherSystem} {tr : List PublisherAction}
    (h : runActions rp marshal t tr = some s) (hc : t.Conserves rp marshal sent) :
    s.Conserves rp marshal (sent ++ tr.flatMap PublisherAction.sent) :=
  runSteps_invariant (fun done u => u.Conserves rp marshal (sent ++ done.flatMap PublisherAction.sent))
    (fun _ _ _ _ hu hc' => by simpa using conserves_step hu hc') h (by simpa using hc)

end Conservation

section Order

variable (rp : RabbitMqPublisher) (marshal : JsonMarshal)

/-- Channel by channel, `done`, the loops' messages and the blocked sends are the messages of
`sent`, in order; the `Publish` calls made are those of `done`, in order. -/
def InOrder (s : PublisherSystem) (sent : List Message) : Prop :=
  ∃ done, s.published = rp.run marshal done ∧
    ∀ ch, (done ++ s.inFlight ++ s.blockedSends).filter (·.chan = ch) = sent.filter (·.chan = ch)

variable {rp marshal} {s s' : PublisherSystem} {sent : List Message}

theorem inOrder_step {a : PublisherAction} (h : s.step rp marshal a = some s')
    (hone : s'.loops.length ≤ 1) (hc : s.InOrder rp marshal sent) :
    s'.InOrder rp marshal (sent ++ a.sent) := by
  obtain ⟨done, hpub, hord⟩ := hc
  cases a with
  | run =>
      obtain rfl := Option.some.inj h
      refine ⟨done, hpub, fun ch => ?_⟩
      simpa [inFlight, LoopState.message?, PublisherAction.sent] using hord ch
  | send m =>
      obtain rfl := Option.some.inj h
      refine ⟨done, hpub, fun ch => ?_⟩
      simp [inFlight, PublisherAction.sent, List.filter_append, ← hord ch]
  | receive i ch =>
      obtain ⟨hi, m, rest, ht, rfl⟩ := eq_of_step_receive h
      obtain ⟨hloops, rfl⟩ := eq_singleton_of_getElem? (by simpa using hone) hi
      refine ⟨done, hpub, fun ch' => ?_⟩
      have hord' := hord ch'
      rw [List.filter_append, filter_of_takeSend ht] at hord'
      simpa [inFlight, hloops, LoopState.message?, PublisherAction.sent, List.filter_append]
        using hord'
  | publish i =>
      obtain ⟨m, hi, rfl⟩ := eq_of_step_publish h
      obtain ⟨hloops, rfl⟩ := eq_singleton_of_getElem? (by simpa using hone) hi
      refine ⟨done ++ [m], by rw [hpub, run_append_singleton], fun ch => ?_⟩
      simpa [inFlight, hloops, LoopState.message?, PublisherAction.sent] using hord ch

theorem inOrder_runActions {t : PublisherSystem} {tr : List PublisherAction}
    (h : runActions rp marshal t tr = some s) (hone : s.loops.length ≤ 1)
    (hc : t.InOrder rp marshal sent) :
    s.InOrder rp marshal (sent ++ tr.flatMap PublisherAction.sent) :=
  runSteps_invariant
    (fun done u => u.loops.length ≤ 1 → u.InOrder rp marshal (sent ++ done.flatMap PublisherAction.sent))
    (fun _ _ _ _ hu hc' hone' => by
      simpa using inOrder_step hu hone' (hc' ((length_loops_step hu).trans hone')))
    h (fun _ => by simpa using hc) hone

end Order

/-- In every interleaving in which `Run` was called at most once, each stream is published in
the order its messages were sent: channel by channel, the messages whose publish method has run,
then the one the loop holds, then those still blocked are the messages sent on that channel, in
order; and the `Publish` calls made so far are, in order, the calls the spec asks for the
first. -/
theorem runActions_stream_order (rp : RabbitMqPublisher) (marshal : JsonMarshal)
    {tr : List PublisherAction} {s : PublisherSystem}
    (h : runActions rp marshal init tr = some s) (hone : s.loops.length ≤ 1) :
    ∃ done, s.published = done.filterMap (expectedPublish rp.cfg marshal) ∧
      ∀ ch, (done ++ s.inFlight ++ s.blockedSends).filter (·.chan = ch) =
        (tr.flatMap PublisherAction.sent).filter (·.chan = ch) := by
  obtain ⟨done, hpub, hord⟩ :=
    inOrder_runActions h hone (⟨[], rfl, fun _ => rfl⟩ : init.InOrder rp marshal [])
  exact ⟨done, hpub.trans (run_eq rp marshal done), fun ch => by simpa using hord ch⟩

/-- One loop, two block-events messages sent in turn: the first is published, the second
still blocked. -/
theorem runActions_stream_order_oneLoop :
    let rp : RabbitMqPublisher := ⟨⟨"amqp://localhost", "events", "revert", "finalized"⟩⟩
    let marshal : JsonMarshal := ⟨fun b => .ok [b.shardID.toUInt8], fun _ => .ok [], fun _ => .ok []⟩
    let tr : List PublisherAction :=
      [.run, .send (.broadcast ⟨"0xaa", 1, 0, []⟩), .send (.broadcast ⟨"0xab", 2, 0, []⟩),
        .receive 0 .broadcast, .publish 0]
    ∃ s, runActions rp marshal init tr = some s ∧ s.loops.length ≤ 1 ∧
      ∃ done, s.published = done.filterMap (expectedPublish rp.cfg marshal) ∧
        ∀ ch, (done ++ s.inFlight ++ s.blockedSends).filter (·.chan = ch) =
          (tr.flatMap PublisherAction.sent).filter (·.chan = ch) := by
  intro rp marshal tr
  exact ⟨_, (fun h => ⟨h, by decide, runActions_stream_order rp marshal h (by decide)⟩) rfl⟩

/-! ## A running loop leaves nothing behind -/

section Drain

variable {rp : RabbitMqPublisher} {marshal : JsonMarshal}

/-- Loop `0`, at its `select` while no loop holds a message, takes and publishes the blocked
sends one by one, oldest first. -/
theorem drain_blocked (s : PublisherSystem) (hsel : s.loops[0]? = some .selecting)
    (hfl : s.inFlight = []) :
    ∃ tr s', runActions rp marshal s tr = some s' ∧ s'.inFlight = [] ∧
      s'.blockedSends = [] ∧ s'.published = s.published ++ rp.run marshal s.blockedSends := by
  obtain ⟨loops, blocked, published⟩ := s
  change loops[0]? = _ at hsel
  change loops.filterMap LoopState.message? = [] at hfl
  induction blocked generalizing loops published with
  | nil => exact ⟨[], _, rfl, hfl, rfl, by simp [RabbitMqPublisher.run]⟩
  | cons m rest ih =>
      have hlt : 0 < loops.length := (List.getElem?_eq_some_iff.1 hsel).1
      have hheld : (loops.set 0 (.publishing m))[0]? = some (.publishing m) := by simp [hlt]
      have h₁ : step rp marshal ⟨loops, m :: rest, published⟩ (.receive 0 m.chan) =
          some ⟨loops.set 0 (.publishing m), rest, published⟩ := by
        simp [step, hsel, takeSend]
      have h₂ : step rp marshal ⟨loops.set 0 (.publishing m), rest, published⟩ (.publish 0) =
          some ⟨loops.set 0 .selecting, rest, published ++ rp.handle marshal m⟩ := by
        simp [step, hheld, List.set_set]
      have hfl' : (loops.set 0 .selecting).filterMap LoopState.message? = [] := by
        have hlen := ((filterMap_message_set_selecting hheld).symm.trans
          (filterMap_message_set_publishing hsel)).length_eq
        rw [hfl] at hlen
        simpa [List.set_set] using hlen
      obtain ⟨tr, s', hrun, hempty, hblocked, hpub⟩ :=
        ih (loops.set 0 .selecting) (published ++ rp.handle marshal m) (by simp [hlt]) hfl'
      exact ⟨.receive 0 m.chan :: .publish 0 :: tr, s',
        runSteps_cons.2 ⟨_, h₁, runSteps_cons.2 ⟨_, h₂, hrun⟩⟩, hempty, hblocked,
        by simp [hpub, RabbitMqPublisher.run]⟩

/-- The loops holding a message publish it, one after another; `order` is the order they
do. -/
theorem drain_inFlight : ∀ (n : Nat) (s : PublisherSystem), s.inFlight.length = n →
    ∃ (tr : List PublisherAction) (order : List Message) (s' : PublisherSystem),
      runActions rp marshal s tr = some s' ∧ s'.inFlight = [] ∧
      s'.loops.length = s.loops.length ∧ s'.blockedSends = s.blockedSends ∧
      order.Perm s.inFlight ∧ s'.published = s.published ++ rp.run marshal order
  | 0, s, hn => ⟨[], [], s, rfl, List.eq_nil_of_length_eq_zero hn, rfl, rfl,
      by rw [List.eq_nil_of_length_eq_zero hn], by simp [RabbitMqPublisher.run]⟩
  | n + 1, s, hn => by
      obtain ⟨m, hm⟩ := List.exists_mem_of_length_pos (by omega : 0 < s.inFlight.length)
      obtain ⟨x, hx, hxm⟩ := List.mem_filterMap.1 hm
      obtain rfl : x = .publishing m := by
        cases x <;> simp_all [LoopState.message?]
      obtain ⟨i, hi⟩ := List.mem_iff_getElem?.1 hx
      have h₁ : s.step rp marshal (.publish i) = some ⟨s.loops.set i .selecting, s.blockedSends,
          s.published ++ rp.handle marshal m⟩ := by
        simp [step, hi]
      have hperm := filterMap_message_set_selecting hi
      obtain ⟨tr, order, s', hrun, hempty, hlen, hblocked, horder, hpub⟩ :=
        drain_inFlight n ⟨s.loops.set i .selecting, s.blockedSends,
          s.published ++ rp.handle marshal m⟩ (by
            have hlen := hperm.length_eq
            simp only [inFlight, List.length_cons] at hlen hn ⊢
            omega)
      exact ⟨.publish i :: tr, m :: order, s', runSteps_cons.2 ⟨_, h₁, hrun⟩, hempty,
        by simpa using hlen, hblocked, (horder.cons m).trans hperm.symm,
        by simp [hpub, RabbitMqPublisher.run]⟩

end Drain

/-- From every state in which `Run` has been called, some continuation of the run publishes
every message the loops hold and every blocked send, and nothing else, and leaves no producer
blocked: the publisher never deadlocks, since a loop always goes back to its `select` after
publishing, whatever `Publish` returned. -/
theorem runActions_drains (rp : RabbitMqPublisher) (marshal : JsonMarshal) (s : PublisherSystem)
    (hrun : s.loops ≠ []) :
    ∃ tr s', runActions rp marshal s tr = some s' ∧ s'.inFlight = [] ∧ s'.blockedSends = [] ∧
      ∃ order : List Message, order.Perm (s.inFlight ++ s.blockedSends) ∧
        s'.published = s.published ++ order.filterMap (expectedPublish rp.cfg marshal) := by
  obtain ⟨tr₁, order₁, s₁, h₁, hempty₁, hlen₁, hblocked₁, horder₁, hpub₁⟩ :=
    @drain_inFlight rp marshal _ s rfl
  obtain ⟨x, xs, hloops⟩ := List.exists_cons_of_ne_nil hrun
  obtain ⟨y, ys, hloops₁⟩ : ∃ y ys, s₁.loops = y :: ys :=
    List.exists_cons_of_length_pos (by simp [hlen₁, hloops])
  have hy : y = .selecting := by
    have : (y :: ys).filterMap LoopState.message? = [] := hloops₁ ▸ hempty₁
    cases y <;> simp_all [LoopState.message?]
  obtain ⟨tr₂, s₂, h₂, hempty₂, hblocked₂, hpub₂⟩ :=
    @drain_blocked rp marshal s₁ (by simp [hloops₁, hy]) hempty₁
  refine ⟨tr₁ ++ tr₂, s₂, runSteps_append.2 ⟨_, h₁, h₂⟩, hempty₂, hblocked₂, order₁ ++ s.blockedSends,
    horder₁.append_right _, ?_⟩
  rw [hpub₂, hpub₁, hblocked₁, ← run_eq]
  simp [RabbitMqPublisher.run]

/-- One loop holding a block-events message while a revert block is blocked. -/
theorem runActions_drains_held :
    let rp : RabbitMqPublisher := ⟨⟨"amqp://localhost", "events", "revert", "finalized"⟩⟩
    let marshal : JsonMarshal := ⟨fun _ => .ok [1], fun _ => .ok [2], fun _ => .ok [3]⟩
    let s : PublisherSystem := ⟨[.publishing (.broadcast ⟨"0xaa", 0, 0, []⟩)],
      [.broadcastRevert ⟨"0xab", 1, 1, 0⟩], []⟩
    s.loops ≠ [] ∧
      ∃ tr s', runActions rp marshal s tr = some s' ∧ s'.inFlight = [] ∧ s'.blockedSends = [] ∧
        ∃ order : List Message, order.Perm (s.inFlight ++ s.blockedSends) ∧
          s'.published = s.published ++ order.filterMap (expectedPublish rp.cfg marshal) := by
  intro rp marshal s
  exact ⟨List.cons_ne_nil _ _, runActions_drains rp marshal s (List.cons_ne_nil _ _)⟩

/-- With two loops the order of one stream is not kept: each loop takes one of two
block-events messages, and the second loop publishes first. -/
example :
    let rp : RabbitMqPublisher := ⟨⟨"amqp://localhost", "events", "revert", "finalized"⟩⟩
    let marshal : JsonMarshal := ⟨fun b => .ok [b.shardID.toUInt8], fun _ => .ok [], fun _ => .ok []⟩
    runActions rp marshal init
        [.run, .run, .send (.broadcast ⟨"0xaa", 1, 0, []⟩), .send (.broadcast ⟨"0xab", 2, 0, []⟩),
          .receive 0 .broadcast, .receive 1 .broadcast, .publish 1, .publish 0] =
      some ⟨[.selecting, .selecting], [],
        [publishFanout "events" [2], publishFanout "events" [1]]⟩ := rfl

end PublisherSystem

end EventNotifier.RabbitMq
