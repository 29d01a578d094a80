import EventNotifier.Dispatcher.SubscriptionMapper

/-!
# The hub's handlers

`commonHub` (`dispatcher/hub/commonHub.go`) owns the dispatcher registry and the subscription
mapper. This module models the state its serializing loop reads and writes and the handler
each `select` case calls:

- `registerDispatcher` inserts a dispatcher under its `GetID()` unless the identifier is
  already a key, and `unregisterDispatcher` deletes the key and then the dispatcher's
  subscriptions;
- `handleBroadcast` groups the events of a batch by the dispatchers whose subscriptions match
  them (`dispatchersMap`, built by the two nested loops) and then pushes each group to the
  registered dispatcher of that identifier, visiting `dispatchersMap` in the order Go's
  `range` chooses, given as an argument;
- `handleRevertBroadcast` and `handleFinalizedBroadcast` have empty bodies;
- `Subscribe` is not a loop message: it calls the mapper directly.

The channels, `cancelFunc` and the goroutine that runs the loop are the subject of
`Hub/Goroutines`. The lock `rwMut` only serializes the handlers, which the models here run
one at a time anyway.
-/

set_option autoImplicit false

namespace EventNotifier

/-- A call `d.PushEvents(events)` made by `handleBroadcast`. -/
abbrev Push := EventDispatcher × List Event

/-- The fields of `commonHub` the handlers use. -/
structure CommonHub where
  filter : EventFilter
  subscriptionMapper : SubscriptionMapper
  dispatchers : GoMap UUID EventDispatcher

/-- `NewCommonHub(eventFilter)`: no dispatcher, no subscription. -/
def newCommonHub (eventFilter : EventFilter) : CommonHub where
  filter := eventFilter
  subscriptionMapper := .new
  dispatchers := ∅

/-- A message on one of the hub's five channels. -/
inductive Inbound where
  | broadcast (events : BlockEvents)
  | broadcastRevert (event : RevertBlock)
  | broadcastFinalized (event : FinalizedBlock)
  | register (d : EventDispatcher)
  | unregister (d : EventDispatcher)
  deriving DecidableEq, Repr

/-! ## Grouping a batch by dispatcher -/

/-- The `mapEventToDispatcher` closure: append `e` to `dispatchersMap[id]`, a missing key
reading as the empty slice. -/
def mapEventToDispatcher (dispatchersMap : GoMap UUID (List Event)) (id : UUID) (e : Event) :
    GoMap UUID (List Event) :=
  dispatchersMap.insert id ((dispatchersMap.lookup id).getD [] ++ [e])

/-- The inner loop of `handleBroadcast`: one event against every subscription of the
snapshot, in order. -/
def mapEventToSubscriptions (filter : EventFilter) (subscriptions : List Subscription)
    (dispatchersMap : GoMap UUID (List Event)) (event : Event) : GoMap UUID (List Event) :=
  subscriptions.foldl (fun m subscription =>
    if filter.matchEvent subscription event then mapEventToDispatcher m subscription.dispatcherID event
    else m) dispatchersMap

/-- `dispatchersMap` after the two nested loops of `handleBroadcast`: every event of the batch,
in order, against every subscription of the snapshot. -/
def dispatchersMap (filter : EventFilter) (subscriptions : List Subscription)
    (events : List Event) : GoMap UUID (List Event) :=
  events.foldl (mapEventToSubscriptions filter subscriptions) ∅

/-- The last loop of `handleBroadcast`: for each identifier `range` yields, in the order
`rangeOrder`, push its events to the registered dispatcher of that identifier, if any. -/
def pushToDispatchers (dispatchers : GoMap UUID EventDispatcher)
    (dispatchersMap : GoMap UUID (List Event)) (rangeOrder : List UUID) : List Push :=
  rangeOrder.filterMap fun id => do
    let eventValues ← dispatchersMap.lookup id
    let d ← dispatchers.lookup id
    pure (d, eventValues)

/-- The body of `handleBroadcast` after the snapshot `subscriptions` is taken: the
`PushEvents` calls it makes, in order, when `range` visits `dispatchersMap` in the order
`rangeOrder`. -/
def handleBroadcastWith (filter : EventFilter) (subscriptions : List Subscription)
    (dispatchers : GoMap UUID EventDispatcher) (blockEvents : BlockEvents)
    (rangeOrder : List UUID) : List Push :=
  pushToDispatchers dispatchers (dispatchersMap filter subscriptions blockEvents.events) rangeOrder

namespace CommonHub

/-- `handleBroadcast(blockEvents)`: the `PushEvents` calls it makes. It changes no field of the
hub. -/
def handleBroadcast (wh : CommonHub) (blockEvents : BlockEvents) (rangeOrder : List UUID) :
    List Push :=
  handleBroadcastWith wh.filter wh.subscriptionMapper.subscriptions wh.dispatchers blockEvents
    rangeOrder

/-- `registerDispatcher(d)`: a dispatcher whose identifier is already a key is dropped. -/
def registerDispatcher (wh : CommonHub) (d : EventDispatcher) : CommonHub :=
  if d.getID ∈ wh.dispatchers then wh
  else { wh with dispatchers := wh.dispatchers.insert d.getID d }

/-- `unregisterDispatcher(d)`: delete the key `d.GetID()` if present, then remove every
subscription of that identifier. -/
def unregisterDispatcher (wh : CommonHub) (d : EventDispatcher) : CommonHub where
  filter := wh.filter
  dispatchers := if d.getID ∈ wh.dispatchers then wh.dispatchers.erase d.getID else wh.dispatchers
  subscriptionMapper := wh.subscriptionMapper.removeSubscriptions d.getID

/-- `Subscribe(event)`: a direct call on the mapper, outside the loop. -/
def subscribe (wh : CommonHub) (event : SubscribeEvent) : CommonHub :=
  { wh with subscriptionMapper := wh.subscriptionMapper.matchSubscribeEvent event }

/-- What handling one message does to the hub's fields. `handleBroadcast` only pushes, and
`handleRevertBroadcast` and `handleFinalizedBroadcast` have empty bodies. -/
def handle (wh : CommonHub) : Inbound → CommonHub
  | .broadcast _ => wh
  | .broadcastRevert _ => wh
  | .broadcastFinalized _ => wh
  | .register d => wh.registerDispatcher d
  | .unregister d => wh.unregisterDispatcher d

/-! ## One lemma per handler -/

@[simp] theorem registerDispatcher_filter (wh : CommonHub) (d : EventDispatcher) :
    (wh.registerDispatcher d).filter = wh.filter := by
  unfold registerDispatcher; split <;> rfl

@[simp] theorem registerDispatcher_subscriptionMapper (wh : CommonHub) (d : EventDispatcher) :
    (wh.registerDispatcher d).subscriptionMapper = wh.subscriptionMapper := by
  unfold registerDispatcher; split <;> rfl

/-- Registering gives the identifier `d` when it was not a key, and leaves every other lookup
as it was. -/
theorem lookup_registerDispatcher (wh : CommonHub) (d : EventDispatcher) (k : UUID) :
    (wh.registerDispatcher d).dispatchers.lookup k =
      if k = d.getID ∧ k ∉ wh.dispatchers then some d else wh.dispatchers.lookup k := by
  unfold registerDispatcher
  by_cases hm : d.getID ∈ wh.dispatchers
  · rw [if_pos hm, if_neg]
    rintro ⟨rfl, h⟩
    exact h hm
  · rw [if_neg hm, lookup_insert_ite]
    by_cases hk : k = d.getID <;> simp [hk, hm]

/-- Re-registering an identifier that is already a key changes nothing. -/
theorem registerDispatcher_of_mem (wh : CommonHub) (d : EventDispatcher)
    (h : d.getID ∈ wh.dispatchers) : wh.registerDispatcher d = wh := by
  simp [registerDispatcher, h]

@[simp] theorem unregisterDispatcher_filter (wh : CommonHub) (d : EventDispatcher) :
    (wh.unregisterDispatcher d).filter = wh.filter := rfl

@[simp] theorem unregisterDispatcher_subscriptionMapper (wh : CommonHub) (d : EventDispatcher) :
    (wh.unregisterDispatcher d).subscriptionMapper =
      wh.subscriptionMapper.removeSubscriptions d.getID := rfl

/-- Unregistering removes the identifier and leaves every other one untouched. -/
theorem lookup_unregisterDispatcher (wh : CommonHub) (d : EventDispatcher) (k : UUID) :
    (wh.unregisterDispatcher d).dispatchers.lookup k =
      if k = d.getID then none else wh.dispatchers.lookup k := by
  simp only [unregisterDispatcher]
  by_cases hk : k = d.getID
  · subst hk
    split
    · simp [AList.lookup_erase]
    · simpa [AList.lookup_eq_none]
  · split <;> simp [hk, AList.lookup_erase_ne hk]

@[simp] theorem subscribe_filter (wh : CommonHub) (e : SubscribeEvent) :
    (wh.subscribe e).filter = wh.filter := rfl

@[simp] theorem subscribe_dispatchers (wh : CommonHub) (e : SubscribeEvent) :
    (wh.subscribe e).dispatchers = wh.dispatchers := rfl

@[simp] theorem subscribe_subscriptionMapper (wh : CommonHub) (e : SubscribeEvent) :
    (wh.subscribe e).subscriptionMapper = wh.subscriptionMapper.matchSubscribeEvent e := rfl

@[simp] theorem handle_filter (wh : CommonHub) (m : Inbound) : (wh.handle m).filter = wh.filter := by
  cases m <;> simp [handle]

end CommonHub

/-! ## Keys and identifiers -/

/-- Every key of the registry maps to a dispatcher whose `GetID()` is that key. -/
def WellKeyed (dispatchers : GoMap UUID EventDispatcher) : Prop :=
  ∀ k d, dispatchers.lookup k = some d → d.getID = k

theorem wellKeyed_empty : WellKeyed ∅ := by
  intro k d h
  simp [AList.lookup_empty] at h

namespace CommonHub

theorem wellKeyed_registerDispatcher {wh : CommonHub} (h : WellKeyed wh.dispatchers)
    (d : EventDispatcher) : WellKeyed (wh.registerDispatcher d).dispatchers := by
  intro k d' hk
  rw [lookup_registerDispatcher] at hk
  split at hk
  · cases hk
    exact (‹k = d.getID ∧ _›).1.symm
  · exact h k d' hk

theorem wellKeyed_unregisterDispatcher {wh : CommonHub} (h : WellKeyed wh.dispatchers)
    (d : EventDispatcher) : WellKeyed (wh.unregisterDispatcher d).dispatchers := by
  intro k d' hk
  rw [lookup_unregisterDispatcher] at hk
  split at hk
  · cases hk
  · exact h k d' hk

theorem wellKeyed_handle {wh : CommonHub} (h : WellKeyed wh.dispatchers) :
    ∀ m : Inbound, WellKeyed (wh.handle m).dispatchers
  | .broadcast _ | .broadcastRevert _ | .broadcastFinalized _ => h
  | .register d => wellKeyed_registerDispatcher h d
  | .unregister d => wellKeyed_unregisterDispatcher h d

@[simp] theorem subscribe_wellKeyed {wh : CommonHub} (e : SubscribeEvent) :
    WellKeyed (wh.subscribe e).dispatchers ↔ WellKeyed wh.dispatchers := Iff.rfl

end CommonHub

end EventNotifier
