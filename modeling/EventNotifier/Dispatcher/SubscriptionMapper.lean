import EventNotifier.Data

/-!
# The subscription mapper

The hub stores subscriptions in a `dispatcher.SubscriptionMapper`. Its source is not part of
this development, so it is modelled from the spec (section 4.1): the mapper keeps the
subscriptions of each dispatcher (`byDispatcher`) and the list of all subscriptions (`all`),
`MatchSubscribeEvent` appends each entry of a subscribe event under the event's dispatcher,
an entry equal to one the dispatcher already holds changing nothing, and
`RemoveSubscriptions` deletes every subscription of one dispatcher from both indices.

`SubscriptionMapper` carries the agreement of the two indices and the absence of duplicates
as fields, so every operation below proves that it keeps them. The membership lemmas
`mem_subscriptions_matchSubscribeEvent` and `mem_subscriptions_removeSubscriptions` say what
each operation does to the snapshot a broadcast reads; the hub modules use only them.
-/

set_option autoImplicit false

namespace EventNotifier

/-- Modelled from the spec: the state of `dispatcher.SubscriptionMapper`. The per-dispatcher
index agrees with the list of all subscriptions, and no subscription is stored twice. -/
structure SubscriptionMapper where
  byDispatcher : GoMap UUID (List Subscription)
  all : List Subscription
  coherent : ∀ id, (byDispatcher.lookup id).getD [] = all.filter (·.dispatcherID = id)
  nodup : all.Nodup

namespace SubscriptionMapper

/-- The subscriptions one dispatcher owns, read from the per-dispatcher index. -/
def subscriptionsFor (m : SubscriptionMapper) (id : UUID) : List Subscription :=
  (m.byDispatcher.lookup id).getD []

/-- Modelled from the spec: `Subscriptions()`, the snapshot of all subscriptions. -/
def subscriptions (m : SubscriptionMapper) : List Subscription := m.all

theorem subscriptionsFor_eq (m : SubscriptionMapper) (id : UUID) :
    m.subscriptionsFor id = m.subscriptions.filter (·.dispatcherID = id) :=
  m.coherent id

theorem mem_subscriptionsFor {m : SubscriptionMapper} {id : UUID} {s : Subscription} :
    s ∈ m.subscriptionsFor id ↔ s ∈ m.subscriptions ∧ s.dispatcherID = id := by
  simp [subscriptionsFor_eq]

/-- Modelled from the spec: `NewSubscriptionMapper()`, with no subscription. -/
def new : SubscriptionMapper where
  byDispatcher := ∅
  all := []
  coherent _ := rfl
  nodup := List.nodup_nil

@[simp] theorem subscriptions_new : new.subscriptions = [] := rfl

/-! ## Appending one subscription -/

theorem coherent_append (m : SubscriptionMapper) (s : Subscription) (id : UUID) :
    ((m.byDispatcher.insert s.dispatcherID (m.subscriptionsFor s.dispatcherID ++ [s])).lookup
        id).getD [] = (m.all ++ [s]).filter (·.dispatcherID = id) := by
  by_cases h : id = s.dispatcherID
  · subst h
    simp [AList.lookup_insert, subscriptionsFor_eq, subscriptions, List.filter_append]
  · rw [AList.lookup_insert_ne h, List.filter_append, ← m.coherent id]
    simp [Ne.symm h]

theorem nodup_append (m : SubscriptionMapper) {s : Subscription}
    (h : s ∉ m.subscriptionsFor s.dispatcherID) : (m.all ++ [s]).Nodup := by
  rw [mem_subscriptionsFor] at h
  exact List.nodup_append.2 ⟨m.nodup, List.nodup_singleton s,
    List.disjoint_singleton.2 fun hs => h ⟨hs, rfl⟩⟩

/-- Modelled from the spec: add `s` under its dispatcher, unless that dispatcher already holds
an equal subscription. -/
def appendSubscription (m : SubscriptionMapper) (s : Subscription) : SubscriptionMapper :=
  if h : s ∈ m.subscriptionsFor s.dispatcherID then m
  else
    { byDispatcher := m.byDispatcher.insert s.dispatcherID (m.subscriptionsFor s.dispatcherID ++ [s])
      all := m.all ++ [s]
      coherent := coherent_append m s
      nodup := nodup_append m h }

theorem mem_subscriptions_appendSubscription {m : SubscriptionMapper} {s x : Subscription} :
    x ∈ (m.appendSubscription s).subscriptions ↔ x ∈ m.subscriptions ∨ x = s := by
  unfold appendSubscription
  split
  · rename_i h
    rw [mem_subscriptionsFor] at h
    constructor
    · exact Or.inl
    · rintro (hx | rfl)
      exacts [hx, h.1]
  · simp [subscriptions]

/-- Modelled from the spec: `MatchSubscribeEvent(event)`, each entry appended as a subscription
owned by `event.dispatcherID`, in order. -/
def matchSubscribeEvent (m : SubscriptionMapper) (event : SubscribeEvent) : SubscriptionMapper :=
  event.subscriptionEntries.foldl (fun m entry => m.appendSubscription ⟨event.dispatcherID, entry⟩) m

theorem mem_subscriptions_foldl_append (id : UUID) (entries : List SubscriptionEntry)
    (m : SubscriptionMapper) (x : Subscription) :
    x ∈ (entries.foldl (fun m entry => m.appendSubscription ⟨id, entry⟩) m).subscriptions ↔
      x ∈ m.subscriptions ∨ (x.dispatcherID = id ∧ x.entry ∈ entries) := by
  induction entries generalizing m with
  | nil => simp
  | cons e es ih =>
      rw [List.foldl_cons, ih, mem_subscriptions_appendSubscription]
      cases x
      simp only [Subscription.mk.injEq, List.mem_cons]
      tauto

theorem mem_subscriptions_matchSubscribeEvent {m : SubscriptionMapper} {event : SubscribeEvent}
    {x : Subscription} :
    x ∈ (m.matchSubscribeEvent event).subscriptions ↔
      x ∈ m.subscriptions ∨
        (x.dispatcherID = event.dispatcherID ∧ x.entry ∈ event.subscriptionEntries) :=
  mem_subscriptions_foldl_append _ _ _ _

/-! ## Removing a dispatcher's subscriptions -/

theorem coherent_erase (m : SubscriptionMapper) (id id' : UUID) :
    ((m.byDispatcher.erase id).lookup id').getD [] =
      (m.all.filter (·.dispatcherID ≠ id)).filter (·.dispatcherID = id') := by
  rw [List.filter_filter]
  by_cases h : id' = id
  · subst h
    simp [AList.lookup_erase]
  · rw [AList.lookup_erase_ne h, m.coherent id']
    congr 1
    funext s
    by_cases hs : s.dispatcherID = id' <;> simp [hs, h]

/-- Modelled from the spec: `RemoveSubscriptions(id)`, every subscription of `id` deleted from
both indices. -/
def removeSubscriptions (m : SubscriptionMapper) (id : UUID) : SubscriptionMapper where
  byDispatcher := m.byDispatcher.erase id
  all := m.all.filter (·.dispatcherID ≠ id)
  coherent := coherent_erase m id
  nodup := m.nodup.filter _

theorem mem_subscriptions_removeSubscriptions {m : SubscriptionMapper} {id : UUID}
    {x : Subscription} :
    x ∈ (m.removeSubscriptions id).subscriptions ↔ x ∈ m.subscriptions ∧ x.dispatcherID ≠ id := by
  simp [removeSubscriptions, subscriptions]

end SubscriptionMapper

end EventNotifier
