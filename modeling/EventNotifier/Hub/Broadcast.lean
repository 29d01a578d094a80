import EventNotifier.Hub.CommonHub

/-!
# What a broadcast delivers

`handleBroadcast` builds `dispatchersMap` by appending each matched event under the identifier
of the matching subscription, then pushes every group to the registered dispatcher of its
identifier. This module states what that delivers in the words of the spec and proves that
the code computes it:

- `matchedEvents filter subscriptions events k` is the list a dispatcher with identifier `k`
  should receive: each event of the batch, in order, once per subscription of `k` in the
  snapshot that matches it;
- `lookup_dispatchersMap`: the two nested loops leave exactly `matchedEvents ... k` under every
  identifier `k` with a nonempty list, and no key otherwise;
- `handleBroadcastWith_pushes`: for every order in which `range` visits `dispatchersMap`, the
  pushes are, up to order, one call per registry entry whose identifier has matched events,
  with exactly those events, and no dispatcher is pushed to twice.

The snapshot is any list of subscriptions and the filter any predicate, so the result holds
for whatever the mapper returns and in whatever order.
-/

set_option autoImplicit false

namespace EventNotifier

/-- How many subscriptions of `k` in the snapshot match `e`. -/
def matchCount (filter : EventFilter) (subscriptions : List Subscription) (k : UUID)
    (e : Event) : Nat :=
  subscriptions.countP fun s => s.dispatcherID = k ∧ filter.matchEvent s e

/-- The events a dispatcher with identifier `k` is owed: each event of the batch, in its
original order, repeated once per subscription of `k` that matches it. -/
def matchedEvents (filter : EventFilter) (subscriptions : List Subscription)
    (events : List Event) (k : UUID) : List Event :=
  events.flatMap fun e => List.replicate (matchCount filter subscriptions k e) e

/-- The `PushEvents` calls a broadcast is owed: one for each registered identifier `k` with
matched events, to `dispatchers[k]`, carrying them. -/
def expectedPushes (filter : EventFilter) (subscriptions : List Subscription)
    (dispatchers : GoMap UUID EventDispatcher) (events : List Event) : List Push :=
  dispatchers.keys.filterMap fun k => (dispatchers.lookup k).bind fun d =>
    if matchedEvents filter subscriptions events k = [] then none
    else some (d, matchedEvents filter subscriptions events k)

/-! ## The map the nested loops build -/

/-- A map entry after appending `l`: unchanged when `l` is empty, otherwise the old list (or
the empty slice) followed by `l`. -/
def extendEntry (o : Option (List Event)) (l : List Event) : Option (List Event) :=
  if l = [] then o else some (o.getD [] ++ l)

@[simp] theorem extendEntry_nil (o : Option (List Event)) : extendEntry o [] = o := rfl

theorem extendEntry_append (o : Option (List Event)) (l₁ l₂ : List Event) :
    extendEntry (extendEntry o l₁) l₂ = extendEntry o (l₁ ++ l₂) := by
  unfold extendEntry
  by_cases h₁ : l₁ = [] <;> by_cases h₂ : l₂ = [] <;> simp [h₁, h₂]

theorem lookup_mapEventToDispatcher (m : GoMap UUID (List Event)) (id k : UUID) (e : Event) :
    (mapEventToDispatcher m id e).lookup k =
      if k = id then extendEntry (m.lookup k) [e] else m.lookup k := by
  rw [mapEventToDispatcher, lookup_insert_ite]
  split
  · subst k
    rfl
  · rfl

theorem lookup_mapEventToSubscriptions (filter : EventFilter) (subscriptions : List Subscription)
    (m : GoMap UUID (List Event)) (e : Event) (k : UUID) :
    (mapEventToSubscriptions filter subscriptions m e).lookup k =
      extendEntry (m.lookup k) (List.replicate (matchCount filter subscriptions k e) e) := by
  induction subscriptions generalizing m with
  | nil => rfl
  | cons s ss ih =>
      simp only [mapEventToSubscriptions, List.foldl_cons, matchCount, List.countP_cons] at ih ⊢
      rw [ih]
      by_cases hm : filter.matchEvent s e = true
      · by_cases hk : s.dispatcherID = k
        · simp [hm, hk, lookup_mapEventToDispatcher, extendEntry_append, List.replicate_succ]
        · simp [hm, hk, lookup_mapEventToDispatcher, Ne.symm hk]
      · simp [hm]

theorem lookup_foldl_mapEventToSubscriptions (filter : EventFilter)
    (subscriptions : List Subscription) (events : List Event) (m : GoMap UUID (List Event))
    (k : UUID) :
    (events.foldl (mapEventToSubscriptions filter subscriptions) m).lookup k =
      extendEntry (m.lookup k) (matchedEvents filter subscriptions events k) := by
  induction events generalizing m with
  | nil => rfl
  | cons e es ih =>
      rw [List.foldl_cons, ih, lookup_mapEventToSubscriptions, extendEntry_append]
      rfl

/-- The nested loops leave `matchedEvents` under every identifier that has some, and no key
for the others. -/
theorem lookup_dispatchersMap (filter : EventFilter) (subscriptions : List Subscription)
    (events : List Event) (k : UUID) :
    (dispatchersMap filter subscriptions events).lookup k =
      if matchedEvents filter subscriptions events k = [] then none
      else some (matchedEvents filter subscriptions events k) := by
  rw [dispatchersMap, lookup_foldl_mapEventToSubscriptions]
  simp [extendEntry, AList.lookup_empty]

/-! ## The pushes -/

theorem mem_pushToDispatchers {dispatchers : GoMap UUID EventDispatcher}
    {dm : GoMap UUID (List Event)} {rangeOrder : List UUID} {p : Push} :
    p ∈ pushToDispatchers dispatchers dm rangeOrder ↔
      ∃ id ∈ rangeOrder, dm.lookup id = some p.2 ∧ dispatchers.lookup id = some p.1 := by
  obtain ⟨d, L⟩ := p
  simp only [pushToDispatchers, List.mem_filterMap]
  constructor
  · rintro ⟨id, hid, h⟩
    refine ⟨id, hid, ?_⟩
    cases hL : dm.lookup id <;> cases hd : dispatchers.lookup id <;> simp_all
  · rintro ⟨id, hid, hL, hd⟩
    exact ⟨id, hid, by simp [hL, hd]⟩

/-- Every push goes to a dispatcher that is in the registry. -/
theorem registered_of_mem_pushToDispatchers {dispatchers : GoMap UUID EventDispatcher}
    {dm : GoMap UUID (List Event)} {rangeOrder : List UUID} {p : Push}
    (h : p ∈ pushToDispatchers dispatchers dm rangeOrder) :
    ∃ k, dispatchers.lookup k = some p.1 := by
  obtain ⟨k, -, -, hk⟩ := mem_pushToDispatchers.1 h
  exact ⟨k, hk⟩

/-- A list of calls drawn from distinct identifiers, each pushing to a dispatcher that answers
its identifier, pushes to no dispatcher twice. -/
theorem nodup_map_fst_filterMap {l : List UUID} (hl : l.Nodup) {f : UUID → Option Push}
    (hf : ∀ k p, f k = some p → p.1.getID = k) : ((l.filterMap f).map Prod.fst).Nodup := by
  rw [List.map_filterMap]
  refine hl.filterMap fun a a' d ha ha' => ?_
  have key : ∀ {a}, d ∈ (f a).map Prod.fst → d.getID = a := by
    intro a h
    obtain ⟨p, hp, rfl⟩ := Option.mem_map.1 h
    exact hf a p hp
  rw [← key ha, key ha']

section Pushes

variable (filter : EventFilter) (subscriptions : List Subscription)
  (dispatchers : GoMap UUID EventDispatcher) (blockEvents : BlockEvents)

theorem mem_expectedPushes {p : Push} :
    p ∈ expectedPushes filter subscriptions dispatchers blockEvents.events ↔
      ∃ k, dispatchers.lookup k = some p.1 ∧
        matchedEvents filter subscriptions blockEvents.events k ≠ [] ∧
        p.2 = matchedEvents filter subscriptions blockEvents.events k := by
  obtain ⟨d, L⟩ := p
  simp only [expectedPushes, List.mem_filterMap, ← AList.mem_keys]
  constructor
  · rintro ⟨k, -, h⟩
    cases hd : dispatchers.lookup k <;> simp only [hd, Option.none_bind, Option.some_bind] at h
    · cases h
    · split at h
      · cases h
      · cases h
        exact ⟨k, hd, ‹_›, rfl⟩
  · rintro ⟨k, hd, hne, rfl⟩
    exact ⟨k, AList.lookup_isSome.1 (by simp [hd]), by simp [hd, hne]⟩

theorem mem_handleBroadcastWith {rangeOrder : List UUID}
    (hrange : rangeOrder.Perm (dispatchersMap filter subscriptions blockEvents.events).keys)
    {p : Push} :
    p ∈ handleBroadcastWith filter subscriptions dispatchers blockEvents rangeOrder ↔
      p ∈ expectedPushes filter subscriptions dispatchers blockEvents.events := by
  rw [handleBroadcastWith, mem_pushToDispatchers, mem_expectedPushes]
  simp only [hrange.mem_iff, ← AList.mem_keys, ← AList.lookup_isSome, lookup_dispatchersMap]
  constructor
  · rintro ⟨k, -, hL, hd⟩
    split at hL
    · cases hL
    · exact ⟨k, hd, ‹_›, (Option.some.inj hL).symm⟩
  · rintro ⟨k, hd, hne, hL⟩
    exact ⟨k, by simp [hne], by simp [hne, hL], hd⟩

variable {dispatchers}

theorem nodup_map_fst_pushToDispatchers (hreg : WellKeyed dispatchers)
    (dm : GoMap UUID (List Event)) {rangeOrder : List UUID} (hnodup : rangeOrder.Nodup) :
    ((pushToDispatchers dispatchers dm rangeOrder).map Prod.fst).Nodup := by
  refine nodup_map_fst_filterMap hnodup fun k p h => ?_
  cases hL : dm.lookup k <;> cases hd : dispatchers.lookup k <;> simp_all
  exact h ▸ hreg k _ hd

theorem nodup_map_fst_expectedPushes (hreg : WellKeyed dispatchers) :
    ((expectedPushes filter subscriptions dispatchers blockEvents.events).map Prod.fst).Nodup := by
  refine nodup_map_fst_filterMap dispatchers.keys_nodup fun k p h => ?_
  cases hd : dispatchers.lookup k <;> simp only [hd, Option.none_bind, Option.some_bind] at h
  · cases h
  · split at h
    · cases h
    · cases h
      exact hreg k _ hd

theorem nodup_map_fst_handleBroadcastWith (hreg : WellKeyed dispatchers) {rangeOrder : List UUID}
    (hrange : rangeOrder.Perm (dispatchersMap filter subscriptions blockEvents.events).keys) :
    ((handleBroadcastWith filter subscriptions dispatchers blockEvents rangeOrder).map
      Prod.fst).Nodup :=
  nodup_map_fst_pushToDispatchers hreg _ (hrange.nodup_iff.2 (AList.keys_nodup _))

/-- Both lists push to distinct dispatchers and have the same members. -/
theorem handleBroadcastWith_perm (hreg : WellKeyed dispatchers) {rangeOrder : List UUID}
    (hrange : rangeOrder.Perm (dispatchersMap filter subscriptions blockEvents.events).keys) :
    (handleBroadcastWith filter subscriptions dispatchers blockEvents rangeOrder).Perm
      (expectedPushes filter subscriptions dispatchers blockEvents.events) :=
  (List.perm_ext_iff_of_nodup
    ((nodup_map_fst_handleBroadcastWith filter subscriptions blockEvents hreg hrange).of_map _)
    ((nodup_map_fst_expectedPushes filter subscriptions blockEvents hreg).of_map _)).2
    fun _ => mem_handleBroadcastWith filter subscriptions dispatchers blockEvents hrange

/-- For every registry whose keys answer their dispatchers' identifiers, every snapshot, filter
and batch, and every order in which `range` visits `dispatchersMap`: `handleBroadcast` makes,
up to order, one `PushEvents` call per registered identifier with matched events, to that
identifier's dispatcher and carrying exactly its matched events; it calls no dispatcher twice;
and any two visiting orders make the same calls. -/
theorem handleBroadcastWith_pushes (hreg : WellKeyed dispatchers) {rangeOrder : List UUID}
    (hrange : rangeOrder.Perm (dispatchersMap filter subscriptions blockEvents.events).keys) :
    (handleBroadcastWith filter subscriptions dispatchers blockEvents rangeOrder).Perm
        (expectedPushes filter subscriptions dispatchers blockEvents.events) ∧
      ((handleBroadcastWith filter subscriptions dispatchers blockEvents rangeOrder).map
        Prod.fst).Nodup ∧
      ∀ rangeOrder', rangeOrder'.Perm (dispatchersMap filter subscriptions blockEvents.events).keys →
        (handleBroadcastWith filter subscriptions dispatchers blockEvents rangeOrder').Perm
          (handleBroadcastWith filter subscriptions dispatchers blockEvents rangeOrder) :=
  ⟨handleBroadcastWith_perm filter subscriptions blockEvents hreg hrange,
    nodup_map_fst_handleBroadcastWith filter subscriptions blockEvents hreg hrange,
    fun _ hr => (handleBroadcastWith_perm filter subscriptions blockEvents hreg hr).trans
      (handleBroadcastWith_perm filter subscriptions blockEvents hreg hrange).symm⟩

end Pushes

/-- One subscriber with two subscriptions that both match the only event of a batch: it is
pushed that event twice, in one call. -/
theorem handleBroadcastWith_pushes_twoSubscriptions :
    let u : UUID := ⟨7⟩
    let d : EventDispatcher := ⟨u, 0⟩
    let entry : SubscriptionEntry := ⟨none, none, [], .all⟩
    let e : Event := ⟨"erd1x", "transfer", [], [], "0xtx"⟩
    let b : BlockEvents := ⟨"0xaa", 0, 0, [e]⟩
    let subs := [⟨u, entry⟩, ⟨u, { entry with eventType := .blockEvents }⟩]
    let reg : GoMap UUID EventDispatcher := (∅ : GoMap UUID EventDispatcher).insert u d
    WellKeyed reg ∧ [u].Perm (dispatchersMap ⟨fun _ _ => true⟩ subs b.events).keys ∧
      (handleBroadcastWith ⟨fun _ _ => true⟩ subs reg b [u]).Perm
        (expectedPushes ⟨fun _ _ => true⟩ subs reg b.events) ∧
      handleBroadcastWith ⟨fun _ _ => true⟩ subs reg b [u] = [(d, [e, e])] := by
  intro u d entry e b subs reg
  have hreg : WellKeyed reg := by
    intro k d' h
    rw [lookup_insert_ite, AList.lookup_empty] at h
    split at h
    · cases h
      exact ‹k = u›.symm
    · cases h
  have hrange : [u].Perm (dispatchersMap ⟨fun _ _ => true⟩ subs b.events).keys := by
    decide
  exact ⟨hreg, hrange, (handleBroadcastWith_pushes _ _ _ hreg hrange).1, by decide⟩

end EventNotifier
