import EventNotifier.Hub.Broadcast

/-!
# Runs of the serializing loop

The hub's state changes in two ways: the loop's `select` takes a message and calls its handler,
and a dispatcher calls `Subscribe`, which goes to the mapper directly. Whatever the goroutines
do, these changes happen one at a time (`Hub/Goroutines` shows that every interleaving is such
a sequence), so a run of the hub is a list of `HubOp` folded over `NewCommonHub`.

The registry's history is read off that list in the words of the spec: `lastRegistryOp k ops`
is the most recent register or unregister message carrying identifier `k`, and
`registeredSinceUnregister k ops` the dispatchers registered for `k` since the last unregister
for `k`. `registry_invariants` proves that every reachable registry is keyed by identifiers,
holds `k` exactly when the last such message was a register, stores the first dispatcher
registered since then, ignores re-registration, changes one entry per message, and that no
broadcast pushes to a dispatcher whose identifier was unregistered after its last register.
`subscriptions_characterization` proves that the mapper holds exactly the subscriptions
made by `Subscribe` since the last unregister of their identifier.
-/

set_option autoImplicit false

namespace EventNotifier

/-- One change to the hub's state: a message the loop took, or a `Subscribe` call. -/
inductive HubOp where
  | handle (m : Inbound)
  | subscribe (event : SubscribeEvent)
  deriving DecidableEq, Repr

namespace CommonHub

/-- The change one operation makes. -/
def apply (wh : CommonHub) : HubOp → CommonHub
  | .handle m => wh.handle m
  | .subscribe e => wh.subscribe e

/-- The hub after the operations `ops`, oldest first. -/
def applyAll (wh : CommonHub) (ops : List HubOp) : CommonHub := ops.foldl apply wh

@[simp] theorem applyAll_nil (wh : CommonHub) : wh.applyAll [] = wh := rfl

@[simp] theorem applyAll_append_singleton (wh : CommonHub) (ops : List HubOp) (op : HubOp) :
    wh.applyAll (ops ++ [op]) = (wh.applyAll ops).apply op := List.foldl_append _ _ _ _

theorem applyAll_append (wh : CommonHub) (ops ops' : List HubOp) :
    wh.applyAll (ops ++ ops') = (wh.applyAll ops).applyAll ops' := List.foldl_append _ _ _ _

theorem wellKeyed_apply {wh : CommonHub} (h : WellKeyed wh.dispatchers) :
    ∀ op, WellKeyed (wh.apply op).dispatchers
  | .handle m => wellKeyed_handle h m
  | .subscribe _ => h

theorem wellKeyed_applyAll {wh : CommonHub} (h : WellKeyed wh.dispatchers) (ops : List HubOp) :
    WellKeyed (wh.applyAll ops).dispatchers := by
  induction ops using List.reverseRecOn with
  | nil => exact h
  | append_singleton ops op ih => simpa using wellKeyed_apply ih op

@[simp] theorem filter_applyAll (wh : CommonHub) (ops : List HubOp) :
    (wh.applyAll ops).filter = wh.filter := by
  induction ops using List.reverseRecOn with
  | nil => rfl
  | append_singleton ops op ih => cases op <;> simp [apply, ih]

end CommonHub

/-! ## The registry's history -/

/-- The dispatcher a register message carries. -/
def Inbound.registered? : Inbound → Option EventDispatcher
  | .register d => some d
  | _ => none

/-- The register or unregister message an operation is, if its dispatcher answers `k`. -/
def HubOp.registryOpFor (k : UUID) : HubOp → Option Inbound
  | .handle (.register d) => if d.getID = k then some (.register d) else none
  | .handle (.unregister d) => if d.getID = k then some (.unregister d) else none
  | _ => none

/-- The register and unregister messages among `ops` that carry a dispatcher answering `k`,
oldest first. -/
def registryOpsFor (k : UUID) (ops : List HubOp) : List Inbound :=
  ops.filterMap (HubOp.registryOpFor k)

/-- The most recent register or unregister message carrying identifier `k`. -/
def lastRegistryOp (k : UUID) (ops : List HubOp) : Option Inbound :=
  (registryOpsFor k ops).getLast?

/-- The dispatchers registered for `k` since the last unregister for `k`, oldest first. -/
def registeredSinceUnregister (k : UUID) (ops : List HubOp) : List EventDispatcher :=
  ((registryOpsFor k ops).reverse.takeWhile fun m => m.registered?.isSome).reverse.filterMap
    Inbound.registered?

theorem registeredSinceUnregister_append_singleton (k : UUID) (ops : List HubOp) (op : HubOp) :
    registeredSinceUnregister k (ops ++ [op]) =
      match op.registryOpFor k with
      | some (.register d) => registeredSinceUnregister k ops ++ [d]
      | some _ => []
      | none => registeredSinceUnregister k ops := by
  simp only [registeredSinceUnregister, registryOpsFor, List.filterMap_append,
    List.filterMap_cons, List.filterMap_nil]
  rcases h : op.registryOpFor k with _ | ⟨_ | _ | _ | d | d⟩ <;>
    simp [Inbound.registered?]

theorem registeredSinceUnregister_ne_nil_iff (k : UUID) (ops : List HubOp) :
    registeredSinceUnregister k ops ≠ [] ↔ ∃ d, lastRegistryOp k ops = some (.register d) := by
  rw [lastRegistryOp, registeredSinceUnregister, List.getLast?_eq_head?_reverse]
  generalize (registryOpsFor k ops).reverse = l
  rcases l with _ | ⟨_ | _ | _ | d | d, l⟩ <;> simp [Inbound.registered?]

/-! ## The registry invariant -/

section Registry

variable (filter : EventFilter)

/-- Every reachable registry stores, under each identifier, the first dispatcher registered
for it since its last unregister. -/
theorem lookup_applyAll (ops : List HubOp) (k : UUID) :
    ((newCommonHub filter).applyAll ops).dispatchers.lookup k =
      (registeredSinceUnregister k ops).head? := by
  induction ops using List.reverseRecOn with
  | nil => simp [newCommonHub, registeredSinceUnregister, registryOpsFor, AList.lookup_empty]
  | append_singleton ops op ih =>
      rw [CommonHub.applyAll_append_singleton, registeredSinceUnregister_append_singleton]
      rcases op with (_ | _ | _ | d | d) | e
      · exact ih
      · exact ih
      · exact ih
      · by_cases hk : d.getID = k
        · subst hk
          simp only [CommonHub.apply, CommonHub.handle, HubOp.registryOpFor, if_true,
            CommonHub.lookup_registerDispatcher, true_and, ← AList.lookup_eq_none, ih]
          cases registeredSinceUnregister d.getID ops <;> simp
        · simp [CommonHub.apply, CommonHub.handle, HubOp.registryOpFor, hk,
            CommonHub.lookup_registerDispatcher, Ne.symm hk, ih]
      · by_cases hk : d.getID = k
        · subst hk
          simp [CommonHub.apply, CommonHub.handle, HubOp.registryOpFor,
            CommonHub.lookup_unregisterDispatcher]
        · simp [CommonHub.apply, CommonHub.handle, HubOp.registryOpFor, hk,
            CommonHub.lookup_unregisterDispatcher, Ne.symm hk, ih]
      · exact ih

/-- In every state a run of the loop reaches from `NewCommonHub`: each key maps to a dispatcher
answering it; `k` is a key exactly when the last register or unregister message for `k` was a
register; the dispatcher stored under `k` is the first one registered for `k` since its last
unregister; re-registering a key changes nothing; handling `register(d)` or `unregister(d)`
changes no entry but `d.GetID()`'s; and a broadcast pushes only to dispatchers whose last
register or unregister message was a register. -/
theorem registry_invariants (ops : List HubOp) :
    let wh := (newCommonHub filter).applyAll ops
    WellKeyed wh.dispatchers ∧
      (∀ k, k ∈ wh.dispatchers ↔ ∃ d, lastRegistryOp k ops = some (.register d)) ∧
      (∀ k, wh.dispatchers.lookup k = (registeredSinceUnregister k ops).head?) ∧
      (∀ d, d.getID ∈ wh.dispatchers → wh.handle (.register d) = wh) ∧
      (∀ d k, k ≠ d.getID →
        (wh.handle (.register d)).dispatchers.lookup k = wh.dispatchers.lookup k ∧
          (wh.handle (.unregister d)).dispatchers.lookup k = wh.dispatchers.lookup k) ∧
      (∀ b rangeOrder, ∀ p ∈ wh.handleBroadcast b rangeOrder,
        ∃ d, lastRegistryOp p.1.getID ops = some (.register d)) := by
  intro wh
  have hkeyed : WellKeyed wh.dispatchers := CommonHub.wellKeyed_applyAll wellKeyed_empty ops
  have hmem : ∀ k, k ∈ wh.dispatchers ↔ ∃ d, lastRegistryOp k ops = some (.register d) := by
    intro k
    rw [← registeredSinceUnregister_ne_nil_iff, ← AList.lookup_isSome, lookup_applyAll]
    cases registeredSinceUnregister k ops <;> simp
  refine ⟨hkeyed, hmem, lookup_applyAll filter ops, CommonHub.registerDispatcher_of_mem wh,
    fun d k hk => ?_, fun b rangeOrder p hp => ?_⟩
  · simp [CommonHub.handle, CommonHub.lookup_registerDispatcher, CommonHub.lookup_unregisterDispatcher,
      hk]
  · obtain ⟨k, hk⟩ := registered_of_mem_pushToDispatchers hp
    rw [← hmem, hkeyed k _ hk]
    exact AList.lookup_isSome.1 (by simp [hk])

end Registry

/-! ## The mapper's history -/

/-- The operation is an unregister message carrying identifier `k`. -/
def HubOp.isUnregisterOf (k : UUID) : HubOp → Bool
  | .handle (.unregister d) => d.getID = k
  | _ => false

/-- The subscriptions a `Subscribe` call makes for identifier `k`. -/
def HubOp.subscribedFor (k : UUID) : HubOp → List Subscription
  | .subscribe e => if e.dispatcherID = k then e.subscriptionEntries.map (⟨k, ·⟩) else []
  | _ => []

/-- The operations after the last unregister message carrying identifier `k`. -/
def sinceLastUnregister (k : UUID) (ops : List HubOp) : List HubOp :=
  (ops.reverse.takeWhile fun op => !op.isUnregisterOf k).reverse

/-- The subscriptions `Subscribe` made for `k` since the last unregister of `k`. -/
def subscribedSinceUnregister (k : UUID) (ops : List HubOp) : List Subscription :=
  (sinceLastUnregister k ops).flatMap (HubOp.subscribedFor k)

theorem sinceLastUnregister_append_singleton (k : UUID) (ops : List HubOp) (op : HubOp) :
    sinceLastUnregister k (ops ++ [op]) =
      if op.isUnregisterOf k then [] else sinceLastUnregister k ops ++ [op] := by
  unfold sinceLastUnregister
  cases h : op.isUnregisterOf k <;> simp [h]

theorem subscribedSinceUnregister_append_singleton (k : UUID) (ops : List HubOp) (op : HubOp) :
    subscribedSinceUnregister k (ops ++ [op]) =
      if op.isUnregisterOf k then [] else subscribedSinceUnregister k ops ++ op.subscribedFor k := by
  rw [subscribedSinceUnregister, sinceLastUnregister_append_singleton]
  split <;> simp [subscribedSinceUnregister]

@[simp] theorem subscribedFor_handle (k : UUID) (m : Inbound) :
    (HubOp.handle m).subscribedFor k = [] := rfl

theorem mem_subscribedFor_subscribe {k : UUID} {e : SubscribeEvent} {s : Subscription} :
    s ∈ (HubOp.subscribe e).subscribedFor k ↔
      e.dispatcherID = k ∧ s.dispatcherID = k ∧ s.entry ∈ e.subscriptionEntries := by
  by_cases hk : e.dispatcherID = k
  · obtain ⟨id, entry⟩ := s
    simp only [HubOp.subscribedFor, hk, if_true, List.mem_map, Subscription.mk.injEq, true_and]
    constructor
    · rintro ⟨a, h, rfl, rfl⟩
      exact ⟨rfl, h⟩
    · rintro ⟨rfl, h⟩
      exact ⟨entry, h, rfl, rfl⟩
  · simp [HubOp.subscribedFor, hk]

/-- The mapper holds exactly the subscriptions `Subscribe` made since the last unregister of
their identifier. -/
theorem subscriptions_characterization (filter : EventFilter) (ops : List HubOp)
    (s : Subscription) :
    s ∈ ((newCommonHub filter).applyAll ops).subscriptionMapper.subscriptions ↔
      s ∈ subscribedSinceUnregister s.dispatcherID ops := by
  induction ops using List.reverseRecOn with
  | nil => simp [newCommonHub, subscribedSinceUnregister, sinceLastUnregister]
  | append_singleton ops op ih =>
      rw [CommonHub.applyAll_append_singleton, subscribedSinceUnregister_append_singleton]
      rcases op with (_ | _ | _ | _ | d) | e
      -- broadcasts and registers leave the mapper as it was
      iterate 4 simpa [CommonHub.apply, CommonHub.handle, HubOp.isUnregisterOf] using ih
      · by_cases hk : d.getID = s.dispatcherID
        · simp [CommonHub.apply, CommonHub.handle, HubOp.isUnregisterOf, hk,
            SubscriptionMapper.mem_subscriptions_removeSubscriptions]
        · simpa [CommonHub.apply, CommonHub.handle, HubOp.isUnregisterOf, HubOp.subscribedFor, hk,
            SubscriptionMapper.mem_subscriptions_removeSubscriptions, Ne.symm hk] using ih
      · simp only [CommonHub.apply, CommonHub.subscribe_subscriptionMapper,
          SubscriptionMapper.mem_subscriptions_matchSubscribeEvent, ih, HubOp.isUnregisterOf,
          Bool.false_eq_true, if_false, List.mem_append, mem_subscribedFor_subscribe]
        simp [eq_comm]

end EventNotifier
