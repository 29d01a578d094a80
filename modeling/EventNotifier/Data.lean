import Mathlib.Data.List.AList

/-!
# Data model of the event notifier

The values that flow through the notifier's hub: the events of a block as the upstream node
sends them, the revert and finalized signals, the subscription records the subscription
mapper holds, and the dispatchers that stand for live subscriber sockets. The records follow
the `data` and `dispatcher` packages the hub imports (their sources are not part of this
development; the fields are those the spec's data model lists).

Go maps are modelled by `AList`, a finite map with one entry per key: `m[k] = v` is
`AList.insert`, `delete(m, k)` is `AList.erase`, `v, ok := m[k]` is `AList.lookup`, and
`len(m)` is the number of entries. A `range` over a Go map visits every key once, in an
order the runtime chooses; the modules that iterate a map take that order as an argument.
-/

set_option autoImplicit false

namespace EventNotifier

/-- A Go map from `K` to `V`. -/
abbrev GoMap (K V : Type) := AList fun _ : K => V

/-- `m[k] = v` read back: `k` gives `v`, every other key what it gave before. -/
theorem lookup_insert_ite {K V : Type} [DecidableEq K] (m : GoMap K V) (k t : K) (v : V) :
    (m.insert k v).lookup t = if t = k then some v else m.lookup t := by
  split
  · subst t
    exact AList.lookup_insert m
  · exact AList.lookup_insert_ne ‹_›

/-- A Go `error` value: one of the sentinel errors of the `process`, `rabbitmq` and `common`
packages (compared by identity, as the code does), or an error made elsewhere. -/
inductive GoError where
  | errNilMarshaller
  | errNilDataProcessor
  | errInvalidPayloadType
  | errInvalidPayloadVersion
  | errNilRabbitMqClient
  | errInvalidAPIType
  | other (text : String)
  deriving DecidableEq, Repr

/-- The `errors.New` text of the errors the `process` package declares. -/
def GoError.declaredText : GoError → Option String
  | .errNilDataProcessor => some "nil data processor"
  | .errInvalidPayloadType => some "invalid payload type"
  | .errInvalidPayloadVersion => some "invalid payload version"
  | _ => none

/-- A Go `[]byte`. -/
abbrev Bytes := List UInt8

/-- A `uuid.UUID`: sixteen bytes. -/
structure UUID where
  bytes : BitVec 128
  deriving DecidableEq, Repr

/-- One on-chain event (`data.Event`). -/
structure Event where
  address : String
  identifier : String
  topics : List Bytes
  data : Bytes
  txHash : String
  deriving DecidableEq, Repr

/-- The events of one block (`data.BlockEvents`), in the order the node observed them. -/
structure BlockEvents where
  hash : String
  shardID : UInt32
  timeStamp : UInt64
  events : List Event
  deriving DecidableEq, Repr

/-- A block that is no longer canonical (`data.RevertBlock`). -/
structure RevertBlock where
  hash : String
  nonce : UInt64
  round : UInt64
  epoch : UInt32
  deriving DecidableEq, Repr

/-- A block that is irreversibly committed (`data.FinalizedBlock`). -/
structure FinalizedBlock where
  hash : String
  deriving DecidableEq, Repr

/-- The stream a subscription entry asks for. -/
inductive EventType where
  | all
  | blockEvents
  | revertEvents
  | finalizedEvents
  deriving DecidableEq, Repr

/-- One filter a subscriber sends when it attaches; an absent field is a wildcard. -/
structure SubscriptionEntry where
  address : Option String
  identifier : Option String
  topics : List String
  eventType : EventType
  deriving DecidableEq, Repr

/-- A subscription as the mapper stores it (`data.Subscription`): an entry and the
dispatcher that owns it. -/
structure Subscription where
  dispatcherID : UUID
  entry : SubscriptionEntry
  deriving DecidableEq, Repr

/-- The message a dispatcher hands to `Subscribe` (`dispatcher.SubscribeEvent`). -/
structure SubscribeEvent where
  dispatcherID : UUID
  subscriptionEntries : List SubscriptionEntry
  deriving DecidableEq, Repr

/-- A `dispatcher.EventDispatcher` as the hub sees it: the identifier its `GetID()` answers,
and the object behind the interface value. Two distinct dispatcher objects may answer the
same identifier. -/
structure EventDispatcher where
  getID : UUID
  handle : Nat
  deriving DecidableEq, Repr

/-- An event filter (`filters.EventFilter`), a pure predicate on a subscription and an
event. -/
structure EventFilter where
  matchEvent : Subscription → Event → Bool

end EventNotifier
