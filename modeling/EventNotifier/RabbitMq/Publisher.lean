import EventNotifier.Data

/-!
# The RabbitMQ publisher

`rabbitMqPublisher` (`rabbitmq/publisher.go`) is the other egress of the notifier: its `Run`
loop receives block events, revert blocks and finalized blocks on three channels and publishes
each to the exchange configured for its stream. `publishToExchanges`,
`publishRevertToExchange` and `publishFinalizedToExchange` share one body (`publishTo`): an
empty exchange name disables the stream, a value `json.Marshal` rejects is dropped, and
otherwise `publishFanout` calls the client's `Publish` with an empty routing key, `mandatory`
set and `immediate` cleared. The result of `Publish` is only logged.

The loop keeps no state, so what it does with the messages it received is the list of
`Publish` calls they cause (`run`). `run_eq` says it in the words of the spec, whose call for
each message (`expectedPublish`) is written out field by field: one call per received message
whose stream is enabled and whose encoding succeeds, in order, to that stream's exchange, with
the encoding as body, an empty routing key, `mandatory` set and `immediate` cleared.
-/

set_option autoImplicit false

namespace EventNotifier.RabbitMq

/-- `config.RabbitMQConfig`: the broker's URL and the exchange of each stream. -/
structure RabbitMQConfig where
  url : String
  eventsExchange : String
  revertEventsExchange : String
  finalizedEventsExchange : String
  deriving DecidableEq, Repr

/-- `emptyStr`. -/
def emptyStr : String := ""

/-- A call `client.Publish(exchange, key, mandatory, immediate, amqp.Publishing{Body: body})`. -/
structure PublishCall where
  exchange : String
  key : String
  mandatory : Bool
  immediate : Bool
  body : Bytes
  deriving DecidableEq, Repr

/-- `json.Marshal` on the three values the publisher sends: the encoding, or the error's
text. -/
structure JsonMarshal where
  blockEvents : BlockEvents → Except String Bytes
  revertBlock : RevertBlock → Except String Bytes
  finalizedBlock : FinalizedBlock → Except String Bytes

/-- The fields of `rabbitMqPublisher` its methods read. The client only receives the calls. -/
structure RabbitMqPublisher where
  cfg : RabbitMQConfig

/-- `NewRabbitMqPublisher(args)`: `checkArgs` rejects a nil client. -/
def newRabbitMqPublisher {C : Type} (client : Option C) (config : RabbitMQConfig) :
    Except GoError RabbitMqPublisher :=
  if client.isNone then .error .errNilRabbitMqClient else .ok ⟨config⟩

/-- A message on one of the publisher's three channels. -/
inductive Message where
  | broadcast (events : BlockEvents)
  | broadcastRevert (revertBlock : RevertBlock)
  | broadcastFinalized (finalizedBlock : FinalizedBlock)
  deriving DecidableEq, Repr

/-- `publishFanout(exchangeName, payload)`. -/
def publishFanout (exchangeName : String) (payload : Bytes) : PublishCall :=
  ⟨exchangeName, emptyStr, true, false, payload⟩

/-- The body shared by the three publish methods: with an exchange configured, publish the
encoded value to it; a value that does not encode is dropped. -/
def publishTo (exchange : String) (marshalled : Except String Bytes) : List PublishCall :=
  if exchange ≠ "" then
    match marshalled with
    | .error _ => []
    | .ok bytes => [publishFanout exchange bytes]
  else []

namespace RabbitMqPublisher

variable (rp : RabbitMqPublisher) (marshal : JsonMarshal)

/-- `publishToExchanges(events)`. -/
def publishToExchanges (events : BlockEvents) : List PublishCall :=
  publishTo rp.cfg.eventsExchange (marshal.blockEvents events)

/-- `publishRevertToExchange(revertBlock)`. -/
def publishRevertToExchange (revertBlock : RevertBlock) : List PublishCall :=
  publishTo rp.cfg.revertEventsExchange (marshal.revertBlock revertBlock)

/-- `publishFinalizedToExchange(finalizedBlock)`. -/
def publishFinalizedToExchange (finalizedBlock : FinalizedBlock) : List PublishCall :=
  publishTo rp.cfg.finalizedEventsExchange (marshal.finalizedBlock finalizedBlock)

/-- One iteration of `Run`'s loop. -/
def handle : Message → List PublishCall
  | .broadcast events => rp.publishToExchanges marshal events
  | .broadcastRevert revertBlock => rp.publishRevertToExchange marshal revertBlock
  | .broadcastFinalized finalizedBlock => rp.publishFinalizedToExchange marshal finalizedBlock

/-- The `Publish` calls `Run` makes for the messages it received, in order. -/
def run (msgs : List Message) : List PublishCall := msgs.flatMap (rp.handle marshal)

end RabbitMqPublisher

/-! ## What the publisher sends -/

/-- The exchange the spec assigns to a message's stream. -/
def exchangeFor (cfg : RabbitMQConfig) : Message → String
  | .broadcast _ => cfg.eventsExchange
  | .broadcastRevert _ => cfg.revertEventsExchange
  | .broadcastFinalized _ => cfg.finalizedEventsExchange

/-- The JSON encoding of a message's value. -/
def JsonMarshal.encode (marshal : JsonMarshal) : Message → Except String Bytes
  | .broadcast events => marshal.blockEvents events
  | .broadcastRevert revertBlock => marshal.revertBlock revertBlock
  | .broadcastFinalized finalizedBlock => marshal.finalizedBlock finalizedBlock

/-- The call the spec asks for on one message (section 6, fanout egress): none when its
stream's exchange name is empty or its value does not encode, and otherwise a call to that
exchange with the JSON encoding as body, the empty string as routing key, `mandatory` set and
`immediate` cleared. -/
def expectedPublish (cfg : RabbitMQConfig) (marshal : JsonMarshal) (m : Message) :
    Option PublishCall :=
  if exchangeFor cfg m = "" then none
  else (marshal.encode m).toOption.map fun body =>
    { exchange := exchangeFor cfg m, key := "", mandatory := true, immediate := false,
      body := body }

theorem publishTo_eq (exchange : String) (marshalled : Except String Bytes) :
    publishTo exchange marshalled =
      (if exchange = "" then none else marshalled.toOption.map (publishFanout exchange)).toList := by
  unfold publishTo
  by_cases h : exchange = ""
  · simp [h]
  · cases marshalled <;> simp [h, Except.toOption]

theorem handle_eq (rp : RabbitMqPublisher) (marshal : JsonMarshal) (m : Message) :
    rp.handle marshal m = (expectedPublish rp.cfg marshal m).toList := by
  cases m <;> exact publishTo_eq _ _

/-- For every sequence of messages the loop receives, the publisher makes, in order, the calls
the spec asks for. -/
theorem run_eq (rp : RabbitMqPublisher) (marshal : JsonMarshal) (msgs : List Message) :
    rp.run marshal msgs = msgs.filterMap (expectedPublish rp.cfg marshal) := by
  induction msgs with
  | nil => rfl
  | cons m ms ih =>
      rw [RabbitMqPublisher.run, List.flatMap_cons, ← RabbitMqPublisher.run, ih, handle_eq,
        List.filterMap_cons]
      cases expectedPublish rp.cfg marshal m <;> rfl

end EventNotifier.RabbitMq
