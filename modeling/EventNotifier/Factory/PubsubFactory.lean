import EventNotifier.RabbitMq.Publisher

/-!
# The publisher factory

`CreatePublisher` (`factory/pubsubFactory.go`) chooses the notifier's egress from the
configured API type: the message-queue type connects a RabbitMQ client to the configured URL
and builds a `rabbitMqPublisher` over it, the websocket type returns the disabled publisher,
and any other type is `ErrInvalidAPIType`.

The model keeps the factory's three-way choice and its two error paths: the client's own error
when the message-queue type cannot dial the broker, and `ErrInvalidAPIType` otherwise.
-/

set_option autoImplicit false

namespace EventNotifier.Factory

open RabbitMq

/-- Modelled from the spec: `common.MessageQueueAPIType`, the configuration value `"rabbit-api"`
(section 6). -/
def messageQueueAPIType : String := "rabbit-api"

/-- Modelled from the spec: `common.WSAPIType`, the configuration value `"notifier"`
(section 6). -/
def wsAPIType : String := "notifier"

/-- `config.GeneralConfig`: the field `CreatePublisher` reads. -/
structure GeneralConfig where
  rabbitMQ : RabbitMQConfig

/-- A `rabbitmq.PublisherService` the factory returns. -/
inductive PublisherService where
  | rabbitMq (publisher : RabbitMqPublisher)
  | disabled

section Create

-- `rabbitmq.NewRabbitMQClient(url)` dials the broker: a client, or the error it met.
variable {C : Type} (newRabbitMQClient : String → Except GoError C)

/-- `createRabbitMqPublisher(config)`. -/
def createRabbitMqPublisher (config : RabbitMQConfig) : Except GoError PublisherService := do
  let rabbitClient ← newRabbitMQClient config.url
  let rabbitPublisher ← newRabbitMqPublisher (some rabbitClient) config
  pure (.rabbitMq rabbitPublisher)

/-- `CreatePublisher(apiType, config)`. -/
def createPublisher (apiType : String) (config : GeneralConfig) :
    Except GoError PublisherService :=
  if apiType = messageQueueAPIType then createRabbitMqPublisher newRabbitMQClient config.rabbitMQ
  else if apiType = wsAPIType then .ok .disabled
  else .error .errInvalidAPIType

end Create

end EventNotifier.Factory
