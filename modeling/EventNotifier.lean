import EventNotifier.Data
import EventNotifier.Channels
import EventNotifier.Dispatcher.SubscriptionMapper
import EventNotifier.Hub.CommonHub
import EventNotifier.Hub.Broadcast
import EventNotifier.Hub.Loop
import EventNotifier.Hub.Goroutines
import EventNotifier.Process.PayloadHandler
import EventNotifier.RabbitMq.Publisher
import EventNotifier.Factory.PubsubFactory
import EventNotifier.Proxy.GroupHandler
import EventNotifier.RabbitMq.Goroutines
