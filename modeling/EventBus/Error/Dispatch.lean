import EventBus.Error.Transport
import EventBus.SubscriberId

/-!
# Failures inside a chain

The bus makes one of these for every failure that it observes in a chain. It is logged, and its
status is what the raise returns when the failure stops the chain.
-/

namespace EventBus

/-- A failure inside a chain. Events are given by name. -/
inductive DispatchError where
  | unauthorized (subscriber event : String)
  | unknownSubscriber (id : SubscriberId) (event : String)
  | handlerFailure (subscriber event : String) (status : Status)
  | handlerPanicked (subscriber event info : String)
  /-- A remote subscriber could not be reached or did not answer. -/
  | transportFailure (subscriber event : String) (source : TransportError)
  deriving DecidableEq, Repr

namespace DispatchError

def label : DispatchError → String
  | unauthorized .. => "dispatch_unauthorized"
  | unknownSubscriber .. => "dispatch_unknown_subscriber"
  | handlerFailure .. => "dispatch_handler_failure"
  | handlerPanicked .. => "dispatch_handler_panicked"
  | transportFailure .. => "dispatch_transport_failure"

def message : DispatchError → String
  | unauthorized subscriber event => s!"'{subscriber}' is not allowed to raise {event}"
  | unknownSubscriber id event => s!"unknown subscriber id {id.text} raised {event}"
  | handlerFailure subscriber event status => s!"'{subscriber}' failed {event} with {status.text}"
  | handlerPanicked subscriber event info => s!"'{subscriber}' panicked on {event}: {info}"
  | transportFailure subscriber event source =>
    s!"'{subscriber}' unreachable for {event}: {source.message}"

def status : DispatchError → Status
  | unauthorized .. => .unauthorized
  | unknownSubscriber .. => .unknownSubscriber
  | handlerFailure _ _ status => status
  | handlerPanicked .. => .panicked
  | transportFailure .. => .transport

end DispatchError

end EventBus
