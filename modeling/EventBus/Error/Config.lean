import EventBus.Error.Io
import EventBus.Json.Reader
import EventBus.SubscriberId

/-!
# Failures of the configuration

What can be wrong with the configured subscribers and their handlers. Any of these keeps the bus from
being built.
-/

namespace EventBus

/-- A failure of the configuration. -/
inductive ConfigError where
  /-- The record at an index has a blank name. -/
  | emptyName (index : Nat)
  | duplicateSubscriber (name : String)
  /-- Two different names have the same id. -/
  | idCollision (first second : String) (id : SubscriberId)
  /-- An entry names no kind and no group tag. -/
  | unknownEvent (subscriber entry : String)
  /-- The letters of an entry, or those of a record, are no permission. -/
  | invalidPermission (subscriber entry : String)
  /-- A group tag stands where only kinds are allowed. -/
  | groupNotAllowed (subscriber entry : String)
  /-- An external subscriber has no endpoint. -/
  | missingEndpoint (subscriber : String)
  | invalidEndpoint (endpoint reason : String)
  /-- A handler was registered under a name that no internal record has. -/
  | unknownHandler (name : String)
  /-- A handler was registered for a kind that its subscriber does not receive. -/
  | notSubscribed (subscriber event : String)
  /-- The records are no JSON, or not of the right shape. -/
  | parse (fault : Json.Fault)
  /-- The file of the records could not be read. -/
  | io (error : IoError)
  deriving DecidableEq, Repr

namespace ConfigError

def label : ConfigError → String
  | emptyName .. => "config_empty_name"
  | duplicateSubscriber .. => "config_duplicate_subscriber"
  | idCollision .. => "config_id_collision"
  | unknownEvent .. => "config_unknown_event"
  | invalidPermission .. => "config_invalid_permission"
  | groupNotAllowed .. => "config_group_not_allowed"
  | missingEndpoint .. => "config_missing_endpoint"
  | invalidEndpoint .. => "config_invalid_endpoint"
  | unknownHandler .. => "config_unknown_handler"
  | notSubscribed .. => "config_not_subscribed"
  | parse .. => "config_parse"
  | io .. => "config_io"

def message : ConfigError → String
  | emptyName index => s!"subscriber record #{index} has no name"
  | duplicateSubscriber name => s!"duplicate subscriber name '{name}'"
  | idCollision first second id => s!"subscribers '{first}' and '{second}' share id {id.text}"
  | unknownEvent subscriber entry => s!"subscriber '{subscriber}': unknown event '{entry}'"
  | invalidPermission subscriber entry => s!"subscriber '{subscriber}': invalid permission in '{entry}'"
  | groupNotAllowed subscriber entry => s!"subscriber '{subscriber}': group '{entry}' is not allowed here"
  | missingEndpoint subscriber => s!"external subscriber '{subscriber}' has no endpoint"
  | invalidEndpoint endpoint reason => s!"invalid endpoint '{endpoint}': {reason}"
  | unknownHandler name => s!"handler registered for unknown subscriber '{name}'"
  | notSubscribed subscriber event => s!"subscriber '{subscriber}' does not subscribe to {event}"
  | parse (.mismatch message) => s!"parse error: {message}"
  | parse .malformed => "parse error: malformed JSON"
  | io error => s!"io error: {error.text}"

end ConfigError

end EventBus
