import EventBus.Catalog

/-!
# The catalog of components

Names begin with `EV_`. Requests in both directions and internal requests are gated; internal
notifications and log messages are not.
-/

namespace EventBus.Catalog

def component : Catalog where
  namePrefix := "EV_"
  label := "event"
  rows := #[
    ⟨"OFP_MSG_IN", .fromDatapath, .gated⟩,
    ⟨"DP_RECEIVE_PACKET", .fromDatapath, .gated⟩,
    ⟨"DP_FLOW_EXPIRED", .fromDatapath, .gated⟩,
    ⟨"DP_FLOW_DELETED", .fromDatapath, .gated⟩,
    ⟨"DP_FLOW_STATS", .fromDatapath, .gated⟩,
    ⟨"DP_AGGREGATE_STATS", .fromDatapath, .gated⟩,
    ⟨"DP_PORT_ADDED", .fromDatapath, .gated⟩,
    ⟨"DP_PORT_MODIFIED", .fromDatapath, .gated⟩,
    ⟨"DP_PORT_DELETED", .fromDatapath, .gated⟩,
    ⟨"DP_PORT_STATS", .fromDatapath, .gated⟩,
    ⟨"OFP_MSG_OUT", .toDatapath, .gated⟩,
    ⟨"DP_SEND_PACKET", .toDatapath, .gated⟩,
    ⟨"DP_INSERT_FLOW", .toDatapath, .gated⟩,
    ⟨"DP_MODIFY_FLOW", .toDatapath, .gated⟩,
    ⟨"DP_DELETE_FLOW", .toDatapath, .gated⟩,
    ⟨"DP_REQUEST_FLOW_STATS", .toDatapath, .gated⟩,
    ⟨"DP_REQUEST_AGGREGATE_STATS", .toDatapath, .gated⟩,
    ⟨"DP_REQUEST_PORT_STATS", .toDatapath, .gated⟩,
    ⟨"SW_GET_DPID", .request, .gated⟩,
    ⟨"SW_GET_FD", .request, .gated⟩,
    ⟨"SW_GET_XID", .request, .gated⟩,
    ⟨"SW_NEW_CONN", .internal, .notify⟩,
    ⟨"SW_EXPIRED_CONN", .internal, .notify⟩,
    ⟨"SW_CONNECTED", .internal, .notify⟩,
    ⟨"SW_DISCONNECTED", .internal, .notify⟩,
    ⟨"SW_UPDATE_CONFIG", .internal, .notify⟩,
    ⟨"SW_UPDATE_DESC", .internal, .notify⟩,
    ⟨"HOST_ADDED", .internal, .notify⟩,
    ⟨"HOST_DELETED", .internal, .notify⟩,
    ⟨"LINK_ADDED", .internal, .notify⟩,
    ⟨"LINK_DELETED", .internal, .notify⟩,
    ⟨"FLOW_ADDED", .internal, .notify⟩,
    ⟨"FLOW_DELETED", .internal, .notify⟩,
    ⟨"RS_UPDATE_USAGE", .internal, .notify⟩,
    ⟨"TR_UPDATE_STATS", .internal, .notify⟩,
    ⟨"LOG_UPDATE_MSGS", .internal, .notify⟩,
    ⟨"LOG_DEBUG", .log, .notify⟩,
    ⟨"LOG_INFO", .log, .notify⟩,
    ⟨"LOG_WARN", .log, .notify⟩,
    ⟨"LOG_ERROR", .log, .notify⟩,
    ⟨"LOG_FATAL", .log, .notify⟩]

end EventBus.Catalog
