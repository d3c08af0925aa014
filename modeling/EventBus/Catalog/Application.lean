import EventBus.Catalog

/-!
# The catalog of applications

Names begin with `AV_`. Requests in both directions and internal requests are gated; internal
notifications and log messages are not.
-/

namespace EventBus.Catalog

def application : Catalog where
  namePrefix := "AV_"
  label := "app_event"
  rows := #[
    ⟨"DP_RECEIVE_PACKET", .fromDatapath, .gated⟩,
    ⟨"DP_FLOW_EXPIRED", .fromDatapath, .gated⟩,
    ⟨"DP_FLOW_DELETED", .fromDatapath, .gated⟩,
    ⟨"DP_PORT_ADDED", .fromDatapath, .gated⟩,
    ⟨"DP_PORT_MODIFIED", .fromDatapath, .gated⟩,
    ⟨"DP_PORT_DELETED", .fromDatapath, .gated⟩,
    ⟨"DP_SEND_PACKET", .toDatapath, .gated⟩,
    ⟨"DP_INSERT_FLOW", .toDatapath, .gated⟩,
    ⟨"DP_MODIFY_FLOW", .toDatapath, .gated⟩,
    ⟨"DP_DELETE_FLOW", .toDatapath, .gated⟩,
    ⟨"SW_GET_INFO", .request, .gated⟩,
    ⟨"SW_GET_ALL_INFO", .request, .gated⟩,
    ⟨"HOST_GET_INFO", .request, .gated⟩,
    ⟨"HOST_GET_ALL_INFO", .request, .gated⟩,
    ⟨"LINK_GET_INFO", .request, .gated⟩,
    ⟨"LINK_GET_ALL_INFO", .request, .gated⟩,
    ⟨"FLOW_GET_INFO", .request, .gated⟩,
    ⟨"FLOW_GET_ALL_INFO", .request, .gated⟩,
    ⟨"SW_CONNECTED", .internal, .notify⟩,
    ⟨"SW_DISCONNECTED", .internal, .notify⟩,
    ⟨"HOST_ADDED", .internal, .notify⟩,
    ⟨"HOST_DELETED", .internal, .notify⟩,
    ⟨"LINK_ADDED", .internal, .notify⟩,
    ⟨"LINK_DELETED", .internal, .notify⟩,
    ⟨"FLOW_ADDED", .internal, .notify⟩,
    ⟨"FLOW_DELETED", .internal, .notify⟩,
    ⟨"LOG_DEBUG", .log, .notify⟩,
    ⟨"LOG_INFO", .log, .notify⟩,
    ⟨"LOG_WARN", .log, .notify⟩,
    ⟨"LOG_ERROR", .log, .notify⟩,
    ⟨"LOG_FATAL", .log, .notify⟩]

end EventBus.Catalog
