/-! The ten fields of a packet record. They are the columns of the record table, in order, and
the names the filter language knows: a plain name, sometimes a longer one, and the heading of
the column. -/
namespace TrafficMonitor

/-- A field of a packet record. -/
inductive Field where
  | time
  | source
  | sourcePort
  | destination
  | destinationPort
  | length
  | ipPayload
  | transport
  | transportPayload
  | application
deriving Repr, DecidableEq

namespace Field

/-- The fields in the order of the table. -/
def all : List Field :=
  [time, source, sourcePort, destination, destinationPort, length, ipPayload, transport,
    transportPayload, application]

/-- The name a field is written with. -/
def name : Field → String
  | time => "time"
  | source => "src_ip"
  | sourcePort => "src_port"
  | destination => "dest_ip"
  | destinationPort => "dest_port"
  | length => "len"
  | ipPayload => "ip_payload_len"
  | transport => "trans_proto"
  | transportPayload => "trans_payload_len"
  | application => "app_proto"

/-- The heading of the field's column. -/
def title : Field → String
  | time => "时间"
  | source => "源IP"
  | sourcePort => "源端口"
  | destination => "目的IP"
  | destinationPort => "目的端口"
  | length => "IP分组长度"
  | ipPayload => "IP数据长度"
  | transport => "传输层协议"
  | transportPayload => "报文段数据长度"
  | application => "应用层协议"

/-- Every name by which a filter may call the field. -/
def aliases : Field → List String
  | transport => ["trans_proto", "trans_protocol", "传输层协议"]
  | application => ["app_proto", "app_protocol", "应用层协议"]
  | field => [field.name, field.title]

/-- The field of a name. -/
def ofAlias? (name : String) : Option Field := all.find? (·.aliases.contains name)

theorem mem_all (field : Field) : field ∈ all := by cases field <;> decide

end Field

end TrafficMonitor
