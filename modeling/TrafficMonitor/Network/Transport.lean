/-! Protocols above IPv4, known by the number in the header. The numbers 0 to 142 are
assigned, 253 and 254 are set aside for experiments, and all others are unnamed. In filters
the unnamed ones count as one protocol, but a table keeps a row for each number. -/
namespace TrafficMonitor.Network

/-- A protocol number. -/
structure Transport where
  number : Int
deriving Repr, DecidableEq

/-- The names of the assigned numbers from 0 on, in order. -/
def assignedNames : List String :=
  ["Hopopt", "ICMP", "Igmp", "Ggp", "IPv4", "St", "TCP", "Cbt", "Egp", "Igp", "BbnRccMon",
   "NvpII", "Pup", "Argus", "Emcon", "Xnet", "Chaos", "UDP", "Mux", "DcnMeas", "Hmp", "Prm",
   "XnsIdp", "Trunk1", "Trunk2", "Leaf1", "Leaf2", "Rdp", "Irtp", "IsoTp4", "Netblt", "MfeNsp",
   "MeritInp", "Dccp", "ThreePc", "Idpr", "Xtp", "Ddp", "IdprCmtp", "TpPlusPlus", "Il", "IPv6",
   "Sdrp", "IPv6Route", "IPv6Frag", "Idrp", "Rsvp", "Gre", "Dsr", "Bna", "Esp", "Ah", "INlsp",
   "Swipe", "Narp", "Mobile", "Tlsp", "Skip", "IPv6ICMP", "IPv6NoNxt", "IPv6Opts",
   "HostInternal", "Cftp", "LocalNetwork", "SatExpak", "Kryptolan", "Rvd", "Ippc",
   "DistributedFs", "SatMon", "Visa", "Ipcv", "Cpnx", "Cphb", "Wsn", "Pvp", "BrSatMon", "SunNd",
   "WbMon", "WbExpak", "IsoIp", "Vmtp", "SecureVmtp", "Vines", "TtpOrIptm", "NsfnetIgp", "Dgp",
   "Tcf", "Eigrp", "OspfigP", "SpriteRpc", "Larp", "Mtp", "Ax25", "IpIp", "Micp", "SccSp",
   "Etherip", "Encap", "PrivEncryption", "Gmtp", "Ifmp", "Pnni", "Pim", "Aris", "Scps", "Qnx",
   "AN", "IpComp", "Snp", "CompaqPeer", "IpxInIp", "Vrrp", "Pgm", "ZeroHop", "L2tp", "Ddx",
   "Iatp", "Stp", "Srp", "Uti", "Smp", "Sm", "Ptp", "IsisOverIpv4", "Fire", "Crtp", "Crudp",
   "Sscopmce", "Iplt", "Sps", "Pipe", "Sctp", "Fc", "RsvpE2eIgnore", "MobilityHeader", "UdpLite",
   "MplsInIp", "Manet", "Hip", "Shim6", "Wesp", "Rohc"]

namespace Transport

def icmp : Transport := ⟨1⟩
def tcp : Transport := ⟨6⟩
def udp : Transport := ⟨17⟩

/-- The number that stands for every unnamed one. It is reserved, so it never gets a name. -/
def unknown : Transport := ⟨255⟩

/-- The name of a number, if it has one. -/
def name? (p : Transport) : Option String :=
  if p.number = 253 then some "Test1"
  else if p.number = 254 then some "Test2"
  else if p.number < 0 then none
  else assignedNames[p.number.toNat]?

/-- Whether the number has no name. -/
def isUnknown (p : Transport) : Bool := p.name?.isNone

/-- The name alone, the same for all unnamed numbers. -/
def name (p : Transport) : String := p.name?.getD "Unknown"

/-- The name shown in tables; an unnamed number is shown too. -/
def label (p : Transport) : String := p.name?.getD s!"Unknown ({p.number})"

/-- The protocol of a name. Upper and lower case differ. -/
def ofName? (name : String) : Option Transport :=
  if name = "Unknown" then some unknown
  else if name = "Test1" then some ⟨253⟩
  else if name = "Test2" then some ⟨254⟩
  else (assignedNames.idxOf? name).map fun i => ⟨i⟩

/-- Whether the protocol has ports. -/
def isTcpOrUdp (p : Transport) : Bool := p = tcp || p = udp

/-- Whether two protocols count as one in filters: the same number, or both unnamed. -/
def same (a b : Transport) : Bool := a = b || (a.isUnknown && b.isUnknown)

end Transport

end TrafficMonitor.Network
