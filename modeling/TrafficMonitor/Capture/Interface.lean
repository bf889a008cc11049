import TrafficMonitor.Text.Quoted

/-! The network interfaces one can capture on. The address of an interface may be unknown; one
that is empty or all zeros counts as none. -/
namespace TrafficMonitor.Capture

structure Interface where
  name : String
  description : String
  isUp : Bool := true
  addresses : List String := []
deriving Repr, DecidableEq

/-- The interfaces of made-up traffic. -/
def generatedInterfaces : List Interface :=
  [{ name := "dummy0", description := "Dummy Ethernet Interface", addresses := ["192.168.1.100"] },
    { name := "dummy1", description := "Dummy Loopback Interface", addresses := ["10.0.0.1"] }]

/-- What looking up the address of an interface gives. -/
inductive AddressLookup where
  | found (address : Option String)
  /-- The system has no address for the interface. -/
  | unavailable
  /-- The interface is not known to the system. -/
  | missing
deriving Repr, DecidableEq

/-- An interface the system does not know. -/
structure UnknownInterface where
  name : String
deriving Repr, DecidableEq

def UnknownInterface.message (e : UnknownInterface) : String := Text.quoted e.name

/-- The interface of a name, with its address if it has one. -/
def Interface.ofLookup (name : String) : AddressLookup → Except UnknownInterface Interface
  | .found (some address) =>
    let addresses := if address = "" ∨ address = "0.0.0.0" then [] else [address]
    .ok { name, description := name, addresses }
  | .found none | .unavailable => .ok { name, description := name }
  | .missing => .error ⟨name⟩

/-- One line of a list of interfaces. -/
def Interface.line (i : Interface) : String :=
  "  " ++ Text.alignLeft 20 i.name ++ " " ++ Text.alignLeft 5 (if i.isUp then "UP" else "DOWN") ++
    " [" ++ ", ".intercalate i.addresses ++ "]"

end TrafficMonitor.Capture
