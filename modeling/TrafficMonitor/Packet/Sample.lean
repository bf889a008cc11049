import TrafficMonitor.Packet.Writer

/-! Made-up traffic for a capture without a network. Each packet is put together from a few
draws: who talks to whom and in which direction, how much is said, which service is asked from
which port, and over which protocol. A run of draws that ends early or leaves its range gives
no packet. -/
namespace TrafficMonitor.Packet
open Network

/-- One draw of a random source. -/
inductive Draw where
  | whole (n : Int)
  | fraction (x : Float)

/-- Reads draws one after another; `none` once a draw cannot be used. -/
abbrev Drawing := StateT (List Draw) Option

namespace Drawing

/-- The next draw. -/
def next : Drawing Draw := fun draws =>
  match draws with
  | [] => none
  | d :: rest => some (d, rest)

/-- A draw from the elements of a list, by index. A negative index counts from the end. -/
def choice (xs : List α) : Drawing α := do
  match ← next with
  | .whole n =>
    let n := if n < 0 then n + xs.length else n
    if 0 ≤ n then xs[n.toNat]?.elim failure pure else failure
  | .fraction _ => failure

/-- A whole number from `low` on and below `high`. -/
def within (low high : Int) : Drawing Int := do
  match ← next with
  | .whole n => if low ≤ n ∧ n < high then pure n else failure
  | .fraction _ => failure

/-- Heads or tails: whether a number from 0 to 1 lies in the lower half. -/
def coin : Drawing Bool := do
  match ← next with
  | .whole n => pure (n ≤ 0)
  | .fraction x => pure (x < 0.5)

end Drawing

/-- The pairs of hosts that talk to each other. -/
def peers : List (Bytes × Bytes) :=
  [([192, 168, 1, 100], [93, 184, 216, 34]), ([192, 168, 1, 100], [8, 8, 8, 8]),
    ([10, 0, 0, 1], [10, 0, 0, 2])]

/-- The ports of the services that are asked. -/
def servicePorts : List Int := [22, 53, 80, 123, 443, 8080]

/-- The protocols in use; TCP is twice as likely as the others. -/
def protocols : List Transport := [.tcp, .tcp, .udp, .icmp]

/-- The packet with the given number, counted from one. -/
def sample (number : Nat) : Drawing Bytes := do
  let (a, b) ← Drawing.choice peers
  let (source, destination) := if ← Drawing.coin then (b, a) else (a, b)
  let payload : Bytes := List.replicate (← Drawing.within 0 1200).toNat 0
  let service ← Drawing.choice servicePorts
  let client ← Drawing.within 49152 65536
  let protocol ← Drawing.choice protocols
  let segment ←
    if protocol = .tcp then (tcp? client service payload).elim failure pure
    else if protocol = .udp then (udp? client service (payload.take 512)).elim failure pure
    else pure (echo number (payload.take 56))
  (ipv4? source destination protocol.number segment).elim failure pure

/-- What each draw of a packet may be, in order: the least and the greatest whole number. -/
def drawRanges : List (Nat × Nat) :=
  [(0, peers.length - 1), (0, 1), (0, 1199), (0, servicePorts.length - 1), (49152, 65535),
    (0, protocols.length - 1)]

/-- The packet made from a run of draws, if they suffice. -/
def sample? (number : Nat) (draws : List Draw) : Option Bytes :=
  ((sample number).run draws).map (·.1)

end TrafficMonitor.Packet
