import TrafficMonitor.Text.Numeral

/-! Bytes of a packet. Numbers of two bytes stand with the high byte first. -/
namespace TrafficMonitor.Packet

abbrev Bytes := List UInt8

/-- The number in two bytes. -/
def word (high low : UInt8) : Nat := high.toNat * 256 + low.toNat

/-- A number up to 65535 in two bytes. -/
def wordBytes (n : Nat) : Bytes := [(n / 256).toUInt8, n.toUInt8]

/-- A number in one byte, if it fits. -/
def octet? (n : Int) : Option UInt8 := if 0 ≤ n ∧ n < 256 then some n.toNat.toUInt8 else none

/-- A number in two bytes, if it fits. -/
def word? (n : Int) : Option Bytes := if 0 ≤ n ∧ n < 65536 then some (wordBytes n.toNat) else none

/-- Two hexadecimal digits per byte. -/
def hexText (data : Bytes) : String :=
  String.ofList (data.flatMap fun b => Text.hexadecimal 2 b.toNat)

theorem word_wordBytes {n : Nat} (h : n < 65536) :
    word (n / 256).toUInt8 n.toUInt8 = n := by
  simp [word]
  omega

end TrafficMonitor.Packet
