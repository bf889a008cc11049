import TrafficMonitor.Text.Digit
import TrafficMonitor.Text.Quoted
import TrafficMonitor.Text.Split

/-! IPv4 addresses. An address is four octets; it is written with dots between them, read
back only in that form, and ordered by the 32-bit number the octets make up. -/
namespace TrafficMonitor.Network

/-- Four octets, the most significant first. -/
structure Address where
  first : UInt8
  second : UInt8
  third : UInt8
  fourth : UInt8
deriving Repr, DecidableEq

/-- Why a part of a dotted address is no octet. -/
inductive OctetError where
  | empty
  | notDecimal (octet : String)
  | tooLong (octet : String)
  | leadingZero (octet : String)
  | tooLarge (value : Nat)
deriving Repr, DecidableEq

/-- Why a text or a number is no address. -/
inductive AddressError where
  | slash (text : String)
  | empty
  | notFourOctets (text : String)
  | badOctet (cause : OctetError) (text : String)
  | negative (number : Int)
  | tooLarge (number : Int)
deriving Repr, DecidableEq

open Text (quoted)

def OctetError.message : OctetError → String
  | .empty => "Empty octet not permitted"
  | .notDecimal octet => s!"Only decimal digits permitted in {quoted octet}"
  | .tooLong octet => s!"At most 3 characters permitted in {quoted octet}"
  | .leadingZero octet => s!"Leading zeros are not permitted in {quoted octet}"
  | .tooLarge value => s!"Octet {value} (> 255) not permitted"

def AddressError.message : AddressError → String
  | .slash text => s!"Unexpected '/' in {quoted text}"
  | .empty => "Address cannot be empty"
  | .notFourOctets text => s!"Expected 4 octets in {quoted text}"
  | .badOctet cause text => s!"{cause.message} in {quoted text}"
  | .negative number => s!"{number} (< 0) is not permitted as an IPv4 address"
  | .tooLarge number => s!"{number} (>= 2**32) is not permitted as an IPv4 address"

namespace Address

/-- The 32-bit number of the address. -/
def number (a : Address) : Nat :=
  ((a.first.toNat * 256 + a.second.toNat) * 256 + a.third.toNat) * 256 + a.fourth.toNat

/-- The octets in decimal with dots between. -/
def display (a : Address) : List Char :=
  Nat.toDigits 10 a.first.toNat ++ '.' :: Nat.toDigits 10 a.second.toNat ++
    '.' :: Nat.toDigits 10 a.third.toNat ++ '.' :: Nat.toDigits 10 a.fourth.toNat

/-- Reads one to three decimal digits up to 255, without leading zeros. -/
def parseOctet (cs : List Char) : Except OctetError UInt8 :=
  if cs.isEmpty then .error .empty
  else if !cs.all Text.isAsciiDigit then .error (.notDecimal (String.ofList cs))
  else if 3 < cs.length then .error (.tooLong (String.ofList cs))
  else if cs ≠ ['0'] ∧ cs.head? = some '0' then .error (.leadingZero (String.ofList cs))
  else
    let value := Nat.ofDigitChars 10 cs 0
    if 255 < value then .error (.tooLarge value) else .ok value.toUInt8

/-- Reads four octets with dots between. -/
def parse (cs : List Char) : Except AddressError Address :=
  let text := String.ofList cs
  if cs.contains '/' then .error (.slash text)
  else if cs.isEmpty then .error .empty
  else match Text.split '.' cs with
    | [a, b, c, d] =>
      let octet (p : List Char) := (parseOctet p).mapError (.badOctet · text)
      return ⟨← octet a, ← octet b, ← octet c, ← octet d⟩
    | _ => .error (.notFourOctets text)

/-- The number of all addresses. -/
def count : Nat := 0x100000000

/-- The address of a 32-bit number. -/
def ofNumber (n : Int) : Except AddressError Address :=
  if n < 0 then .error (.negative n)
  else if count ≤ n then .error (.tooLarge n)
  else
    let n := n.toNat
    .ok ⟨(n / 0x1000000).toUInt8, (n / 0x10000).toUInt8, (n / 0x100).toUInt8, n.toUInt8⟩

end Address

end TrafficMonitor.Network
