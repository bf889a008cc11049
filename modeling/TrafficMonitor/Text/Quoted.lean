import TrafficMonitor.Text.Numeral
import TrafficMonitor.Text.Printable

/-! Texts quoted inside messages. A text stands between single quotes, or between double
quotes when it holds a single quote and no double one. The quote in use and the backslash
get a backslash before them, tab, line feed and carriage return have letters of their own,
and every other character that is not printable is written as its code point in
hexadecimal. -/
namespace TrafficMonitor.Text

/-- The quote that stands around a text. -/
def quoteFor (cs : List Char) : Char :=
  if cs.contains '\x27' && !cs.contains '\x22' then '\x22' else '\x27'

/-- One character between quotes. -/
def escape (quote c : Char) : List Char :=
  if c = quote || c = '\\' then ['\\', c]
  else if c = '\t' then ['\\', 't']
  else if c = '\n' then ['\\', 'n']
  else if c = '\r' then ['\\', 'r']
  else if isPrintable c then [c]
  else if c.toNat < 0x100 then '\\' :: 'x' :: hexadecimal 2 c.toNat
  else if c.toNat < 0x10000 then '\\' :: 'u' :: hexadecimal 4 c.toNat
  else '\\' :: 'U' :: hexadecimal 8 c.toNat

/-- The text between quotes. -/
def quoted (text : String) : String :=
  let cs := text.toList
  let quote := quoteFor cs
  String.ofList (quote :: cs.flatMap (escape quote) ++ [quote])

end TrafficMonitor.Text
