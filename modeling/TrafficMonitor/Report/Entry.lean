import TrafficMonitor.Record
import TrafficMonitor.Text.Numeral

/-! Records as named entries, for programs to read. Times have the form for programs, ports and
lengths are numbers, and what does not apply is `null`. A line holds one record as an object
whose keys stand in the order of the columns. -/
namespace TrafficMonitor.Report

/-- The value of an entry. -/
inductive Entry where
  | text (s : String)
  | number (n : Int)
  | absent
deriving Repr, DecidableEq

/-- The entry of a field of a record. -/
def entry (r : Record) (field : Field) : Entry :=
  match r.shown? field with
  | none => .absent
  | some (.time t) => .text (String.ofList t.iso)
  | some (.number n) => .number n
  | some value => .text value.label

/-- All entries of a record with the names of their fields. -/
def entries (r : Record) : List (String × Entry) :=
  Field.all.map fun field => (field.name, entry r field)

/-! ### One record per line -/

/-- A character inside the quotes of a line. -/
def escapeInLine (c : Char) : List Char :=
  if c = '\x22' || c = '\\' then ['\\', c]
  else if c = '\n' then ['\\', 'n']
  else if c = '\r' then ['\\', 'r']
  else if c = '\t' then ['\\', 't']
  else if c = '\x08' then ['\\', 'b']
  else if c = '\x0c' then ['\\', 'f']
  else if c.toNat < 0x20 then '\\' :: 'u' :: Text.hexadecimal 4 c.toNat
  else [c]

def quoteInLine (s : String) : String :=
  "\"" ++ String.ofList (s.toList.flatMap escapeInLine) ++ "\""

def Entry.inLine : Entry → String
  | text s => quoteInLine s
  | number n => toString n
  | absent => "null"

/-- Entries as an object on one line. -/
def objectLine (es : List (String × Entry)) : String :=
  let members := es.map fun (name, e) => quoteInLine name ++ ": " ++ e.inLine
  "\x7b" ++ ", ".intercalate members ++ "\x7d"

end TrafficMonitor.Report
