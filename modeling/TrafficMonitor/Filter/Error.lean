import TrafficMonitor.Filter.Operator

/-! Why a text is no filter. Structural errors carry the position of the offending character;
the others carry the word that was refused. -/
namespace TrafficMonitor.Filter

/-- What should have come next. -/
inductive Expected where
  | symbol (s : String)
  | fieldName
  | operator
  | value
deriving Repr, DecidableEq

def Expected.describe : Expected → String
  | .symbol s => "\"" ++ s ++ "\""
  | .fieldName => "a field name"
  | .operator => "an operator"
  | .value => "a value"

/-- An error of the filter language. -/
inductive FilterError where
  /-- The text is blank. -/
  | empty
  /-- Something else stands where `what` is needed; `found` is how it begins. -/
  | expected (what : Expected) (found : String) (position : Nat)
  /-- The filter is complete, but the text goes on. -/
  | trailing (found : String) (position : Nat)
  | unknownField (text : String)
  | badLiteral (text : String)
  | badOperator (text : String)
  /-- The field, named as it was written, does not support the operator. -/
  | unsupportedOperator (field : String) (op : Operator)
deriving Repr, DecidableEq

namespace FilterError

/-- The place of an error, as shown after what was expected. -/
def place (found : String) : String :=
  if found.isEmpty then "at end of input" else "at \"" ++ found ++ "\""

/-- The text shown to the user. -/
def message : FilterError → String
  | empty => "empty filter"
  | expected what found _ => "expected " ++ what.describe ++ " " ++ place found
  | trailing found _ => "unexpected \"" ++ found ++ "\""
  | unknownField text => "no field named \"" ++ text ++ "\""
  | badLiteral text => "cannot filter with value \"" ++ text ++ "\" here"
  | badOperator text => "\"" ++ text ++ "\" is not a valid operator"
  | unsupportedOperator field op =>
    "operator \"" ++ op.symbol ++ "\" cannot be used on field \"" ++ field ++ "\""

/-- Where a structural error was found, in characters from the start. -/
def position? : FilterError → Option Nat
  | empty => some 0
  | expected _ _ position => some position
  | trailing _ position => some position
  | _ => none

end FilterError

/-- The most digits a number may have. -/
def digitLimit : Nat := 4300

/-- Why a text cannot be compiled: an error of the language, or a port or length that is
written with too many digits to be read at all. -/
inductive CompileError where
  | filter (cause : FilterError)
  | numeralTooLong (digits : Nat)
deriving Repr, DecidableEq

def CompileError.message : CompileError → String
  | .filter cause => cause.message
  | .numeralTooLong digits =>
    s!"Exceeds the limit ({digitLimit} digits) for integer string conversion: value has " ++
      s!"{digits} digits; use sys.set_int_max_str_digits() to increase the limit"

end TrafficMonitor.Filter
