import TrafficMonitor.Command.Outcome
import TrafficMonitor.Filter.Parser
import TrafficMonitor.Text.Numeral

/-! The command that checks a filter and prints its canonical form, and that lists the fields
with their operators. A structural error is shown with the text and a caret under the place
where it was found. -/
namespace TrafficMonitor.Command
open TrafficMonitor.Filter Text

/-- An error with the place where it was found. -/
def explain (expression : String) (e : FilterError) : String :=
  match e.position? with
  | none => e.message
  | some position =>
    e.message ++ "\n  " ++ expression ++ "\n  " ++
      String.ofList (List.replicate position ' ') ++ "^"

/-- The names and operators of one field. -/
def fieldLine (field : Field) : String :=
  alignLeft 40 (" / ".intercalate field.aliases) ++ " " ++
    " ".intercalate (field.operators.map (·.symbol))

def checkFilterUsage : Usage := ⟨"cli check-filter", "[OPTIONS] [EXPRESSION]"⟩

/-- Lists the fields if asked to, then checks the expression. It may be missing only if the
fields were asked for. -/
def checkFilter (zone : Time.Zone) (expression : Option String) (fields : Bool)
    (streams : Streams := {}) : Outcome CompileError :=
  let listed :=
    if fields then String.join (Field.all.map fun f => streams.line (fieldLine f)) else ""
  match expression with
  | none =>
    if fields then { stdout := listed }
    else misused streams checkFilterUsage "missing EXPRESSION" listed
  | some text =>
    match Filter.parse zone text.toList with
    | .ok f => { stdout := listed ++ streams.line (String.ofList f.display) }
    | .error (.filter e) => refused streams (explain text e) listed
    | .error e => { exitCode := 1, stdout := listed, failure := some e }

end TrafficMonitor.Command
