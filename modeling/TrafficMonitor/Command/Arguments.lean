import TrafficMonitor.Command.Capture

/-! From the words of a command line to what they ask for. An option is written `--name value`,
`--name=value`, or with its letter `-n value` or `-nvalue`; the last of several values counts.
Words after `--` are operands even if they begin with a hyphen. -/
namespace TrafficMonitor.Command

/-- How an option is written. -/
structure OptionForm where
  name : String
  letter : Option Char := none
  hasValue : Bool := true
deriving Repr, DecidableEq

/-- The option as a message names it. -/
def OptionForm.label (form : OptionForm) : String :=
  "'--" ++ form.name ++ "'" ++ (form.letter.elim "" fun c => " / '-" ++ c.toString ++ "'")

/-- Why the words of a command line are refused. -/
inductive ArgumentError where
  | noSuchCommand (word : String)
  | noCommand
  | noSuchOption (word : String)
  | valueMissing (form : OptionForm)
  | valueUnwanted (form : OptionForm)
  | notInteger (form : OptionForm) (value : String)
  | notPositive (form : OptionForm) (value : Int)
  | notOneOf (form : OptionForm) (value : String) (choices : List String)
  | optionMissing (form : OptionForm)
  | extraOperand (word : String)
deriving Repr, DecidableEq

def ArgumentError.message : ArgumentError → String
  | .noSuchCommand word => "No such command '" ++ word ++ "'."
  | .noCommand => "Missing command."
  | .noSuchOption word => "No such option: " ++ word
  | .valueMissing form => "Option " ++ form.label ++ " requires an argument."
  | .valueUnwanted form => "Option " ++ form.label ++ " does not take a value."
  | .notInteger form value =>
    "Invalid value for " ++ form.label ++ ": '" ++ value ++ "' is not a valid integer."
  | .notPositive form value =>
    "Invalid value for " ++ form.label ++ ": " ++ toString value ++ " is not in the range x>=1."
  | .notOneOf form value choices =>
    "Invalid value for " ++ form.label ++ ": '" ++ value ++ "' is not one of " ++
      ", ".intercalate (choices.map fun c => "'" ++ c ++ "'") ++ "."
  | .optionMissing form => "Missing option " ++ form.label ++ "."
  | .extraOperand word => "Got unexpected extra argument (" ++ word ++ ")"

/-! ### Options and operands -/

/-- What one word is. -/
inductive Word where
  | operand
  | unknown
  /-- An option whose value, if it has one, is the next word. -/
  | bare (form : OptionForm)
  /-- An option together with its value. -/
  | joined (form : OptionForm) (value : String)

/-- Recognises a word among the options of a command. -/
def Word.read (forms : List OptionForm) (word : String) : Word :=
  match word.toList with
  | '-' :: '-' :: body =>
    let name := body.takeWhile (· ≠ '=')
    match forms.find? (·.name.toList = name), body.dropWhile (· ≠ '=') with
    | none, _ => .unknown
    | some form, [] => .bare form
    | some form, _ :: value => .joined form (String.ofList value)
  | '-' :: letter :: value =>
    match forms.find? (·.letter = some letter) with
    | none => .unknown
    | some form => if value.isEmpty then .bare form else .joined form (String.ofList value)
  | _ => .operand

/-- The words of a command line, sorted. -/
structure Given where
  options : List (OptionForm × String) := []
  operands : List String := []

/-- Puts an option in front. -/
def Given.withOption (form : OptionForm) (value : String) (g : Given) : Given :=
  { g with options := (form, value) :: g.options }

/-- Puts an operand in front. -/
def Given.withOperand (word : String) (g : Given) : Given :=
  { g with operands := word :: g.operands }

/-- Sorts the words of a command line into options and operands. -/
def Given.ofWords (forms : List OptionForm) : List String → Except ArgumentError Given
  | [] => .ok {}
  | word :: rest =>
    if word = "--" then .ok { operands := rest }
    else
      match Word.read forms word with
      | .operand => (ofWords forms rest).map (·.withOperand word)
      | .unknown => .error (.noSuchOption word)
      | .joined form value =>
        if form.hasValue then (ofWords forms rest).map (·.withOption form value)
        else .error (.valueUnwanted form)
      | .bare form =>
        if form.hasValue then
          match rest with
          | value :: rest => (ofWords forms rest).map (·.withOption form value)
          | [] => .error (.valueMissing form)
        else (ofWords forms rest).map (·.withOption form "")

namespace Given

/-- The value of an option. -/
def value? (form : OptionForm) (g : Given) : Option String := g.options.reverse.lookup form

/-- A whole number in decimal, perhaps with a sign. -/
def integer? (text : String) : Option Int :=
  let natural? (digits : List Char) : Option Nat :=
    if digits.isEmpty || !digits.all Text.isAsciiDigit then none
    else some (Nat.ofDigitChars 10 digits 0)
  match text.toList with
  | '-' :: digits => (natural? digits).map fun n => -n
  | '+' :: digits => (natural? digits).map fun n => n
  | digits => (natural? digits).map fun n => n

/-- The value of an option that is a whole number. -/
def number? (form : OptionForm) (g : Given) : Except ArgumentError (Option Int) :=
  match g.value? form with
  | none => .ok none
  | some text =>
    match integer? text with
    | some n => .ok (some n)
    | none => .error (.notInteger form text)

/-- The value of an option that is one of a few words. -/
def choice? (form : OptionForm) (choices : List (String × α)) (g : Given) :
    Except ArgumentError (Option α) :=
  match g.value? form with
  | none => .ok none
  | some word =>
    match choices.lookup word with
    | some a => .ok (some a)
    | none => .error (.notOneOf form word (choices.map (·.1)))

end Given

/-! ### The commands -/

/-- What a command line asks for. -/
inductive Request where
  | checkFilter (expression : Option String) (fields : Bool)
  | capture (options : Options)

namespace Request

def fieldsForm : OptionForm := { name := "fields", hasValue := false }

/-- Reads the words after the name of the command that checks a filter. -/
def ofCheckFilterWords (words : List String) : Except ArgumentError Request := do
  let g ← Given.ofWords [fieldsForm] words
  match g.operands with
  | _ :: extra :: _ => .error (.extraOperand extra)
  | operands => .ok (.checkFilter operands.head? (g.value? fieldsForm).isSome)

def interfaceForm : OptionForm := { name := "interface", letter := some 'i' }
def durationForm : OptionForm := { name := "duration", letter := some 'd' }
def kernelFilterForm : OptionForm := { name := "bpf" }
def filterForm : OptionForm := { name := "filter", letter := some 'f' }
def producerForm : OptionForm := { name := "backend" }
def sampleForm : OptionForm := { name := "sample-ms" }
def modeForm : OptionForm := { name := "mode" }
def formatForm : OptionForm := { name := "format" }
def dumpForm : OptionForm := { name := "hexdump" }

/-- The options of the command that captures. -/
def captureForms : List OptionForm :=
  [interfaceForm, durationForm, kernelFilterForm, filterForm, producerForm, sampleForm, modeForm,
    formatForm, dumpForm]

/-- Reads the words after the name of the command that captures. -/
def ofCaptureWords (words : List String) : Except ArgumentError Request := do
  let g ← Given.ofWords captureForms words
  let some interface := g.value? interfaceForm | .error (.optionMissing interfaceForm)
  let duration ← g.number? durationForm
  let producer ← g.choice? producerForm [("scapy", .sniffed), ("dummy", .generated)]
  let sample := (← g.number? sampleForm).getD 1000
  if sample < 1 then .error (.notPositive sampleForm sample)
  let mode ← g.choice? modeForm [("record", .record), ("plot", .plot), ("stat", .stat)]
  let format ← g.choice? formatForm [("table", .table), ("jsonl", .lines)]
  let dump ← g.choice? dumpForm [("packet", .packet), ("payload", .payload)]
  if let extra :: _ := g.operands then .error (.extraOperand extra)
  return .capture {
    interface, duration, sample, dump
    kernelFilter := g.value? kernelFilterForm
    filter := g.value? filterForm
    producer := producer.getD .generated
    mode := mode.getD .record
    format := format.getD .table }

/-- Reads a whole command line. A refusal comes with the name and form of the command. -/
def ofWords : List String → Except (Usage × ArgumentError) Request
  | "check-filter" :: words => (ofCheckFilterWords words).mapError (checkFilterUsage, ·)
  | "capture" :: words => (ofCaptureWords words).mapError (captureUsage, ·)
  | word :: _ => .error (programUsage, .noSuchCommand word)
  | [] => .error (programUsage, .noCommand)

end Request

end TrafficMonitor.Command
