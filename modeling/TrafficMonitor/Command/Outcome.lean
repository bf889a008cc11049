/-! What a command leaves behind: its output, its error output, an exit code, and the failure
that ended it if it was one that the command does not report itself. A command hands its texts to
two streams, and what these receive of a text is theirs to say (`Streams`). -/
namespace TrafficMonitor.Command

structure Outcome (ε : Type) where
  exitCode : Nat := 0
  stdout : String := ""
  stderr : String := ""
  failure : Option ε := none
  /-- The command goes on for ever, and so leaves nothing behind. -/
  endless : Bool := false

/-! ### Output without colours

Output that does not go to a terminal loses its control sequences: an escape character, an
opening bracket, parameters, and a letter. -/

/-- The characters of the parameters of a control sequence. -/
def isParameter (c : Char) : Bool := c = ';' || c = '?' || ('0' ≤ c && c ≤ '9')

/-- The text behind a control sequence that begins after its escape character. -/
def afterSequence? : List Char → Option (List Char)
  | '[' :: rest =>
    match rest.dropWhile isParameter with
    | c :: rest => if c.isAlpha then some rest else none
    | [] => none
  | _ => none

theorem afterSequence?_length {cs rest : List Char} (h : afterSequence? cs = some rest) :
    rest.length ≤ cs.length := by
  unfold afterSequence? at h
  split at h
  · rename_i after
    have := (List.dropWhile_sublist isParameter (l := after)).length_le
    split at h
    · rename_i hd
      rw [hd] at this
      split at h
      · cases h
        simp only [List.length_cons] at *
        omega
      · cases h
    · cases h
  · cases h

/-- The text without control sequences. -/
def withoutColours (cs : List Char) : List Char :=
  match cs with
  | [] => []
  | c :: rest =>
    if c = '\x1b' then
      match h : afterSequence? rest with
      | some after =>
        have := afterSequence?_length h
        withoutColours after
      | none => c :: withoutColours rest
    else c :: withoutColours rest
termination_by cs.length

/-- A text as it is written to a stream that is no terminal. -/
def shown (text : String) : String := String.ofList (withoutColours text.toList)

/-- What the output and the error output receive for a text that is written to them. -/
structure Streams where
  output : String → String := shown
  errors : String → String := shown

namespace Streams

/-- A line in the output. -/
def line (s : Streams) (text : String) : String := s.output (text ++ "\n")

/-- A line in the error output. -/
def errorLine (s : Streams) (text : String) : String := s.errors (text ++ "\n")

end Streams

/-- The error output and exit code of a refused command. -/
def refused (s : Streams) (message : String) (stdout : String) : Outcome ε :=
  { exitCode := 1, stdout, stderr := s.errorLine ("Error: " ++ message) }

/-- How a command is called. -/
structure Usage where
  command : String
  words : String
deriving Repr, DecidableEq

def programUsage : Usage := ⟨"cli", "[OPTIONS] COMMAND [ARGS]..."⟩

/-- The outcome of a command that was called in a wrong way. -/
def misused (s : Streams) (usage : Usage) (message : String) (stdout : String) : Outcome ε :=
  { exitCode := 2
    stdout
    stderr := s.errorLine ("Usage: " ++ usage.command ++ " " ++ usage.words ++ "\n" ++
      "Try '" ++ usage.command ++ " --help' for help.\n") ++ s.errorLine ("Error: " ++ message) }

end TrafficMonitor.Command
