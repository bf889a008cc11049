import TrafficMonitor.Proofs.Filter.Reading

/-! The cursor under any use. The parser asks its cursor in a certain order; nothing here depends on
it. Calls are data (`Call`), they may come in any order, and they may go on after one that has
failed (`Cursor.after`). `answers_after` says what holds of every call wherever it is made
(`Cursor.Answers`): the cursor stays in the text and does not go back; a call that says no or fails
moves it over white space only, can be made again to the same effect, and what it asks for does not
stand there; a token is a visible piece of the text and the longest of its shape at its place.

What a call does is decided behind the white space (`serve_skip`). From there the cursor stays, or
it passes what the call asks for; `serve_cases` says which, once for each call, and all else is read
off it. -/
namespace TrafficMonitor.Text

/-- The text from one place to another. -/
def slice (text : List Char) (first last : Nat) : List Char := (text.drop first).take (last - first)

end TrafficMonitor.Text

namespace TrafficMonitor.Filter
open Text

/-! ### Places in a text -/

namespace Cursor
variable {text read : List Char} {c d : Cursor}

/-- The cursor stands in the text, at its end at most, with the rest of it ahead. -/
structure In (text : List Char) (c : Cursor) : Prop where
  inside : c.position ≤ text.length
  ahead : c.rest = text.drop c.position

theorem in_start (text : List Char) : In text (start text) := ⟨Nat.zero_le _, rfl⟩

theorem Passes.le (h : c.Passes read d) : c.position ≤ d.position := by
  rw [h.position]
  exact Nat.le_add_right _ _

/-- A cursor that moves over what stands ahead stays in its text. -/
theorem Passes.inText (h : c.Passes read d) (hc : In text c) : In text d := by
  have hrest : text.drop c.position = read ++ d.rest := hc.ahead.symm.trans h.rest
  constructor
  · have hlength := congrArg List.length hrest
    have hinside := hc.inside
    rw [List.length_drop, List.length_append] at hlength
    rw [h.position]
    omega
  · rw [h.position, ← List.drop_drop, hrest, List.drop_left]

theorem Passes.slice_eq (h : c.Passes read d) (hc : In text c) :
    slice text c.position d.position = read := by
  rw [slice, ← hc.ahead, h.rest, h.position, Nat.add_sub_cancel_left, List.take_left]

/-! ### White space -/

theorem In.skip (h : In text c) : In text c.skip := by
  obtain ⟨gap, -, hpasses⟩ := c.exists_passes_skip
  exact hpasses.inText h

/-- Only white space stands before the place where a token may begin. -/
theorem In.gap_skip (h : In text c) :
    c.position ≤ c.skip.position ∧ IsGap (slice text c.position c.skip.position) := by
  obtain ⟨gap, hgap, hpasses⟩ := c.exists_passes_skip
  exact ⟨hpasses.le, by rwa [hpasses.slice_eq h]⟩

/-- What comes next behind white space is visible. -/
theorem visible_of_skip (c : Cursor) : ∀ ch ∈ c.skip.rest.head?, isBlank ch = false := by
  intro ch hch
  have hhead := List.head?_dropWhile_not isBlank c.rest
  rw [show c.rest.dropWhile isBlank = c.skip.rest from rfl, Option.mem_def.mp hch] at hhead
  simpa using hhead

@[simp] theorem skip_skip (c : Cursor) : c.skip.skip = c.skip := by
  obtain ⟨htake, hdrop⟩ := takeWhile_eq_nil c.visible_of_skip
  rw [skip, htake, hdrop]
  rfl

end Cursor

/-! ### Calls -/

/-- What can be asked of a cursor. -/
inductive Call where
  | skip
  | atEnd
  | peek (symbol : List Char)
  | accept (symbol : List Char)
  | expect (symbol : List Char)
  | identifier
  | operator
  | literal
deriving Repr, DecidableEq

/-- What a cursor answers. -/
inductive Answer where
  | done
  | truth (b : Bool)
  | token (t : Token)
  | operator (op : Operator)
  | error (e : FilterError)
deriving Repr, DecidableEq

/-- The answer no, or a failure. -/
def Answer.isRefusal : Answer → Bool
  | truth b => !b
  | error _ => true
  | _ => false

/-- A reading as an answer. -/
def Reading.answer (give : α → Answer) : Reading α → Answer × Cursor
  | (.ok a, d) => (give a, d)
  | (.error e, d) => (.error e, d)

namespace Call

/-- The shape of what a call asks for. -/
def shape : Call → List Char → Prop
  | peek symbol | accept symbol | expect symbol => (· = symbol)
  | identifier => IsName
  | operator => IsSymbol
  | literal => IsLiteral
  | skip | atEnd => fun _ => False

/-- What a call says is missing if it fails. -/
def expected? : Call → Option Expected
  | expect symbol => some (.symbol (String.ofList symbol))
  | identifier => some .fieldName
  | operator => some .operator
  | literal => some .value
  | _ => none

end Call

namespace Cursor

/-- The answer to a call and the cursor after it. -/
def serve (c : Cursor) : Call → Answer × Cursor
  | .skip => (.done, c.skip)
  | .atEnd => (.truth c.atEnd.1, c.atEnd.2)
  | .peek symbol => (.truth (c.peek symbol).1, (c.peek symbol).2)
  | .accept symbol => (.truth (c.accept symbol).1, (c.accept symbol).2)
  | .expect symbol => (c.expect symbol).answer fun _ => .done
  | .identifier => c.identifier.answer .token
  | .operator => c.operator.answer .operator
  | .literal => c.literal.answer .token

/-- The cursor after calls, whether they failed or not. -/
def after (c : Cursor) (calls : List Call) : Cursor :=
  calls.foldl (fun c call => (c.serve call).2) c

/-! ### What a call comes to -/

/-- White space ahead of the cursor does not matter. -/
theorem serve_skip (c : Cursor) (call : Call) : c.skip.serve call = c.serve call := by
  cases call <;>
    simp only [serve, atEnd, peek, accept, expect, identifier, literal, token, operator, skip_skip]

end Cursor

/-- How a call may fail where the cursor stands. That an operator is missing is said at the end of
the text only; elsewhere the word that stands there is refused. -/
inductive Call.FailsWith : Call → Cursor → FilterError → Prop where
  | missing {call : Call} {c : Cursor} {what : Expected} : call.expected? = some what →
      (what = .operator → c.rest = []) → FailsWith call c (c.missing what)
  | badOperator {c : Cursor} : junk c.rest ≠ [] →
      FailsWith .operator c (.badOperator (String.ofList (junk c.rest)))

namespace Cursor
variable {text : List Char} {c d : Cursor} {call : Call}

/-- What a call can come to: the cursor stays behind the white space, because what is asked for does
not stand there, or passes what is asked for. -/
inductive Serves (c : Cursor) (call : Call) : Answer × Cursor → Prop where
  | refused {answer : Answer} : answer.isRefusal = true →
      (∀ token, call.shape token → ¬ token <+: c.skip.rest) →
      (∀ e, answer = .error e → call.FailsWith c.skip e) → Serves c call (answer, c.skip)
  | granted {answer : Answer} {read : List Char} {d : Cursor} :
      answer = .done ∨ answer = .truth true → c.skip.Passes read d → Serves c call (answer, d)
  | token {t : Token} {d : Cursor} : t.position = c.skip.position → c.skip.Passes t.text d →
      Longest call.shape t.text c.skip.rest → Serves c call (.token t, d)
  | operator {op : Operator} {d : Cursor} : c.skip.Passes op.symbol.toList d →
      Longest call.shape op.symbol.toList c.skip.rest → Serves c call (.operator op, d)

theorem serves_truth (b : Bool)
    (h : b = false → ∀ token, call.shape token → ¬ token <+: c.skip.rest) :
    Serves c call (.truth b, c.skip) := by
  cases b with
  | true => exact .granted (Or.inr rfl) (.refl _)
  | false => exact .refused rfl (h rfl) nofun

theorem serves_accept (c : Cursor) (symbol : List Char) :
    Serves c (.accept symbol) (c.serve (.accept symbol)) := by
  rcases c.accept_cases symbol with ⟨hread, hnone⟩ | ⟨d, hread, hpasses⟩
  · rw [serve, hread]
    refine serves_truth false fun _ token htoken => ?_
    rwa [show token = symbol from htoken]
  · rw [serve, hread]
    exact .granted (Or.inr rfl) hpasses

theorem serves_expect (c : Cursor) (symbol : List Char) :
    Serves c (.expect symbol) (c.serve (.expect symbol)) := by
  rcases c.accept_cases symbol with ⟨hread, hnone⟩ | ⟨d, hread, hpasses⟩
  · rw [serve, expect, hread]
    refine .refused rfl (fun token htoken => ?_) fun e he => ?_
    · rwa [show token = symbol from htoken]
    · cases he
      refine .missing rfl fun heq => ?_
      cases heq
  · rw [serve, expect, hread]
    exact .granted (Or.inl rfl) hpasses

/-- A token is read for a call that asks for its shape. -/
theorem serves_token (call : Call) {reader : List Char → Option (List Char × List Char)}
    {what : Expected} (h : ReadsLongest call.shape reader) (hwhat : call.expected? = some what)
    (hoperator : what ≠ .operator) (c : Cursor) :
    Serves c call ((c.token reader what).answer .token) := by
  cases hread : reader c.skip.rest with
  | none =>
    have hfails : c.token reader what = (.error (c.skip.missing what), c.skip) := by
      simp only [Cursor.token, hread]
    rw [hfails]
    refine .refused rfl (fun token htoken => h.absent hread htoken) fun e he => ?_
    cases he
    exact .missing hwhat fun heq => absurd heq hoperator
  | some p =>
    obtain ⟨token, rest⟩ := p
    have htoken : c.token reader what = _ := token_of_eq hread
    obtain ⟨hplace, hpasses⟩ := passes_of_token htoken h.splits
    rw [htoken]
    exact .token hplace hpasses (h.longest hread)

/-- Where the text goes on, a word stands behind the white space. -/
theorem junk_ne_nil (h : c.skip.rest ≠ []) : junk c.skip.rest ≠ [] := by
  obtain ⟨ch, tail, hrest⟩ := List.exists_cons_of_ne_nil h
  have hvisible := c.visible_of_skip ch (by rw [hrest]; rfl)
  rw [hrest, junk, List.takeWhile_cons_of_pos (by simp [hvisible])]
  exact List.cons_ne_nil _ _

theorem serves_operator (c : Cursor) : Serves c .operator (c.serve .operator) := by
  rw [serve]
  cases hread : operator? c.skip.rest with
  | none =>
    have habsent : ∀ token, IsSymbol token → ¬ token <+: c.skip.rest := fun token htoken =>
      readsLongest_symbol.absent (by rw [hread]; rfl) htoken
    by_cases hend : c.skip.rest = []
    · have hfails : c.operator = (.error (c.skip.missing .operator), c.skip) := by
        rw [Cursor.operator, hread]
        exact if_pos (by rw [hend]; rfl)
      rw [hfails]
      refine .refused rfl habsent fun e he => ?_
      cases he
      exact .missing rfl fun _ => hend
    · have hfails : c.operator =
          (.error (.badOperator (String.ofList (junk c.skip.rest))), c.skip) := by
        rw [Cursor.operator, hread]
        exact if_neg (by simpa using hend)
      rw [hfails]
      refine .refused rfl habsent fun e he => ?_
      cases he
      exact .badOperator (junk_ne_nil hend)
  | some p =>
    obtain ⟨op, rest⟩ := p
    have hoperator : c.operator = _ := operator_of_eq hread
    have hsymbol : ((operator? c.skip.rest).map fun p => (p.1.symbol.toList, p.2)) =
        some (op.symbol.toList, rest) := by
      rw [hread]
      rfl
    rw [hoperator]
    exact .operator (passes_of_operator hoperator) (readsLongest_symbol.longest hsymbol)

theorem serve_cases (c : Cursor) (call : Call) : Serves c call (c.serve call) := by
  cases call with
  | skip => exact .granted (Or.inl rfl) (.refl _)
  | atEnd => exact serves_truth _ fun _ _ => False.elim
  | peek symbol =>
    refine serves_truth _ fun hno token htoken hfront => ?_
    rw [show token = symbol from htoken] at hfront
    exact Bool.false_ne_true (hno.symm.trans (List.isPrefixOf_iff_prefix.mpr hfront))
  | accept symbol => exact c.serves_accept symbol
  | expect symbol => exact c.serves_expect symbol
  | identifier => exact serves_token .identifier readsLongest_name rfl nofun c
  | operator => exact c.serves_operator
  | literal => exact serves_token .literal readsLongest_literal rfl nofun c

/-- Behind the white space the cursor stays or moves over what stands there. -/
theorem exists_passes_serve (c : Cursor) (call : Call) :
    ∃ read, c.skip.Passes read (c.serve call).2 := by
  cases hserve : c.serve call with
  | mk answer d =>
    have hserves := c.serve_cases call
    rw [hserve] at hserves
    cases hserves with
    | refused => exact ⟨[], .refl _⟩
    | granted _ hpasses | token _ hpasses _ | operator hpasses _ => exact ⟨_, hpasses⟩

theorem In.serve (h : In text c) (call : Call) : In text (c.serve call).2 := by
  obtain ⟨read, hpasses⟩ := c.exists_passes_serve call
  exact hpasses.inText h.skip

theorem le_serve (c : Cursor) (call : Call) : c.position ≤ (c.serve call).2.position := by
  obtain ⟨gap, -, hskip⟩ := c.exists_passes_skip
  obtain ⟨read, hpasses⟩ := c.exists_passes_serve call
  exact Nat.le_trans hskip.le hpasses.le

/-! ### Sequences of calls -/

theorem after_append (c : Cursor) (calls more : List Call) :
    c.after (calls ++ more) = (c.after calls).after more := List.foldl_append

theorem In.after (h : In text c) (calls : List Call) : In text (c.after calls) := by
  induction calls generalizing c with
  | nil => exact h
  | cons call rest ih => exact ih (h.serve call)

theorem le_after (c : Cursor) (calls : List Call) : c.position ≤ (c.after calls).position := by
  induction calls generalizing c with
  | nil => exact Nat.le_refl _
  | cons call rest ih => exact Nat.le_trans (c.le_serve call) (ih _)

end Cursor

/-- The token was read between two places: behind white space it is a piece of the text, not empty
and visible from its first character on, and no longer one at its place has the shape. -/
structure Token.IsRead (shape : List Char → Prop) (text : List Char) (first last : Nat)
    (t : Token) : Prop where
  behind : first ≤ t.position ∧ IsGap (slice text first t.position)
  eq_slice : t.text = slice text t.position last
  visible : ∃ ch tail, t.text = ch :: tail ∧ isBlank ch = false
  longest : Longest shape t.text (text.drop t.position)

namespace Cursor
variable {text : List Char} {c d : Cursor} {call : Call}

theorem isRead_of_passes {shape : List Char → Prop} {token : List Char} (hc : In text c)
    (hpasses : c.skip.Passes token d) (hlongest : Longest shape token c.skip.rest) :
    Token.IsRead shape text c.position d.position ⟨token, c.skip.position⟩ where
  behind := hc.gap_skip
  eq_slice := (hpasses.slice_eq hc.skip).symm
  visible := by
    obtain ⟨ch, tail, rfl⟩ := List.exists_cons_of_ne_nil hlongest.nonempty
    exact ⟨ch, tail, rfl, c.visible_of_skip ch (by rw [hpasses.rest]; rfl)⟩
  longest := by rwa [← hc.skip.ahead]

/-- What the answer to a call, and the cursor after it, owe to the text. -/
structure Answers (text : List Char) (c : Cursor) (call : Call) (answer : Answer) (d : Cursor) :
    Prop where
  inText : In text d
  forward : c.position ≤ d.position
  /-- Only white space is passed, and the call made again finds everything as it is. -/
  refusal : answer.isRefusal = true →
    IsGap (slice text c.position d.position) ∧ d.serve call = (answer, d) ∧
      ∀ token, call.shape token → ¬ token <+: text.drop d.position
  failure : ∀ e, answer = .error e → call.FailsWith d e
  token : ∀ t, answer = .token t → t.IsRead call.shape text c.position d.position
  operator : ∀ op, answer = .operator op → ∃ place,
    Token.IsRead call.shape text c.position d.position ⟨op.symbol.toList, place⟩

/-- A cursor that stands in a text answers as it owes to the text. -/
theorem answers_serve (hc : In text c) (call : Call) :
    Answers text c call (c.serve call).1 (c.serve call).2 := by
  have hin := hc.serve call
  have hforward := c.le_serve call
  have hagain := c.serve_skip call
  have hserves := c.serve_cases call
  generalize c.serve call = served at *
  cases hserves with
  | refused hrefusal habsent hfails =>
    refine ⟨hin, hforward, fun _ => ⟨hc.gap_skip.2, hagain, ?_⟩, hfails, ?_, ?_⟩
    · rwa [← hin.ahead]
    · rintro t rfl
      cases hrefusal
    · rintro op rfl
      cases hrefusal
  | granted hgranted hpasses =>
    rcases hgranted with rfl | rfl <;> exact ⟨hin, hforward, nofun, nofun, nofun, nofun⟩
  | @token t d hplace hpasses hlongest =>
    refine ⟨hin, hforward, nofun, nofun, ?_, nofun⟩
    rintro _ ⟨⟩
    have hread := isRead_of_passes hc hpasses hlongest
    rwa [← hplace] at hread
  | operator hpasses hlongest =>
    refine ⟨hin, hforward, nofun, nofun, nofun, ?_⟩
    rintro _ ⟨⟩
    exact ⟨_, isRead_of_passes hc hpasses hlongest⟩

/-- **A cursor answers every call as it should, whatever it was asked before.** After any calls, in
any order and also after failures, the cursor stands in its text, further calls never take it back,
and the next call is answered as `Answers` says. -/
theorem answers_after (text : List Char) (calls : List Call) :
    let c := (start text).after calls
    In text c ∧ (∀ more, c.position ≤ ((start text).after (calls ++ more)).position) ∧
      ∀ call, Answers text c call (c.serve call).1 (c.serve call).2 := by
  intro c
  have hc : In text c := (in_start text).after calls
  refine ⟨hc, fun more => ?_, fun call => answers_serve hc call⟩
  rw [after_append]
  exact c.le_after more

/-- A name and a symbol are asked for out of turn; then the operator is read whole. -/
example : (start " >= 5".toList).after [.identifier, .accept ['>', '>'], .operator] =
    ⟨3, " 5".toList⟩ := by
  decide +kernel

end Cursor

end TrafficMonitor.Filter
