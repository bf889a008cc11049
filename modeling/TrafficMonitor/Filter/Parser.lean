import TrafficMonitor.Filter.Cursor
import TrafficMonitor.Filter.Formula
import TrafficMonitor.Filter.Literal

/-! From text to filter. The grammar, loosest first, is

    disjunction := conjunction ('||' conjunction)*
    conjunction := term ('&&' term)*
    term        := '(' disjunction ')' | '!' '(' disjunction ')' | comparison
    comparison  := field operator literal

and both chains fold to the left. Every reader returns the cursor behind what it read together
with a proof that less text is left, which is why the recursion ends. -/
namespace TrafficMonitor.Filter
open Time

/-- A filter that was read, and the cursor behind it with less text left. -/
@[ext] structure Parsed (before : Cursor) where
  filter : Filter
  next : Cursor
  shorter : next.rest.length < before.rest.length

/-- A filter that was read on, and the cursor behind it with no more text left. -/
@[ext] structure Continued (before : Cursor) where
  filter : Filter
  next : Cursor
  noLonger : next.rest.length ≤ before.rest.length

namespace Parser

/-- Reads a comparison. The literal is judged before the operator. -/
def comparison (zone : Zone) (c : Cursor) : Except CompileError (Parsed c) :=
  match hi : c.identifier with
  | (.error e, _) => .error (.filter e)
  | (.ok name, c₁) =>
    match Field.ofAlias? (String.ofList name.text) with
    | none => .error (.filter (.unknownField (String.ofList name.text)))
    | some field =>
      match ho : c₁.operator with
      | (.error e, _) => .error (.filter e)
      | (.ok op, c₂) =>
        match hl : c₂.literal with
        | (.error e, _) => .error (.filter e)
        | (.ok token, c₃) =>
          match field.literalKind.parse zone token.text with
          | .error e => .error e
          | .ok value =>
            if field.supports op then
              .ok ⟨.leaf ⟨field, op, value⟩, c₃,
                Nat.lt_trans (Cursor.literal_length_lt hl)
                  (Nat.lt_trans (Cursor.operator_length_lt ho) (Cursor.identifier_length_lt hi))⟩
            else .error (.filter (.unsupportedOperator (String.ofList name.text) op))

mutual

/-- Reads what stands in parentheses, is negated, or is a comparison. -/
def term (zone : Zone) (c : Cursor) : Except CompileError (Parsed c) :=
  match ho : c.accept ['('] with
  | (true, c₁) =>
    have h₁ := Cursor.accept_length_lt ho (by simp)
    match disjunction zone c₁ with
    | .error e => .error e
    | .ok ⟨f, c₂, h₂⟩ =>
      match hc : c₂.expect [')'] with
      | (.error e, _) => .error (.filter e)
      | (.ok (), c₃) =>
        have h₃ := Cursor.expect_length_lt hc (by simp)
        .ok ⟨f, c₃, by omega⟩
  | (false, _) =>
    match hn : c.accept ['!'] with
    | (true, c₁) =>
      have h₁ := Cursor.accept_length_lt hn (by simp)
      match ho : c₁.expect ['('] with
      | (.error e, _) => .error (.filter e)
      | (.ok (), c₂) =>
        have h₂ := Cursor.expect_length_lt ho (by simp)
        match disjunction zone c₂ with
        | .error e => .error e
        | .ok ⟨f, c₃, h₃⟩ =>
          match hc : c₃.expect [')'] with
          | (.error e, _) => .error (.filter e)
          | (.ok (), c₄) =>
            have h₄ := Cursor.expect_length_lt hc (by simp)
            .ok ⟨.not f, c₄, by omega⟩
    | (false, _) => comparison zone c
termination_by (c.rest.length, 0)

/-- Reads terms joined by `&&`. -/
def conjunction (zone : Zone) (c : Cursor) : Except CompileError (Parsed c) :=
  match term zone c with
  | .error e => .error e
  | .ok ⟨f, c₁, h₁⟩ =>
    match conjunctionRest zone f c₁ with
    | .error e => .error e
    | .ok ⟨g, c₂, h₂⟩ => .ok ⟨g, c₂, by omega⟩
termination_by (c.rest.length, 1)

/-- Reads the further terms of a conjunction that begins with `f`. -/
def conjunctionRest (zone : Zone) (f : Filter) (c : Cursor) : Except CompileError (Continued c) :=
  match ha : c.accept ['&', '&'] with
  | (true, c₁) =>
    have h₁ := Cursor.accept_length_lt ha (by simp)
    match term zone c₁ with
    | .error e => .error e
    | .ok ⟨g, c₂, h₂⟩ =>
      match conjunctionRest zone (.and f g) c₂ with
      | .error e => .error e
      | .ok ⟨r, c₃, h₃⟩ => .ok ⟨r, c₃, by omega⟩
  | (false, _) => .ok ⟨f, c.skip, c.skip_length_le⟩
termination_by (c.rest.length, 1)

/-- Reads conjunctions joined by `||`. -/
def disjunction (zone : Zone) (c : Cursor) : Except CompileError (Parsed c) :=
  match conjunction zone c with
  | .error e => .error e
  | .ok ⟨f, c₁, h₁⟩ =>
    match disjunctionRest zone f c₁ with
    | .error e => .error e
    | .ok ⟨g, c₂, h₂⟩ => .ok ⟨g, c₂, by omega⟩
termination_by (c.rest.length, 2)

/-- Reads the further conjunctions of a disjunction that begins with `f`. -/
def disjunctionRest (zone : Zone) (f : Filter) (c : Cursor) : Except CompileError (Continued c) :=
  match ha : c.accept ['|', '|'] with
  | (true, c₁) =>
    have h₁ := Cursor.accept_length_lt ha (by simp)
    match conjunction zone c₁ with
    | .error e => .error e
    | .ok ⟨g, c₂, h₂⟩ =>
      match disjunctionRest zone (.or f g) c₂ with
      | .error e => .error e
      | .ok ⟨r, c₃, h₃⟩ => .ok ⟨r, c₃, by omega⟩
  | (false, _) => .ok ⟨f, c.skip, c.skip_length_le⟩
termination_by (c.rest.length, 2)

end

end Parser

/-- The filter of a whole text. -/
def parse (zone : Zone) (text : List Char) : Except CompileError Filter :=
  let c := Cursor.start text
  if c.atEnd.1 then .error (.filter .empty)
  else
    match Parser.disjunction zone c with
    | .error e => .error e
    | .ok ⟨f, c, _⟩ =>
      if c.atEnd.1 then .ok f
      else .error (.filter (.trailing c.skip.glimpse c.skip.position))

end TrafficMonitor.Filter
