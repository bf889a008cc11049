import TrafficMonitor.Filter.Parser
import TrafficMonitor.Proofs.Filter.LongestMatch

/-! What the cursor and the parser do, step by step. The cursor skips white space before every
token, so all that matters of it is `trimStart c.rest`, the text ahead; what it moves over is
said by `Cursor.Passes`. Each reader of the parser returns a proof that less text is left; here
that proof is dropped (`readTerm`, `readDisjunction` and so on), and one equation for each reader
says what it tries, in order, and how it fails. Later modules cite these equations and never
unfold the parser. -/
namespace TrafficMonitor.Filter
open Text Time

theorem bind_eq_ok {x : Except ε α} {f : α → Except ε β} {b : β} :
    (x >>= f) = .ok b ↔ ∃ a, x = .ok a ∧ f a = .ok b := by
  cases x <;> simp [bind, Except.bind]

/-! ### The cursor -/

namespace Cursor
variable {c d : Cursor} {symbol rest : List Char}

@[simp] theorem rest_skip (c : Cursor) : c.skip.rest = trimStart c.rest := rfl

theorem accept_of_eq (h : trimStart c.rest = symbol ++ rest) :
    c.accept symbol = (true, ⟨c.skip.position + symbol.length, rest⟩) := by
  unfold accept
  rw [rest_skip, h, if_pos (List.isPrefixOf_iff_prefix.mpr (List.prefix_append symbol rest)),
    List.drop_left]

theorem exists_accept (h : trimStart c.rest = symbol ++ rest) :
    ∃ d : Cursor, d.rest = rest ∧ c.accept symbol = (true, d) :=
  ⟨⟨_, rest⟩, rfl, accept_of_eq h⟩

theorem accept_of_no_match (h : ¬ symbol <+: trimStart c.rest) :
    c.accept symbol = (false, c.skip) := by
  unfold accept
  rw [rest_skip, if_neg fun hp => h (List.isPrefixOf_iff_prefix.mp hp)]

theorem eq_append_of_accept (h : c.accept symbol = (true, d)) :
    trimStart c.rest = symbol ++ d.rest := by
  by_cases hp : symbol <+: trimStart c.rest
  · obtain ⟨rest, hrest⟩ := hp
    rw [accept_of_eq hrest.symm] at h
    cases h
    exact hrest.symm
  · rw [accept_of_no_match hp] at h
    cases h

theorem expect_of_eq (h : trimStart c.rest = symbol ++ rest) :
    c.expect symbol = (.ok (), ⟨c.skip.position + symbol.length, rest⟩) := by
  simp only [expect, accept_of_eq h]

theorem eq_append_of_expect (h : c.expect symbol = (.ok (), d)) :
    trimStart c.rest = symbol ++ d.rest := by
  unfold expect at h
  split at h
  · rename_i ha
    cases h
    exact eq_append_of_accept ha
  · cases h

theorem token_of_eq {shape : List Char → Option (List Char × List Char)} {what : Expected}
    {text : List Char} (h : shape (trimStart c.rest) = some (text, rest)) :
    c.token shape what =
      (.ok ⟨text, c.skip.position⟩, ⟨c.skip.position + text.length, rest⟩) := by
  simp only [token, rest_skip, h]

theorem shape_of_token {shape : List Char → Option (List Char × List Char)} {what : Expected}
    {t : Token} (h : c.token shape what = (.ok t, d)) :
    shape (trimStart c.rest) = some (t.text, d.rest) := by
  unfold token at h
  split at h
  · rename_i text rest hs
    cases h
    exact hs
  · cases h

theorem operator_of_eq {op : Operator} (h : operator? (trimStart c.rest) = some (op, rest)) :
    c.operator = (.ok op, ⟨c.skip.position + op.symbol.length, rest⟩) := by
  simp only [operator, rest_skip, h]

theorem operator?_of_operator {op : Operator} (h : c.operator = (.ok op, d)) :
    operator? (trimStart c.rest) = some (op, d.rest) := by
  unfold operator at h
  split at h
  · rename_i op rest ho
    cases h
    exact ho
  · split at h <;> cases h

/-! ### What a cursor passes -/

/-- Between two cursors of one text stand the characters. -/
structure Passes (c : Cursor) (read : List Char) (d : Cursor) : Prop where
  rest : c.rest = read ++ d.rest
  position : d.position = c.position + read.length

theorem Passes.refl (c : Cursor) : c.Passes [] c := ⟨rfl, rfl⟩

theorem exists_passes_skip (c : Cursor) : ∃ gap, IsGap gap ∧ c.Passes gap c.skip :=
  ⟨c.rest.takeWhile isBlank, fun _ hc => List.all_eq_true.mp List.all_takeWhile _ hc,
    List.takeWhile_append_dropWhile.symm, rfl⟩

/-- A symbol is passed if it stands behind the white space. -/
theorem accept_cases (c : Cursor) (symbol : List Char) :
    (c.accept symbol = (false, c.skip) ∧ ¬ symbol <+: c.skip.rest) ∨
      ∃ d, c.accept symbol = (true, d) ∧ c.skip.Passes symbol d := by
  by_cases hfront : symbol <+: c.skip.rest
  · obtain ⟨rest, hrest⟩ := hfront
    exact Or.inr ⟨_, accept_of_eq hrest.symm, hrest.symm, rfl⟩
  · exact Or.inl ⟨accept_of_no_match hfront, hfront⟩

theorem passes_of_token {shape : List Char → Option (List Char × List Char)} {what : Expected}
    {t : Token} (h : c.token shape what = (.ok t, d))
    (hs : ∀ {cs token rest}, shape cs = some (token, rest) → Splits token rest cs) :
    t.position = c.skip.position ∧ c.skip.Passes t.text d := by
  unfold token at h
  split at h
  · rename_i text rest hshape
    cases h
    exact ⟨rfl, (hs hshape).1.symm, rfl⟩
  · cases h

theorem passes_of_operator {op : Operator} (h : c.operator = (.ok op, d)) :
    c.skip.Passes op.symbol.toList d := by
  unfold operator at h
  split at h
  · rename_i op rest hsymbol
    cases h
    exact ⟨(splits_of_operator? hsymbol).1.symm, by rw [String.length_toList]⟩
  · split at h <;> cases h

end Cursor

/-! ### The parser -/

namespace Parser

/-- What a reader found: a filter and the cursor behind it. -/
abbrev Outcome := Except CompileError (Filter × Cursor)

/-- Reads a symbol that must come next. -/
def require (symbol : List Char) (c : Cursor) : Except CompileError Cursor :=
  match c.expect symbol with
  | (.ok (), d) => .ok d
  | (.error e, _) => .error (.filter e)

theorem require_of_eq {c : Cursor} {symbol rest : List Char}
    (h : trimStart c.rest = symbol ++ rest) :
    require symbol c = .ok ⟨c.skip.position + symbol.length, rest⟩ := by
  simp only [require, Cursor.expect_of_eq h]

theorem eq_append_of_require {c d : Cursor} {symbol : List Char} (h : require symbol c = .ok d) :
    trimStart c.rest = symbol ++ d.rest := by
  unfold require at h
  split at h
  · rename_i he
    cases h
    exact Cursor.eq_append_of_expect he
  · cases h

theorem require_length_lt {c d : Cursor} {symbol : List Char} (h : require symbol c = .ok d)
    (hs : symbol ≠ []) : d.rest.length < c.rest.length := by
  unfold require at h
  split at h
  · rename_i he
    cases h
    exact Cursor.expect_length_lt he hs
  · cases h

variable (zone : Zone)

def readComparison (c : Cursor) : Outcome := (comparison zone c).map fun p => (p.filter, p.next)

def readTerm (c : Cursor) : Outcome := (term zone c).map fun p => (p.filter, p.next)

def readConjunction (c : Cursor) : Outcome := (conjunction zone c).map fun p => (p.filter, p.next)

def readDisjunction (c : Cursor) : Outcome := (disjunction zone c).map fun p => (p.filter, p.next)

/-- The further terms of a conjunction that begins with `f`. -/
def readTerms (f : Filter) (c : Cursor) : Outcome :=
  (conjunctionRest zone f c).map fun p => (p.filter, p.next)

/-- The further conjunctions of a disjunction that begins with `f`. -/
def readConjunctions (f : Filter) (c : Cursor) : Outcome :=
  (disjunctionRest zone f c).map fun p => (p.filter, p.next)

theorem readComparison_eq (c : Cursor) : readComparison zone c =
    match c.identifier with
    | (.error e, _) => .error (.filter e)
    | (.ok name, c₁) =>
      match Field.ofAlias? (String.ofList name.text) with
      | none => .error (.filter (.unknownField (String.ofList name.text)))
      | some field =>
        match c₁.operator with
        | (.error e, _) => .error (.filter e)
        | (.ok op, c₂) =>
          match c₂.literal with
          | (.error e, _) => .error (.filter e)
          | (.ok token, c₃) =>
            field.literalKind.parse zone token.text >>= fun value =>
              if field.supports op then .ok (.leaf ⟨field, op, value⟩, c₃)
              else .error (.filter (.unsupportedOperator (String.ofList name.text) op)) := by
  rw [readComparison]
  generalize hr : comparison zone c = r
  rw [comparison] at hr
  repeat' split at hr
  all_goals subst hr
  all_goals simp only [*, Except.map, bind, Except.bind, if_true]
  all_goals rfl

theorem readTerm_eq (c : Cursor) : readTerm zone c =
    match c.accept ['('] with
    | (true, c₁) => do
      let p ← readDisjunction zone c₁
      let c₂ ← require [')'] p.2
      return (p.1, c₂)
    | (false, _) =>
      match c.accept ['!'] with
      | (true, c₁) => do
        let c₂ ← require ['('] c₁
        let p ← readDisjunction zone c₂
        let c₃ ← require [')'] p.2
        return (.not p.1, c₃)
      | (false, _) => readComparison zone c := by
  rw [readTerm]
  generalize hr : term zone c = r
  rw [term] at hr
  split at hr
  · rename_i c₁ ho
    simp only [ho, readDisjunction, require]
    split at hr
    · rename_i hd
      subst hr
      simp only [hd]
      rfl
    · rename_i hd
      simp only [hd]
      split at hr
      · rename_i hc
        subst hr
        simp only [hc, Except.map, bind, Except.bind]
      · rename_i hc
        subst hr
        simp only [hc, Except.map, bind, Except.bind]
        rfl
  · rename_i ho
    simp only [ho]
    split at hr
    · rename_i c₁ hn
      simp only [hn, readDisjunction, require]
      split at hr
      · rename_i hp
        subst hr
        simp only [hp]
        rfl
      · rename_i c₂ hp
        simp only [hp, bind, Except.bind]
        split at hr
        · rename_i hd
          subst hr
          simp only [hd]
          rfl
        · rename_i hd
          simp only [hd]
          split at hr
          · rename_i hc
            subst hr
            simp only [hc, Except.map]
          · rename_i hc
            subst hr
            simp only [hc, Except.map]
            rfl
    · rename_i hn
      subst hr
      simp only [hn]
      rfl

theorem readConjunction_eq (c : Cursor) :
    readConjunction zone c = readTerm zone c >>= fun p => readTerms zone p.1 p.2 := by
  rw [readConjunction]
  generalize hr : conjunction zone c = r
  rw [conjunction] at hr
  simp only [readTerm, readTerms]
  split at hr
  · rename_i ht
    subst hr
    simp only [ht]
    rfl
  · rename_i ht
    simp only [ht]
    split at hr <;> rename_i hm <;> subst hr <;> simp only [hm, Except.map, bind, Except.bind]

theorem readTerms_eq (f : Filter) (c : Cursor) : readTerms zone f c =
    match c.accept ['&', '&'] with
    | (true, c₁) => readTerm zone c₁ >>= fun p => readTerms zone (.and f p.1) p.2
    | (false, _) => .ok (f, c.skip) := by
  rw [readTerms]
  generalize hr : conjunctionRest zone f c = r
  rw [conjunctionRest] at hr
  split at hr
  · rename_i c₁ ha
    simp only [ha, readTerm, readTerms]
    split at hr
    · rename_i ht
      subst hr
      simp only [ht]
      rfl
    · rename_i ht
      simp only [ht]
      split at hr <;> rename_i hm <;> subst hr <;> simp only [hm, Except.map, bind, Except.bind]
  · rename_i ha
    subst hr
    simp only [ha]
    rfl

theorem readDisjunction_eq (c : Cursor) :
    readDisjunction zone c = readConjunction zone c >>= fun p => readConjunctions zone p.1 p.2 := by
  rw [readDisjunction]
  generalize hr : disjunction zone c = r
  rw [disjunction] at hr
  simp only [readConjunction, readConjunctions]
  split at hr
  · rename_i ht
    subst hr
    simp only [ht]
    rfl
  · rename_i ht
    simp only [ht]
    split at hr <;> rename_i hm <;> subst hr <;> simp only [hm, Except.map, bind, Except.bind]

theorem readConjunctions_eq (f : Filter) (c : Cursor) : readConjunctions zone f c =
    match c.accept ['|', '|'] with
    | (true, c₁) => readConjunction zone c₁ >>= fun p => readConjunctions zone (.or f p.1) p.2
    | (false, _) => .ok (f, c.skip) := by
  rw [readConjunctions]
  generalize hr : disjunctionRest zone f c = r
  rw [disjunctionRest] at hr
  split at hr
  · rename_i c₁ ha
    simp only [ha, readConjunction, readConjunctions]
    split at hr
    · rename_i ht
      subst hr
      simp only [ht]
      rfl
    · rename_i ht
      simp only [ht]
      split at hr <;> rename_i hm <;> subst hr <;> simp only [hm, Except.map, bind, Except.bind]
  · rename_i ha
    subst hr
    simp only [ha]
    rfl

/-! ### Readings get on -/

theorem length_lt_of_parsed {c d : Cursor} {f : Filter} {r : Except CompileError (Parsed c)}
    (h : (r.map fun p => (p.filter, p.next)) = .ok (f, d)) : d.rest.length < c.rest.length := by
  cases r with
  | error e => cases h
  | ok p =>
    cases h
    exact p.shorter

theorem readTerm_shorter {c d : Cursor} {f : Filter} (h : readTerm zone c = .ok (f, d)) :
    d.rest.length < c.rest.length := length_lt_of_parsed h

theorem readConjunction_shorter {c d : Cursor} {f : Filter}
    (h : readConjunction zone c = .ok (f, d)) : d.rest.length < c.rest.length :=
  length_lt_of_parsed h

theorem readDisjunction_shorter {c d : Cursor} {f : Filter}
    (h : readDisjunction zone c = .ok (f, d)) : d.rest.length < c.rest.length :=
  length_lt_of_parsed h

end Parser

/-- The whole text is read, and nothing but white space may be left of it. -/
theorem parse_eq (zone : Zone) (text : List Char) : parse zone text =
    if (trimStart text).isEmpty then .error (.filter .empty)
    else
      Parser.readDisjunction zone (.start text) >>= fun p =>
        if (trimStart p.2.rest).isEmpty then .ok p.1
        else .error (.filter (.trailing p.2.skip.glimpse p.2.skip.position)) := by
  by_cases hempty : (trimStart text).isEmpty
  · rw [if_pos hempty]
    exact if_pos hempty
  · rw [if_neg hempty]
    refine (if_neg hempty).trans ?_
    simp only [Parser.readDisjunction]
    cases Parser.disjunction zone (.start text) with
    | error e => rfl
    | ok p => rfl

end TrafficMonitor.Filter
