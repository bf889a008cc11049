import TrafficMonitor.Command.CheckFilter
import TrafficMonitor.Proofs.Filter.Recognition

/-! Numerals that are too long to be read. All failures of the parser are errors of the filter
language but one: a port or a length that is written with more digits than `digitLimit` ends the
reading with an error of its own. `reported_iff_no_overlong` says at which texts. A comparison with
such a numeral must stand in the text, and the reading must get to it: what stands before it is a
beginning of a filter (`Reaches`). What stands behind it does not matter, for the reading ends
there.

From the text to the failure, the induction is on how the reading gets there; from the failure to
the text, it is on how much text is left, as for the filters that are read. -/
namespace TrafficMonitor.Filter
open Text Time

theorem bind_eq_error {x : Except ε α} {f : α → Except ε β} {e : ε} :
    (x >>= f) = .error e ↔ x = .error e ∨ ∃ a, x = .ok a ∧ f a = .error e := by
  cases x <;> simp [bind, Except.bind]

/-! ### Where such a numeral stands -/

/-- The kinds of literals that are numerals. -/
def LiteralKind.IsNumeral (kind : LiteralKind) : Prop := kind = .port ∨ kind = .length

/-- A text begins with a comparison of a port or a length with a numeral that has `n` digits, more
than can be read. The operator need not be one that the field supports, for the literal is judged
first. -/
structure BeginsOverlong (text : List Char) (n : Nat) (field : Field) (name : String)
    (op : Operator) (digits rest : List Char) : Prop where
  spells : Spells text [.name name, .operator op] (digits ++ rest)
  named : name ∈ field.aliases
  kind : field.literalKind.IsNumeral
  /-- The literal ends with the digits. -/
  whole : literal? (digits ++ rest) = some (digits, rest)
  ascii : digits.all isAsciiDigit = true
  length : digits.length = n
  limit : digitLimit < n

/-- Behind white space a text begins with a comparison with a numeral of `n` digits, too many. -/
def Overlong (text : List Char) (n : Nat) : Prop :=
  ∃ field name op digits rest, BeginsOverlong text n field name op digits rest

/-- Behind these lexemes a reading at the level comes to a term, with everything before it read. -/
inductive Reaches (zone : Zone) : Level → List Lexeme → Prop where
  | here : Reaches zone .term []
  | group {before} : Reaches zone .disjunction before → Reaches zone .term ([.opening] ++ before)
  | not {before} : Reaches zone .disjunction before →
      Reaches zone .term ([.negation, .opening] ++ before)
  | ofTerm {before} : Reaches zone .term before → Reaches zone .conjunction before
  | and {left f before} : Derives zone .conjunction left f → Reaches zone .term before →
      Reaches zone .conjunction (left ++ [.both] ++ before)
  | ofConjunction {before} : Reaches zone .conjunction before → Reaches zone .disjunction before
  | or {left f before} : Derives zone .disjunction left f → Reaches zone .conjunction before →
      Reaches zone .disjunction (left ++ [.either] ++ before)

/-- A reading of the text at the level comes to a numeral of `n` digits, too many. -/
def Meets (zone : Zone) (level : Level) (text : List Char) (n : Nat) : Prop :=
  ∃ before mid, Reaches zone level before ∧ Spells text before mid ∧ Overlong mid n

/-- A row of digits is too long if it has more than the limit. -/
theorem numeral_eq_numeralTooLong_iff {text : List Char} {n : Nat} :
    numeral text = .error (.numeralTooLong n) ↔
      text.all isAsciiDigit = true ∧ text.length = n ∧ digitLimit < n := by
  unfold numeral
  split
  · rename_i hbad
    simp only [Except.error.injEq, reduceCtorEq, false_iff]
    rintro ⟨hall, rfl, hlimit⟩
    cases text with
    | nil => exact absurd hlimit (by decide)
    | cons c text => simp [hall] at hbad
  · rename_i hgood
    have hall : text.all isAsciiDigit = true := by simp_all
    split
    · rename_i hlimit
      simp only [Except.error.injEq, CompileError.numeralTooLong.injEq, hall, true_and]
      exact ⟨fun h => ⟨h, h ▸ hlimit⟩, fun h => h.1⟩
    · rename_i hlimit
      simp only [reduceCtorEq, false_iff]
      rintro ⟨-, rfl, h⟩
      exact hlimit h

/-- Only numerals can be too long. -/
theorem LiteralKind.parse_eq_numeralTooLong_iff {zone : Zone} {kind : LiteralKind}
    {text : List Char} {n : Nat} : kind.parse zone text = .error (.numeralTooLong n) ↔
      kind.IsNumeral ∧ text.all isAsciiDigit = true ∧ text.length = n ∧ digitLimit < n := by
  have hor : ∀ value : Option Value,
      value.elim (.error (.filter (.badLiteral (String.ofList text)))) .ok ≠
        (.error (.numeralTooLong n) : Except CompileError Value) := by
    intro value
    cases value <;> simp
  cases kind with
  | time | address | transport | application =>
    simp only [parse, IsNumeral, reduceCtorEq, or_false, false_and, iff_false]
    exact hor _
  | port =>
    have hport : ∀ m : Nat, (if 65535 < m then .error (.filter (.badLiteral (String.ofList text)))
        else .ok (.number m)) ≠ (.error (.numeralTooLong n) : Except CompileError Value) := by
      intro m
      split <;> simp
    simp only [parse, bind_eq_error, numeral_eq_numeralTooLong_iff, IsNumeral, true_or, true_and,
      hport, and_false, exists_false, or_false]
  | length =>
    simp only [parse, bind_eq_error, numeral_eq_numeralTooLong_iff, IsNumeral, or_true, true_and,
      pure, Except.pure, reduceCtorEq, and_false, exists_false, or_false]

/-- The numeral comes next behind the operator. -/
theorem BeginsOverlong.trimStart_eq {text digits rest mid : List Char} {n : Nat} {field : Field}
    {name : String} {op : Operator} (h : BeginsOverlong text n field name op digits rest)
    (hmid : Spells mid [] (digits ++ rest)) : trimStart mid = digits ++ rest := by
  have hwritten : (Lexeme.literal digits).IsWritten := isLiteral_of_literal? h.whole
  obtain ⟨c, hc, hblank⟩ := hwritten.exists_head
  obtain ⟨tail, htail⟩ := List.head?_eq_some_iff.mp hc
  rw [hmid.trimStart_nil, show digits = c :: tail from htail, List.cons_append,
    trimStart_cons hblank]

namespace Parser
variable {zone : Zone} {c d : Cursor} {f g : Filter} {text rest mid : List Char} {n : Nat}
  {before tokens : List Lexeme}

/-! ### From the numeral to the failure -/

theorem readComparison_of_overlong (hc : trimStart c.rest = trimStart text)
    (h : Overlong text n) : readComparison zone c = .error (.numeralTooLong n) := by
  obtain ⟨field, name, op, digits, rest, h⟩ := h
  have hlit := isLiteral_of_literal? h.whole
  obtain ⟨c₁, c₂, hread₁, hread₂, hmid⟩ := exists_operator h.named hc h.spells
    fun _ hmid => head_ne_eq hlit (.one (h.trimStart_eq hmid))
  have hread₃ : c₂.literal =
      (.ok ⟨digits, c₂.skip.position⟩, ⟨c₂.skip.position + digits.length, rest⟩) := by
    refine Cursor.token_of_eq ?_
    rw [h.trimStart_eq hmid]
    exact h.whole
  have hvalue : field.literalKind.parse zone digits = .error (.numeralTooLong n) :=
    LiteralKind.parse_eq_numeralTooLong_iff.mpr ⟨h.kind, h.ascii, h.length, h.limit⟩
  rw [readComparison_eq]
  simp only [hread₁, String.ofList_toList, Field.ofAlias?_eq_some_iff.mpr h.named, hread₂, hread₃,
    hvalue, bind, Except.bind]

/-- What a reader at a level returns. -/
def outcome (zone : Zone) (c : Cursor) : Level → Outcome
  | .term => readTerm zone c
  | .conjunction => readConjunction zone c
  | .disjunction => readDisjunction zone c

/-- **A reading that comes to such a numeral fails.** -/
theorem outcome_of_reaches {level : Level} (h : Reaches zone level before)
    (hc : trimStart c.rest = trimStart text) (hs : Spells text before mid) (hn : Overlong mid n) :
    outcome zone c level = .error (.numeralTooLong n) := by
  induction h generalizing c text with
  | here =>
    have hmid := hs.trimStart_nil
    obtain ⟨field, name, op, digits, rest, hbegins⟩ := id hn
    have hisName := Field.isName_of_mem_aliases hbegins.named
    obtain ⟨tail, htrim, -⟩ := hbegins.spells.begins hisName
    have hmark : ∀ mark, isWord mark = false → ¬ [mark] <+: trimStart c.rest := by
      intro mark hmark
      rw [hc, hmid, htrim]
      exact not_prefix_of_isName hisName hmark
    show readTerm zone c = _
    rw [readTerm_eq, Cursor.accept_of_no_match (hmark '(' (by decide +kernel)),
      Cursor.accept_of_no_match (hmark '!' (by decide +kernel))]
    exact readComparison_of_overlong (hc.trans hmid) hn
  | group _ ih =>
    obtain ⟨mid₁, h₁, hmid₁⟩ := hs.begins trivial
    obtain ⟨c₁, rfl, haccept⟩ := Cursor.exists_accept (hc.trans h₁)
    have hread : readDisjunction zone c₁ = _ := ih rfl hmid₁
    show readTerm zone c = _
    rw [readTerm_eq, show c.accept ['('] = _ from haccept]
    simp only [hread, bind, Except.bind]
  | not _ ih =>
    obtain ⟨mid₁, h₁, hmid₁⟩ := hs.begins trivial
    obtain ⟨mid₂, h₂, hmid₂⟩ := hmid₁.begins trivial
    rw [← hc] at h₁
    obtain ⟨c₁, rfl, haccept⟩ := Cursor.exists_accept h₁
    obtain ⟨c₂, rfl, hopen⟩ : ∃ c₂ : Cursor, c₂.rest = mid₂ ∧ require ['('] c₁ = .ok c₂ :=
      ⟨⟨_, mid₂⟩, rfl, require_of_eq h₂⟩
    have hread : readDisjunction zone c₂ = _ := ih rfl hmid₂
    show readTerm zone c = _
    rw [readTerm_eq, Cursor.accept_of_no_match (by rw [h₁]; simp [Lexeme.text]),
      show c.accept ['!'] = _ from haccept]
    simp only [hopen, hread, bind, Except.bind]
  | ofTerm _ ih =>
    have hread : readTerm zone c = _ := ih hc hs
    show readConjunction zone c = _
    rw [readConjunction_eq, hread]
    rfl
  | and hleft _ ih =>
    obtain ⟨mid₁, hmid₁, hs⟩ := (List.append_assoc .. ▸ hs).split
    obtain ⟨mid₂, h₂, hmid₂⟩ := hs.begins trivial
    obtain ⟨d, hd, hread⟩ := areRead_of_derives hleft hc hmid₁
      (stops_of_head h₂ (Or.inr (Or.inl rfl)) fun h => by cases h)
    obtain ⟨c₁, rfl, haccept⟩ := Cursor.exists_accept (hd.trans h₂)
    have hterm : readTerm zone c₁ = _ := ih rfl hmid₂
    show readConjunction zone c = _
    rw [hread, readTerms_eq, show d.accept ['&', '&'] = _ from haccept]
    simp only [hterm, bind, Except.bind]
  | ofConjunction _ ih =>
    have hread : readConjunction zone c = _ := ih hc hs
    show readDisjunction zone c = _
    rw [readDisjunction_eq, hread]
    rfl
  | or hleft _ ih =>
    obtain ⟨mid₁, hmid₁, hs⟩ := (List.append_assoc .. ▸ hs).split
    obtain ⟨mid₂, h₂, hmid₂⟩ := hs.begins trivial
    obtain ⟨d, hd, hread⟩ := areRead_of_derives hleft hc hmid₁
      (stops_of_head h₂ (Or.inr (Or.inr rfl)) fun _ => by decide)
    obtain ⟨c₁, rfl, haccept⟩ := Cursor.exists_accept (hd.trans h₂)
    have hconjunction : readConjunction zone c₁ = _ := ih rfl hmid₂
    show readDisjunction zone c = _
    rw [hread, readConjunctions_eq, show d.accept ['|', '|'] = _ from haccept]
    simp only [hconjunction, bind, Except.bind]

/-! ### From the failure to the numeral -/

theorem overlong_of_readComparison (h : readComparison zone c = .error (.numeralTooLong n)) :
    Overlong c.rest n := by
  rw [readComparison_eq] at h
  split at h
  · cases h
  · rename_i name c₁ hname
    split at h
    · cases h
    · rename_i field hfield
      split at h
      · cases h
      · rename_i op c₂ hop
        split at h
        · cases h
        · rename_i token c₃ hlit
          rcases bind_eq_error.mp h with hvalue | ⟨value, -, h⟩
          · have hname' := Cursor.shape_of_token hname
            have hlit' := Cursor.shape_of_token hlit
            obtain ⟨hkind, hascii, hlength, hlimit⟩ :=
              LiteralKind.parse_eq_numeralTooLong_iff.mp hvalue
            have h₁ : Spells c.rest [.name (String.ofList name.text)] c₁.rest :=
              .one (by rw [Lexeme.text, String.toList_ofList, (splits_of_name? hname').1])
            have h₂ : Spells c₁.rest [.operator op] c₂.rest :=
              .one (splits_of_operator? (Cursor.operator?_of_operator hop)).1.symm
            have hsplit := (splits_of_literal? hlit').1
            refine ⟨field, String.ofList name.text, op, token.text, c₃.rest, ?_,
              Field.ofAlias?_eq_some_iff.mp hfield, hkind, by rw [hsplit]; exact hlit', hascii,
              hlength, hlimit⟩
            have h₃ := (h₁.append h₂).append (.of_trimStart hsplit.symm)
            rwa [List.append_nil] at h₃
          · split at h <;> cases h

/-- Whatever reading of a term at the cursor fails so comes to such a numeral. -/
def TermMeets (zone : Zone) (c : Cursor) : Prop :=
  ∀ n, readTerm zone c = .error (.numeralTooLong n) → Meets zone .term c.rest n

/-- A reading goes on behind a part of a filter that was read. -/
theorem meets_behind {level level' : Level} {mark : Lexeme} {left : List Lexeme}
    (hs : Spells text left c.rest) (hmark : Spells c.rest [mark] d.rest)
    (hreach : ∀ {before}, Reaches zone level before →
      Reaches zone level' (left ++ [mark] ++ before))
    (h : Meets zone level d.rest n) : Meets zone level' text n := by
  obtain ⟨before, mid, hbefore, hspells, hn⟩ := h
  exact ⟨_, mid, hreach hbefore, (hs.append hmark).append hspells, hn⟩

/-- The loop over terms fails so in the next term or behind it. -/
theorem meets_of_readTerms {k : Nat} (hmeets : ∀ c, c.rest.length ≤ k → TermMeets zone c)
    (hk : c.rest.length ≤ k) (hs : Spells text tokens c.rest)
    (hf : Derives zone .conjunction tokens f)
    (h : readTerms zone f c = .error (.numeralTooLong n)) : Meets zone .conjunction text n := by
  induction hlen : c.rest.length using Nat.strongRecOn generalizing c f tokens with
  | ind len ih =>
    subst hlen
    rw [readTerms_eq] at h
    split at h
    · rename_i c₁ haccept
      have hlt₁ := Cursor.accept_length_lt haccept (by simp)
      have hboth : Spells c.rest [.both] c₁.rest := .one (Cursor.eq_append_of_accept haccept)
      rcases bind_eq_error.mp h with hterm | ⟨⟨g, c₂⟩, hterm, h⟩
      · exact meets_behind hs hboth (.and hf) (hmeets c₁ (by omega) n hterm)
      · have hlt₂ := readTerm_shorter zone hterm
        obtain ⟨right, hright, hg⟩ := termSound zone c₁ g c₂ hterm
        exact ih _ (Nat.lt_trans hlt₂ hlt₁) (by omega) ((hs.append hboth).append hright)
          (.and hf hg) h rfl
    · cases h

theorem meets_of_readConjunction {k : Nat} (hmeets : ∀ c, c.rest.length ≤ k → TermMeets zone c)
    (hk : c.rest.length ≤ k) (h : readConjunction zone c = .error (.numeralTooLong n)) :
    Meets zone .conjunction c.rest n := by
  rw [readConjunction_eq] at h
  rcases bind_eq_error.mp h with hterm | ⟨⟨g, c₁⟩, hterm, h⟩
  · obtain ⟨before, mid, hbefore, hmid⟩ := hmeets c hk n hterm
    exact ⟨before, mid, .ofTerm hbefore, hmid⟩
  · have hlt := readTerm_shorter zone hterm
    obtain ⟨tokens, hs, hg⟩ := termSound zone c g c₁ hterm
    exact meets_of_readTerms hmeets (by omega) hs (.ofTerm hg) h

/-- The loop over conjunctions fails so in the next conjunction or behind it. -/
theorem meets_of_readConjunctions {k : Nat} (hmeets : ∀ c, c.rest.length ≤ k → TermMeets zone c)
    (hk : c.rest.length ≤ k) (hs : Spells text tokens c.rest)
    (hf : Derives zone .disjunction tokens f)
    (h : readConjunctions zone f c = .error (.numeralTooLong n)) :
    Meets zone .disjunction text n := by
  induction hlen : c.rest.length using Nat.strongRecOn generalizing c f tokens with
  | ind len ih =>
    subst hlen
    rw [readConjunctions_eq] at h
    split at h
    · rename_i c₁ haccept
      have hlt₁ := Cursor.accept_length_lt haccept (by simp)
      have heither : Spells c.rest [.either] c₁.rest := .one (Cursor.eq_append_of_accept haccept)
      rcases bind_eq_error.mp h with hconjunction | ⟨⟨g, c₂⟩, hconjunction, h⟩
      · exact meets_behind hs heither (.or hf)
          (meets_of_readConjunction hmeets (by omega) hconjunction)
      · have hlt₂ := readConjunction_shorter zone hconjunction
        obtain ⟨right, hright, hg⟩ := derives_of_readConjunction
          (fun c _ => termSound zone c) (Nat.le_refl _) hconjunction
        exact ih _ (Nat.lt_trans hlt₂ hlt₁) (by omega) ((hs.append heither).append hright)
          (.or hf hg) h rfl
    · cases h

theorem meets_of_readDisjunction {k : Nat} (hmeets : ∀ c, c.rest.length ≤ k → TermMeets zone c)
    (hk : c.rest.length ≤ k) (h : readDisjunction zone c = .error (.numeralTooLong n)) :
    Meets zone .disjunction c.rest n := by
  rw [readDisjunction_eq] at h
  rcases bind_eq_error.mp h with hconjunction | ⟨⟨g, c₁⟩, hconjunction, h⟩
  · obtain ⟨before, mid, hbefore, hmid⟩ := meets_of_readConjunction hmeets hk hconjunction
    exact ⟨before, mid, .ofConjunction hbefore, hmid⟩
  · have hlt := readConjunction_shorter zone hconjunction
    obtain ⟨tokens, hs, hg⟩ := derives_of_readConjunction
      (fun c _ => termSound zone c) (Nat.le_refl _) hconjunction
    exact meets_of_readConjunctions hmeets (by omega) hs (.ofConjunction hg) h

theorem require_ne_numeralTooLong {symbol : List Char} :
    require symbol c ≠ .error (.numeralTooLong n) := by
  unfold require
  split <;> simp

theorem termMeets (zone : Zone) (c : Cursor) : TermMeets zone c := by
  induction hlen : c.rest.length using Nat.strongRecOn generalizing c with
  | ind len ih =>
    subst hlen
    have hmeets : ∀ c₁ : Cursor, c₁.rest.length < c.rest.length →
        ∀ c₂ : Cursor, c₂.rest.length ≤ c₁.rest.length → TermMeets zone c₂ :=
      fun c₁ h₁ c₂ h₂ => ih _ (Nat.lt_of_le_of_lt h₂ h₁) c₂ rfl
    intro n h
    rw [readTerm_eq] at h
    split at h
    · rename_i c₁ haccept
      have hlt := Cursor.accept_length_lt haccept (by simp)
      have hopen : Spells c.rest [.opening] c₁.rest := .one (Cursor.eq_append_of_accept haccept)
      rcases bind_eq_error.mp h with hread | ⟨p, -, h⟩
      · obtain ⟨before, mid, hbefore, hs, hn⟩ :=
          meets_of_readDisjunction (hmeets c₁ hlt) (Nat.le_refl _) hread
        exact ⟨_, mid, .group hbefore, hopen.append hs, hn⟩
      · rcases bind_eq_error.mp h with hrequire | ⟨_, -, h⟩
        · exact absurd hrequire require_ne_numeralTooLong
        · cases h
    · split at h
      · rename_i c₁ haccept
        have hlt := Cursor.accept_length_lt haccept (by simp)
        rcases bind_eq_error.mp h with hrequire | ⟨c₂, hrequire, h⟩
        · exact absurd hrequire require_ne_numeralTooLong
        · have hle := require_length_lt hrequire (by simp)
          have hnot : Spells c.rest [.negation] c₁.rest :=
            .one (Cursor.eq_append_of_accept haccept)
          have hopen : Spells c₁.rest [.opening] c₂.rest := .one (eq_append_of_require hrequire)
          rcases bind_eq_error.mp h with hread | ⟨p, -, h⟩
          · obtain ⟨before, mid, hbefore, hs, hn⟩ :=
              meets_of_readDisjunction (hmeets c₂ (by omega)) (Nat.le_refl _) hread
            exact ⟨_, mid, .not hbefore, (hnot.append hopen).append hs, hn⟩
          · rcases bind_eq_error.mp h with hrequire | ⟨_, -, h⟩
            · exact absurd hrequire require_ne_numeralTooLong
            · cases h
      · exact ⟨[], c.rest, .here, .refl _, overlong_of_readComparison h⟩

end Parser

/-! ### Whole texts -/

section Whole
variable {zone : Zone} {text : List Char} {n : Nat}

theorem meets_of_parse (h : parse zone text = .error (.numeralTooLong n)) :
    Meets zone .disjunction text n := by
  rw [parse_eq] at h
  split at h
  · cases h
  · rcases bind_eq_error.mp h with hread | ⟨p, -, h⟩
    · exact Parser.meets_of_readDisjunction (fun c _ => Parser.termMeets zone c) (Nat.le_refl _)
        hread
    · split at h <;> cases h

theorem parse_of_meets (h : Meets zone .disjunction text n) :
    parse zone text = .error (.numeralTooLong n) := by
  obtain ⟨before, mid, hbefore, hs, hn⟩ := h
  have hread : ∀ c : Cursor, trimStart c.rest = trimStart text →
      Parser.readDisjunction zone c = .error (.numeralTooLong n) :=
    fun c hc => Parser.outcome_of_reaches hbefore hc hs hn
  -- Something stands behind the white space, because at the end another error is found.
  have hne : ¬ (trimStart text).isEmpty := by
    intro hempty
    have hend := hread ⟨0, []⟩ (List.isEmpty_iff.mp hempty).symm
    rw [Parser.readDisjunction_eq, Parser.readConjunction_eq, Parser.readTerm_eq] at hend
    cases hend
  rw [parse_eq, if_neg hne, hread (.start text) rfl]
  rfl

theorem parse_eq_numeralTooLong_iff :
    parse zone text = .error (.numeralTooLong n) ↔ Meets zone .disjunction text n :=
  ⟨meets_of_parse, parse_of_meets⟩

end Whole

/-- The parser returns a filter, or it fails with an error of the filter language. -/
def Reported (zone : Zone) (text : List Char) : Prop :=
  (∃ f, parse zone text = .ok f) ∨ ∃ cause, parse zone text = .error (.filter cause)

theorem reported_iff {zone : Zone} {text : List Char} :
    Reported zone text ↔ ∀ n, parse zone text ≠ .error (.numeralTooLong n) := by
  unfold Reported
  cases parse zone text with
  | ok f => simp
  | error e => cases e <;> simp

/-- The command that checks a filter reports what the parser reports. -/
theorem failure_checkFilter_eq_none {zone : Zone} {text : List Char} {fields : Bool} :
    (Command.checkFilter zone (some (String.ofList text)) fields).failure = none ↔
      Reported zone text := by
  simp only [Command.checkFilter, String.toList_ofList, Reported]
  cases parse zone text with
  | ok f => simp
  | error e => cases e <;> simp [Command.refused]

/-- **Reading a filter fails in one way that is no error of the filter language.** It does so
exactly at the texts in which the reading comes to a port or a length with too many digits, and the
error tells how many they are. For every other text the parser returns a filter or an error of the
language, and the command that checks filters reports it. -/
theorem reported_iff_no_overlong (zone : Zone) (text : List Char) :
    (Reported zone text ↔ ¬ ∃ n, Meets zone .disjunction text n) ∧
      (∀ n, parse zone text = .error (.numeralTooLong n) ↔ Meets zone .disjunction text n) ∧
      ∀ fields, (Command.checkFilter zone (some (String.ofList text)) fields).failure = none ↔
        ¬ ∃ n, Meets zone .disjunction text n := by
  have hreported : Reported zone text ↔ ¬ ∃ n, Meets zone .disjunction text n := by
    rw [reported_iff, not_exists]
    exact forall_congr' fun n => not_congr parse_eq_numeralTooLong_iff
  exact ⟨hreported, fun n => parse_eq_numeralTooLong_iff,
    fun fields => failure_checkFilter_eq_none.trans hreported⟩

/-- A port with one digit too many. -/
theorem not_reported_long_port :
    let text := "src_port == ".toList ++ List.replicate 4301 '1'
    parse ⟨0⟩ text = .error (.numeralTooLong 4301) ∧ ¬ Reported ⟨0⟩ text := by
  intro text
  let digits := List.replicate 4301 '1'
  have hdigit : ∀ c ∈ digits, c = '1' := fun c hc => List.eq_of_mem_replicate hc
  have hlit : IsLiteral digits := by
    refine .plain (by decide) fun c hc => ?_
    rw [hdigit c hc]
    decide +kernel
  have hspells : Spells text [.name "src_port", .operator .eq] digits := by
    have hspace : IsGap [' '] := by
      intro c hc
      rw [List.mem_singleton.mp hc]
      decide +kernel
    exact @Spells.cons [] _ _ _ (.name "src_port") nofun
      (.cons (.operator .eq) hspace (.nil hspace))
  have hascii : digits.all isAsciiDigit = true := by
    refine List.all_eq_true.mpr fun c hc => ?_
    rw [hdigit c hc]
    rfl
  have hwhole : literal? (digits ++ []) = some (digits, []) := literal?_append hlit nofun
  have hbegins : BeginsOverlong text 4301 .sourcePort "src_port" .eq digits [] :=
    ⟨by rwa [List.append_nil], by decide, Or.inl rfl, hwhole, hascii, List.length_replicate,
      by decide⟩
  have hparse : parse ⟨0⟩ text = .error (.numeralTooLong 4301) :=
    parse_of_meets ⟨[], text, .ofConjunction (.ofTerm .here), .refl text, _, _, _, _, _, hbegins⟩
  exact ⟨hparse, fun hreported => reported_iff.mp hreported 4301 hparse⟩

end TrafficMonitor.Filter
