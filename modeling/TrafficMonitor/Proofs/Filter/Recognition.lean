import TrafficMonitor.Proofs.Filter.Grammar
import TrafficMonitor.Proofs.Filter.Reading

/-! The parser accepts the grammar and nothing else. `parse_eq_ok_iff` says that a text is
parsed to a filter exactly when it is a layout of lexemes that derive the filter.

From a derivation to the parser, the induction is on the derivation. A chain is left recursive
in the grammar and a loop in the parser, so what a chain reads is stated as the loop entered
with the filter so far (`Reads`). From the parser to a derivation, the induction is on how much
text is left. -/
namespace TrafficMonitor.Field

theorem ofAlias?_eq_some_iff {name : String} {field : Field} :
    ofAlias? name = some field ↔ name ∈ field.aliases := by
  constructor
  · intro h
    simpa using List.find?_some h
  · have hall : ∀ field ∈ all, ∀ name ∈ field.aliases, ofAlias? name = some field := by
      decide +kernel
    exact hall field (mem_all field) name

theorem isName_of_mem_aliases {name : String} {field : Field} (h : name ∈ field.aliases) :
    Filter.IsName name.toList := by
  have hall : ∀ field ∈ all, ∀ name ∈ field.aliases, Filter.IsName name.toList := by
    simp only [all, aliases, Field.name, title, List.forall_mem_cons, String.reduceToList]
    decide +kernel
  exact hall field (mem_all field) name h

end TrafficMonitor.Field

namespace TrafficMonitor.Filter
open Text Time

/-! ### Where a lexeme begins and ends -/

/-- A literal begins with a digit, a word character or a dot. -/
theorem IsLiteral.exists_head {token : List Char} (h : IsLiteral token) :
    ∃ c ∈ token.head?, isDigit c = true ∨ isPlain c = true := by
  cases h with
  | @time t ht =>
    obtain ⟨hne, hin⟩ := ht.1.first
    obtain ⟨c, tail, hct⟩ := List.exists_cons_of_ne_nil hne
    refine ⟨c, ?_, Or.inl (hin c (by rw [hct]; exact List.mem_cons_self))⟩
    simp [TimeText.text, Triple.text, hct]
  | plain hne hin =>
    obtain ⟨c, tail, rfl⟩ := List.exists_cons_of_ne_nil hne
    exact ⟨c, rfl, Or.inr (hin c List.mem_cons_self)⟩

/-- Names and literals look like names and literals. -/
def Lexeme.IsWritten : Lexeme → Prop
  | name s => IsName s.toList
  | literal cs => IsLiteral cs
  | _ => True

/-- No lexeme begins with white space. -/
theorem Lexeme.IsWritten.exists_head {token : Lexeme} (h : token.IsWritten) :
    ∃ c ∈ token.text.head?, isBlank c = false := by
  cases token with
  | opening => exact ⟨'(', rfl, by decide +kernel⟩
  | closing => exact ⟨')', rfl, by decide +kernel⟩
  | negation => exact ⟨'!', rfl, by decide +kernel⟩
  | both => exact ⟨'&', rfl, by decide +kernel⟩
  | either => exact ⟨'|', rfl, by decide +kernel⟩
  | operator op =>
    cases op
    case ne => exact ⟨'!', rfl, by decide +kernel⟩
    case eq => exact ⟨'=', rfl, by decide +kernel⟩
    case lt | le => exact ⟨'<', rfl, by decide +kernel⟩
    case gt | ge => exact ⟨'>', rfl, by decide +kernel⟩
  | name s =>
    obtain ⟨⟨c, hc, -⟩, hin⟩ := h
    refine ⟨c, hc, Bool.eq_false_iff.mpr fun hb => ?_⟩
    have hword := hin c (List.mem_of_mem_head? hc)
    rw [isWord_of_isBlank hb] at hword
    cases hword
  | literal cs =>
    obtain ⟨c, hc, hclass⟩ := IsLiteral.exists_head h
    refine ⟨c, hc, Bool.eq_false_iff.mpr fun hb => ?_⟩
    have hdot : c ≠ '.' := by
      intro heq
      subst heq
      exact absurd hb (by decide +kernel)
    simp [isDigit_of_isBlank hb, isPlain, isWord_of_isBlank hb, hdot] at hclass

/-- Behind white space a layout begins with its first lexeme. -/
theorem Spells.begins {text rest : List Char} {token : Lexeme} {tokens : List Lexeme}
    (h : Spells text (token :: tokens) rest) (ht : token.IsWritten) :
    ∃ mid, trimStart text = token.text ++ mid ∧ Spells mid tokens rest := by
  obtain ⟨mid, htrim, hmid⟩ := h.exists_of_cons
  obtain ⟨c, hc, hblank⟩ := ht.exists_head
  obtain ⟨tail, htail⟩ := List.head?_eq_some_iff.mp hc
  refine ⟨mid, ?_, hmid⟩
  rw [htrim, htail]
  exact trimStart_cons hblank _

/-! ### From a derivation to the parser -/

namespace Parser
variable {zone : Zone} {c d : Cursor} {f g : Filter} {text rest : List Char}
  {tokens : List Lexeme}

/-- A field name runs to the operator: a symbol of an operator is no word. -/
theorem head_not_word {op : Operator} (h : Spells text (.operator op :: tokens) rest) :
    ∀ c ∈ text.head?, isWord c = false := by
  obtain ⟨mid, htrim, -⟩ := h.begins trivial
  have hsymbol : (op.symbol.toList.head?.all (!isWord ·)) = true := by
    cases op <;> decide +kernel
  intro c hc
  obtain ⟨tail, rfl⟩ := List.head?_eq_some_iff.mp hc
  cases hb : isBlank c with
  | true => exact isWord_of_isBlank hb
  | false =>
    rw [trimStart_cons hb] at htrim
    have hhead : op.symbol.toList.head? = some c := by
      cases op <;> simp_all [Operator.symbol, Lexeme.text]
    simpa [hhead] using hsymbol

/-- An operator ends before a literal: no literal, and no white space, begins with `=`. -/
theorem head_ne_eq {token : List Char} (hlit : IsLiteral token)
    (h : Spells text (.literal token :: tokens) rest) : ∀ c ∈ text.head?, c ≠ '=' := by
  obtain ⟨mid, htrim, -⟩ := h.begins hlit
  intro c hc heq
  subst heq
  obtain ⟨tail, rfl⟩ := List.head?_eq_some_iff.mp hc
  rw [trimStart_cons (by decide +kernel)] at htrim
  obtain ⟨c, hhead, hclass⟩ := hlit.exists_head
  obtain ⟨rest, rfl⟩ := List.head?_eq_some_iff.mp hhead
  obtain ⟨rfl, -⟩ := List.cons_eq_cons.mp htrim
  exact absurd hclass (by decide +kernel)

/-- What a reader at a level does with a text: a term is read whole, and a chain is read up to
the point where the loop goes on with the filter so far. -/
def Reads (zone : Zone) (c : Cursor) (f : Filter) (rest : List Char) : Level → Prop
  | .term => ∃ d, trimStart d.rest = trimStart rest ∧ readTerm zone c = .ok (f, d)
  | .conjunction => ∃ d, trimStart d.rest = trimStart rest ∧
      readConjunction zone c = readTerms zone f d
  | .disjunction => ∃ d, trimStart d.rest = trimStart rest ∧
      readDisjunction zone c = readConjunctions zone f d

/-- A field name and an operator are read, if no `=` follows that would go on with the operator. -/
theorem exists_operator {field : Field} {name : String} {op : Operator}
    (hname : name ∈ field.aliases) (hc : trimStart c.rest = trimStart text)
    (h : Spells text (.name name :: .operator op :: tokens) rest)
    (hnext : ∀ mid, Spells mid tokens rest → ∀ c ∈ mid.head?, c ≠ '=') :
    ∃ c₁ c₂ : Cursor, c.identifier = (.ok ⟨name.toList, c.skip.position⟩, c₁) ∧
      c₁.operator = (.ok op, c₂) ∧ Spells c₂.rest tokens rest := by
  have hisName := Field.isName_of_mem_aliases hname
  obtain ⟨mid₁, h₁, hmid₁⟩ := h.begins hisName
  obtain ⟨c₁, rfl, hread₁⟩ : ∃ c₁ : Cursor, c₁.rest = mid₁ ∧
      c.identifier = (.ok ⟨name.toList, c.skip.position⟩, c₁) := by
    refine ⟨⟨_, mid₁⟩, rfl, Cursor.token_of_eq ?_⟩
    rw [hc, h₁]
    exact name?_append hisName (head_not_word hmid₁)
  obtain ⟨mid₂, h₂, hmid₂⟩ := hmid₁.begins trivial
  refine ⟨c₁, ⟨_, mid₂⟩, hread₁, Cursor.operator_of_eq ?_, hmid₂⟩
  rw [h₂]
  exact operator?_append op (hnext mid₂ hmid₂)

theorem readComparison_of_derives {field : Field} {name : String} {op : Operator}
    {token : List Char} {value : Value} (hname : name ∈ field.aliases)
    (hop : field.supports op = true) (hlit : IsLiteral token)
    (hvalue : field.literalKind.parse zone token = .ok value)
    (hc : trimStart c.rest = trimStart text)
    (h : Spells text [.name name, .operator op, .literal token] rest) (hend : Ends rest) :
    ∃ d, trimStart d.rest = trimStart rest ∧
      readComparison zone c = .ok (.leaf ⟨field, op, value⟩, d) := by
  obtain ⟨c₁, c₂, hread₁, hread₂, hmid₂⟩ :=
    exists_operator hname hc h fun _ hmid => head_ne_eq hlit hmid
  obtain ⟨mid₃, h₃, hmid₃⟩ := hmid₂.begins hlit
  obtain ⟨c₃, rfl, hread₃⟩ : ∃ c₃ : Cursor, c₃.rest = mid₃ ∧
      c₂.literal = (.ok ⟨token, c₂.skip.position⟩, c₃) := by
    refine ⟨⟨_, mid₃⟩, rfl, Cursor.token_of_eq ?_⟩
    rw [h₃]
    refine literal?_append hlit ?_
    unfold Ends
    rwa [hmid₃.trimStart_nil]
  refine ⟨c₃, hmid₃.trimStart_nil, ?_⟩
  rw [readComparison_eq]
  simp only [hread₁, String.ofList_toList, Field.ofAlias?_eq_some_iff.mpr hname, hread₂, hread₃,
    hvalue, hop, if_true, bind, Except.bind]

/-- Where no further term follows, the loop over terms ends. -/
theorem readTerms_of_not_both (h : ¬ ['&', '&'] <+: trimStart c.rest) :
    readTerms zone f c = .ok (f, c.skip) := by
  rw [readTerms_eq, Cursor.accept_of_no_match h]

theorem readConjunctions_of_not_either (h : ¬ ['|', '|'] <+: trimStart c.rest) :
    readConjunctions zone f c = .ok (f, c.skip) := by
  rw [readConjunctions_eq, Cursor.accept_of_no_match h]

/-- What may follow a part of a filter at a level. -/
structure Stops (rest : List Char) (level : Level) : Prop where
  ends : Ends rest
  noTerm : level = .disjunction → ¬ ['&', '&'] <+: trimStart rest

/-- A symbol that is no part of a literal may follow a part of a filter. -/
theorem stops_of_head {level : Level} {mark : Char} {tail : List Char}
    (h : trimStart text = mark :: tail) (hmark : mark = ')' ∨ mark = '&' ∨ mark = '|')
    (hlevel : level = .disjunction → mark ≠ '&') : Stops text level := by
  constructor
  · intro c hc
    rw [h] at hc
    cases hc
    exact hmark
  · intro hd hprefix
    obtain ⟨rest, hrest⟩ := hprefix
    rw [h] at hrest
    cases hrest
    exact hlevel hd rfl

/-- A name is none of the marks that begin other terms. -/
theorem not_prefix_of_isName {token : List Char} {mark : Char} (h : IsName token)
    (hmark : isWord mark = false) : ¬ [mark] <+: token ++ rest := by
  intro hprefix
  obtain ⟨tail, htail⟩ := hprefix
  obtain ⟨⟨c, hc, -⟩, hin⟩ := h
  obtain ⟨token, rfl⟩ := List.head?_eq_some_iff.mp hc
  obtain ⟨rfl, -⟩ := List.cons_eq_cons.mp htail
  rw [hin mark List.mem_cons_self] at hmark
  cases hmark

/-- Wherever the lexemes stand in a text, they are read as the filter. The text may go on with
anything that ends a literal. -/
def AreRead (zone : Zone) (level : Level) (tokens : List Lexeme) (f : Filter) : Prop :=
  ∀ ⦃c : Cursor⦄ ⦃text rest : List Char⦄, trimStart c.rest = trimStart text →
    Spells text tokens rest → Stops rest level → Reads zone c f rest level

/-- A filter that is read, as far as a closing parenthesis. -/
theorem AreRead.closed (h : AreRead zone .disjunction tokens f)
    (hs : Spells c.rest (tokens ++ [.closing]) rest) :
    ∃ d e, readDisjunction zone c = .ok (f, d) ∧ require [')'] d = .ok e ∧
      trimStart e.rest = trimStart rest := by
  obtain ⟨mid₁, hmid₁, hclose⟩ := hs.split
  obtain ⟨mid₂, h₂, hmid₂⟩ := hclose.begins trivial
  obtain ⟨d, hd, hread⟩ := h rfl hmid₁ (stops_of_head h₂ (Or.inl rfl) fun _ => by decide)
  rw [h₂] at hd
  refine ⟨d.skip, ⟨d.skip.skip.position + 1, mid₂⟩, ?_, ?_, hmid₂.trimStart_nil⟩
  · rw [hread, readConjunctions_of_not_either]
    rw [hd]
    simp [Lexeme.text]
  · exact require_of_eq (by rw [Cursor.rest_skip, trimStart_trimStart, hd]; rfl)

theorem areRead_comparison {field : Field} {name : String} {op : Operator} {token : List Char}
    {value : Value} (hname : name ∈ field.aliases) (hop : field.supports op = true)
    (hlit : IsLiteral token) (hvalue : field.literalKind.parse zone token = .ok value) :
    AreRead zone .term [.name name, .operator op, .literal token] (.leaf ⟨field, op, value⟩) := by
  intro c text rest hc hs hstop
  obtain ⟨d, hd, hread⟩ := readComparison_of_derives hname hop hlit hvalue hc hs hstop.ends
  have hisName := Field.isName_of_mem_aliases hname
  obtain ⟨mid, htrim, -⟩ := hs.begins hisName
  have hmark : ∀ mark, isWord mark = false → ¬ [mark] <+: trimStart c.rest := by
    intro mark hmark
    rw [hc, htrim]
    exact not_prefix_of_isName hisName hmark
  refine ⟨d, hd, ?_⟩
  rw [readTerm_eq, Cursor.accept_of_no_match (hmark '(' (by decide +kernel)),
    Cursor.accept_of_no_match (hmark '!' (by decide +kernel))]
  exact hread

theorem areRead_group (h : AreRead zone .disjunction tokens f) :
    AreRead zone .term ([.opening] ++ tokens ++ [.closing]) f := by
  intro c text rest hc hs hstop
  obtain ⟨mid, h₁, hmid⟩ := hs.begins trivial
  obtain ⟨c₁, rfl, haccept⟩ := Cursor.exists_accept (hc.trans h₁)
  obtain ⟨d, e, hread, hclose, he⟩ := h.closed hmid
  refine ⟨e, he, ?_⟩
  rw [readTerm_eq, show c.accept ['('] = _ from haccept]
  simp only [hread, hclose, bind, Except.bind]
  rfl

theorem areRead_not (h : AreRead zone .disjunction tokens f) :
    AreRead zone .term ([.negation, .opening] ++ tokens ++ [.closing]) (.not f) := by
  intro c text rest hc hs hstop
  obtain ⟨mid₁, h₁, hmid₁⟩ := hs.begins trivial
  obtain ⟨mid₂, h₂, hmid₂⟩ := hmid₁.begins trivial
  rw [← hc] at h₁
  obtain ⟨c₁, rfl, haccept⟩ := Cursor.exists_accept h₁
  obtain ⟨c₂, rfl, hopen⟩ : ∃ c₂ : Cursor, c₂.rest = mid₂ ∧ require ['('] c₁ = .ok c₂ :=
    ⟨⟨_, mid₂⟩, rfl, require_of_eq h₂⟩
  obtain ⟨d, e, hread, hclose, he⟩ := h.closed hmid₂
  refine ⟨e, he, ?_⟩
  rw [readTerm_eq, Cursor.accept_of_no_match (by rw [h₁]; simp [Lexeme.text]),
    show c.accept ['!'] = _ from haccept]
  simp only [hopen, hread, hclose, bind, Except.bind]
  rfl

theorem areRead_ofTerm (h : AreRead zone .term tokens f) :
    AreRead zone .conjunction tokens f := by
  intro c text rest hc hs hstop
  obtain ⟨d, hd, hread⟩ := h hc hs ⟨hstop.ends, nofun⟩
  refine ⟨d, hd, ?_⟩
  rw [readConjunction_eq, hread]
  rfl

theorem areRead_and {left right : List Lexeme} (hleft : AreRead zone .conjunction left f)
    (hright : AreRead zone .term right g) :
    AreRead zone .conjunction (left ++ [.both] ++ right) (.and f g) := by
  intro c text rest hc hs hstop
  obtain ⟨mid₁, hmid₁, hs⟩ := (List.append_assoc .. ▸ hs).split
  obtain ⟨mid₂, h₂, hmid₂⟩ := hs.begins trivial
  obtain ⟨d₁, hd₁, hread₁⟩ := hleft hc hmid₁ (stops_of_head h₂ (Or.inr (Or.inl rfl)) nofun)
  obtain ⟨c₁, rfl, haccept⟩ := Cursor.exists_accept (hd₁.trans h₂)
  obtain ⟨d₂, hd₂, hread₂⟩ := hright rfl hmid₂ ⟨hstop.ends, nofun⟩
  refine ⟨d₂, hd₂, ?_⟩
  rw [hread₁, readTerms_eq, show d₁.accept ['&', '&'] = _ from haccept]
  simp only [hread₂, bind, Except.bind]

theorem areRead_ofConjunction (h : AreRead zone .conjunction tokens f) :
    AreRead zone .disjunction tokens f := by
  intro c text rest hc hs hstop
  obtain ⟨d, hd, hread⟩ := h hc hs ⟨hstop.ends, nofun⟩
  refine ⟨d.skip, by rw [Cursor.rest_skip, trimStart_trimStart, hd], ?_⟩
  rw [readDisjunction_eq, hread, readTerms_of_not_both (by rw [hd]; exact hstop.noTerm rfl)]
  rfl

theorem areRead_or {left right : List Lexeme} (hleft : AreRead zone .disjunction left f)
    (hright : AreRead zone .conjunction right g) :
    AreRead zone .disjunction (left ++ [.either] ++ right) (.or f g) := by
  intro c text rest hc hs hstop
  obtain ⟨mid₁, hmid₁, hs⟩ := (List.append_assoc .. ▸ hs).split
  obtain ⟨mid₂, h₂, hmid₂⟩ := hs.begins trivial
  obtain ⟨d₁, hd₁, hread₁⟩ := hleft hc hmid₁
    (stops_of_head h₂ (Or.inr (Or.inr rfl)) fun _ => by decide)
  obtain ⟨c₁, rfl, haccept⟩ := Cursor.exists_accept (hd₁.trans h₂)
  obtain ⟨d₂, hd₂, hread₂⟩ := hright rfl hmid₂ ⟨hstop.ends, nofun⟩
  refine ⟨d₂.skip, by rw [Cursor.rest_skip, trimStart_trimStart, hd₂], ?_⟩
  rw [hread₁, readConjunctions_eq, show d₁.accept ['|', '|'] = _ from haccept]
  simp only [hread₂, readTerms_of_not_both (by rw [hd₂]; exact hstop.noTerm rfl), bind,
    Except.bind]

/-- **A derived filter is read.** -/
theorem areRead_of_derives {level : Level} (h : Derives zone level tokens f) :
    AreRead zone level tokens f := by
  induction h with
  | comparison hname hop hlit hvalue => exact areRead_comparison hname hop hlit hvalue
  | group _ ih => exact areRead_group ih
  | not _ ih => exact areRead_not ih
  | ofTerm _ ih => exact areRead_ofTerm ih
  | and _ _ ihl ihr => exact areRead_and ihl ihr
  | ofConjunction _ ih => exact areRead_ofConjunction ih
  | or _ _ ihl ihr => exact areRead_or ihl ihr

/-! ### From the parser to a derivation -/

/-- Whatever is read at the cursor as a term derives from what was read. -/
def TermSound (zone : Zone) (c : Cursor) : Prop := ∀ f d, readTerm zone c = .ok (f, d) →
  ∃ tokens, Spells c.rest tokens d.rest ∧ Derives zone .term tokens f

theorem derives_of_readComparison (h : readComparison zone c = .ok (f, d)) :
    ∃ tokens, Spells c.rest tokens d.rest ∧ Derives zone .term tokens f := by
  rw [readComparison_eq] at h
  split at h
  · cases h
  · rename_i name c₁ hname
    split at h
    · cases h
    · rename_i field hfield
      split at h
      · cases h
      · rename_i op c₂ hop
        split at h
        · cases h
        · rename_i token c₃ hlit
          obtain ⟨value, hvalue, h⟩ := bind_eq_ok.mp h
          split at h
          · rename_i hsupports
            cases h
            have hname' := Cursor.shape_of_token hname
            have hop' := Cursor.operator?_of_operator hop
            have hlit' := Cursor.shape_of_token hlit
            refine ⟨[.name (String.ofList name.text), .operator op, .literal token.text], ?_,
              .comparison (Field.ofAlias?_eq_some_iff.mp hfield) hsupports
                (isLiteral_of_literal? hlit') hvalue⟩
            have h₁ : Spells c.rest [.name (String.ofList name.text)] c₁.rest :=
              .one (by rw [Lexeme.text, String.toList_ofList, (splits_of_name? hname').1])
            have h₂ : Spells c₁.rest [.operator op] c₂.rest :=
              .one (splits_of_operator? hop').1.symm
            have h₃ : Spells c₂.rest [.literal token.text] d.rest :=
              .one (splits_of_literal? hlit').1.symm
            exact (h₁.append h₂).append h₃
          · cases h

/-- The loop over terms adds terms to the conjunction read so far. -/
theorem derives_of_readTerms {n : Nat} (hsound : ∀ c, c.rest.length ≤ n → TermSound zone c)
    (hn : c.rest.length ≤ n) (hs : Spells text tokens c.rest)
    (hf : Derives zone .conjunction tokens f) (h : readTerms zone f c = .ok (g, d)) :
    ∃ tokens, Spells text tokens d.rest ∧ Derives zone .conjunction tokens g := by
  induction hlen : c.rest.length using Nat.strongRecOn generalizing c f tokens with
  | ind len ih =>
    subst hlen
    rw [readTerms_eq] at h
    split at h
    · rename_i c₁ haccept
      obtain ⟨⟨k, c₂⟩, hterm, h⟩ := bind_eq_ok.mp h
      have hlt₁ := Cursor.accept_length_lt haccept (by simp)
      have hlt₂ := readTerm_shorter zone hterm
      obtain ⟨right, hright, hk⟩ := hsound c₁ (by omega) k c₂ hterm
      have hboth : Spells c.rest [.both] c₁.rest := .one (Cursor.eq_append_of_accept haccept)
      exact ih _ (Nat.lt_trans hlt₂ hlt₁) (by omega) ((hs.append hboth).append hright)
        (.and hf hk) h rfl
    · cases h
      exact ⟨tokens, by simpa using hs.append (.of_trimStart rfl), hf⟩

theorem derives_of_readConjunction {n : Nat}
    (hsound : ∀ c, c.rest.length ≤ n → TermSound zone c) (hn : c.rest.length ≤ n)
    (h : readConjunction zone c = .ok (f, d)) :
    ∃ tokens, Spells c.rest tokens d.rest ∧ Derives zone .conjunction tokens f := by
  rw [readConjunction_eq] at h
  obtain ⟨⟨g, c₁⟩, hterm, h⟩ := bind_eq_ok.mp h
  have hlt := readTerm_shorter zone hterm
  obtain ⟨tokens, hs, hg⟩ := hsound c hn g c₁ hterm
  exact derives_of_readTerms hsound (by omega) hs (.ofTerm hg) h

/-- The loop over conjunctions adds conjunctions to the disjunction read so far. -/
theorem derives_of_readConjunctions {n : Nat}
    (hsound : ∀ c, c.rest.length ≤ n → TermSound zone c) (hn : c.rest.length ≤ n)
    (hs : Spells text tokens c.rest) (hf : Derives zone .disjunction tokens f)
    (h : readConjunctions zone f c = .ok (g, d)) :
    ∃ tokens, Spells text tokens d.rest ∧ Derives zone .disjunction tokens g := by
  induction hlen : c.rest.length using Nat.strongRecOn generalizing c f tokens with
  | ind len ih =>
    subst hlen
    rw [readConjunctions_eq] at h
    split at h
    · rename_i c₁ haccept
      obtain ⟨⟨k, c₂⟩, hconjunction, h⟩ := bind_eq_ok.mp h
      have hlt₁ := Cursor.accept_length_lt haccept (by simp)
      have hlt₂ := readConjunction_shorter zone hconjunction
      obtain ⟨right, hright, hk⟩ := derives_of_readConjunction hsound (by omega) hconjunction
      have heither : Spells c.rest [.either] c₁.rest := .one (Cursor.eq_append_of_accept haccept)
      exact ih _ (Nat.lt_trans hlt₂ hlt₁) (by omega) ((hs.append heither).append hright)
        (.or hf hk) h rfl
    · cases h
      exact ⟨tokens, by simpa using hs.append (.of_trimStart rfl), hf⟩

theorem derives_of_readDisjunction {n : Nat}
    (hsound : ∀ c, c.rest.length ≤ n → TermSound zone c) (hn : c.rest.length ≤ n)
    (h : readDisjunction zone c = .ok (f, d)) :
    ∃ tokens, Spells c.rest tokens d.rest ∧ Derives zone .disjunction tokens f := by
  rw [readDisjunction_eq] at h
  obtain ⟨⟨g, c₁⟩, hconjunction, h⟩ := bind_eq_ok.mp h
  have hlt := readConjunction_shorter zone hconjunction
  obtain ⟨tokens, hs, hg⟩ := derives_of_readConjunction hsound hn hconjunction
  exact derives_of_readConjunctions hsound (by omega) hs (.ofConjunction hg) h

theorem termSound (zone : Zone) (c : Cursor) : TermSound zone c := by
  induction hlen : c.rest.length using Nat.strongRecOn generalizing c with
  | ind len ih =>
    subst hlen
    have hsound : ∀ c₁ : Cursor, c₁.rest.length < c.rest.length →
        ∀ c₂ : Cursor, c₂.rest.length ≤ c₁.rest.length → TermSound zone c₂ :=
      fun c₁ h₁ c₂ h₂ => ih _ (Nat.lt_of_le_of_lt h₂ h₁) c₂ rfl
    intro f d h
    rw [readTerm_eq] at h
    split at h
    · rename_i c₁ haccept
      obtain ⟨⟨g, c₂⟩, hread, h⟩ := bind_eq_ok.mp h
      obtain ⟨c₃, hrequire, h⟩ := bind_eq_ok.mp h
      cases h
      have hlt := Cursor.accept_length_lt haccept (by simp)
      obtain ⟨tokens, hs, hg⟩ := derives_of_readDisjunction (hsound c₁ hlt) (Nat.le_refl _) hread
      have hopen : Spells c.rest [.opening] c₁.rest := .one (Cursor.eq_append_of_accept haccept)
      have hclose : Spells c₂.rest [.closing] d.rest := .one (eq_append_of_require hrequire)
      exact ⟨_, (hopen.append hs).append hclose, .group hg⟩
    · split at h
      · rename_i c₁ haccept
        obtain ⟨c₂, hrequire, h⟩ := bind_eq_ok.mp h
        obtain ⟨⟨g, c₃⟩, hread, h⟩ := bind_eq_ok.mp h
        obtain ⟨c₄, hrequire', h⟩ := bind_eq_ok.mp h
        cases h
        have hlt := Cursor.accept_length_lt haccept (by simp)
        have hle := require_length_lt hrequire (by simp)
        obtain ⟨tokens, hs, hg⟩ :=
          derives_of_readDisjunction (hsound c₂ (by omega)) (Nat.le_refl _) hread
        have hnot : Spells c.rest [.negation] c₁.rest :=
          .one (Cursor.eq_append_of_accept haccept)
        have hopen : Spells c₁.rest [.opening] c₂.rest := .one (eq_append_of_require hrequire)
        have hclose : Spells c₃.rest [.closing] d.rest := .one (eq_append_of_require hrequire')
        exact ⟨_, ((hnot.append hopen).append hs).append hclose, .not hg⟩
      · exact derives_of_readComparison h

end Parser

theorem derives_of_parse {zone : Zone} {text : List Char} {f : Filter}
    (h : parse zone text = .ok f) :
    ∃ tokens, Layout tokens text ∧ Derives zone .disjunction tokens f := by
  rw [parse_eq] at h
  split at h
  · cases h
  · obtain ⟨⟨g, d⟩, hread, h⟩ := bind_eq_ok.mp h
    split at h
    · rename_i hrest
      cases h
      obtain ⟨tokens, hs, hg⟩ :=
        Parser.derives_of_readDisjunction (fun c _ => Parser.termSound zone c) (Nat.le_refl _) hread
      have hend := hs.append (.of_trimStart (List.isEmpty_iff.mp hrest))
      rw [List.append_nil] at hend
      exact ⟨tokens, hend, hg⟩
    · cases h

theorem parse_of_derives {zone : Zone} {text : List Char} {tokens : List Lexeme} {f : Filter}
    (hlayout : Layout tokens text) (hf : Derives zone .disjunction tokens f) :
    parse zone text = .ok f := by
  have hread : ∀ c : Cursor, trimStart c.rest = trimStart text →
      ∃ d, trimStart d.rest = [] ∧ Parser.readDisjunction zone c = .ok (f, d) := by
    intro c hc
    obtain ⟨d, hd, hread⟩ := Parser.areRead_of_derives hf hc hlayout
      ⟨by simp [Ends, trimStart], by simp [trimStart]⟩
    replace hd : trimStart d.rest = [] := hd
    refine ⟨d.skip, by rw [Cursor.rest_skip, trimStart_trimStart, hd], ?_⟩
    rw [hread, Parser.readConjunctions_of_not_either (by simp [hd])]
  -- Something stands behind the white space, because reading gets on there.
  have hne : ¬ (trimStart text).isEmpty := by
    intro hempty
    obtain ⟨d, -, hd⟩ := hread ⟨0, trimStart text⟩ (trimStart_trimStart text)
    have hlt := Parser.readDisjunction_shorter zone hd
    simp [List.isEmpty_iff.mp hempty] at hlt
  obtain ⟨d, hrest, hd⟩ := hread (.start text) rfl
  rw [parse_eq, if_neg hne, hd]
  simp [hrest, bind, Except.bind]

/-- **The parser reads the grammar and nothing else.** A text is parsed to a filter exactly when
it is a layout of lexemes that derive the filter: no legal layout is refused, no other text is
read, and nothing of the text is left out. -/
theorem parse_eq_ok_iff (zone : Zone) (text : List Char) (f : Filter) :
    parse zone text = .ok f ↔
      ∃ tokens, Layout tokens text ∧ Derives zone .disjunction tokens f := by
  constructor
  · exact derives_of_parse
  · intro h
    obtain ⟨tokens, hlayout, hf⟩ := h
    exact parse_of_derives hlayout hf

end TrafficMonitor.Filter
