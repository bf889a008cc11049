import TrafficMonitor.Proofs.Filter.Overlong
import TrafficMonitor.Proofs.Filter.Times

/-! Where errors of structure are found. Such an error names a place in the text, and
`completable_before_error` says what holds there: the place is the end of the text or a character
that is not white space, what is expected does not stand there, and all that stands before it is the
beginning of a filter. Only of an operator right before the place it is open whether its field
supports it, because the literal behind it is judged first. The beginning of a filter can be
completed to a text that is parsed (`IsBeginning.exists_parse`).

The parser reads on from one cursor to the next. The cursors of a reading share one text, so what
matters of a cursor's position is that position and rest together have the length of the text
(`Cursor.extent`). A reading that fails leaves behind it a row of lexemes that can be completed
(`Completable`), and this is carried outwards, through chains and parentheses, by induction on how
much text is left. -/
namespace TrafficMonitor.Text

theorem not_blank_of_trimStart {c : Char} {rest : List Char}
    (h : trimStart (c :: rest) = c :: rest) : isBlank c = false := by
  have hc := List.head?_dropWhile_not isBlank (c :: rest)
  rw [← trimStart, h] at hc
  simpa using hc

end TrafficMonitor.Text

namespace TrafficMonitor.Filter
open Text Time

/-! ### The extent of a cursor -/

namespace Cursor
variable {c d : Cursor} {symbol : List Char}

/-- The length of the text that the cursor is in. -/
def extent (c : Cursor) : Nat := c.position + c.rest.length

theorem Passes.extent_eq {read : List Char} (h : c.Passes read d) : d.extent = c.extent := by
  have hlength := congrArg List.length h.rest
  rw [List.length_append] at hlength
  simp only [extent, h.position]
  omega

@[simp] theorem extent_skip (c : Cursor) : c.skip.extent = c.extent := by
  obtain ⟨gap, -, hpasses⟩ := c.exists_passes_skip
  exact hpasses.extent_eq

theorem extent_accept {b : Bool} (h : c.accept symbol = (b, d)) : d.extent = c.extent := by
  rcases c.accept_cases symbol with ⟨hread, -⟩ | ⟨e, hread, hpasses⟩
  · rw [hread] at h
    cases h
    exact c.extent_skip
  · rw [hread] at h
    cases h
    exact hpasses.extent_eq.trans c.extent_skip

theorem extent_token {shape : List Char → Option (List Char × List Char)} {what : Expected}
    {t : Token} (h : c.token shape what = (.ok t, d))
    (hs : ∀ {cs token rest}, shape cs = some (token, rest) → Splits token rest cs) :
    d.extent = c.extent :=
  (passes_of_token h hs).2.extent_eq.trans c.extent_skip

theorem extent_operator {op : Operator} (h : c.operator = (.ok op, d)) : d.extent = c.extent :=
  (passes_of_operator h).extent_eq.trans c.extent_skip

end Cursor

/-! ### What an error says of its place -/

/-- What should come next does not. Only at the end of the text an operator is said to be
missing. -/
def Expected.Missing (ahead : List Char) : Expected → Prop
  | .symbol s => ¬ s.toList <+: ahead
  | .fieldName => name? ahead = none
  | .operator => ahead = []
  | .value => literal? ahead = none

/-- The error was found at the cursor: it shows what stands there, and that is not what should come
next, or anything at all behind a filter that is complete. -/
inductive FilterError.FoundAt : FilterError → Cursor → Prop where
  | expected {what : Expected} {c : Cursor} : what.Missing c.rest → FoundAt (c.missing what) c
  | trailing {c : Cursor} : c.rest ≠ [] → FoundAt (.trailing c.glimpse c.position) c

theorem FilterError.FoundAt.position? {e : FilterError} {c : Cursor} (h : e.FoundAt c) :
    e.position? = some c.position := by
  cases h <;> rfl

namespace Cursor
variable {c d : Cursor} {e : FilterError}

theorem missing_of_token {shape : List Char → Option (List Char × List Char)} {what : Expected}
    (h : c.token shape what = (.error e, d)) :
    e = c.skip.missing what ∧ shape (trimStart c.rest) = none := by
  unfold token at h
  split at h
  · cases h
  · rename_i hs
    cases h
    exact ⟨rfl, hs⟩

theorem missing_of_operator (h : c.operator = (.error e, d)) :
    (e = c.skip.missing .operator ∧ trimStart c.rest = []) ∨ ∃ text, e = .badOperator text := by
  unfold operator at h
  split at h
  · cases h
  · split at h
    · rename_i hempty
      cases h
      exact Or.inl ⟨rfl, List.isEmpty_iff.mp hempty⟩
    · cases h
      exact Or.inr ⟨_, rfl⟩

end Cursor

theorem Parser.missing_of_require {c : Cursor} {symbol : List Char} {e : CompileError}
    (h : Parser.require symbol c = .error e) :
    e = .filter (c.skip.missing (.symbol (String.ofList symbol))) ∧
      ¬ symbol <+: trimStart c.rest := by
  by_cases hp : symbol <+: trimStart c.rest
  · obtain ⟨rest, hrest⟩ := hp
    rw [Parser.require_of_eq hrest.symm] at h
    cases h
  · simp only [Parser.require, Cursor.expect, Cursor.accept_of_no_match hp] at h
    cases h
    exact ⟨rfl, hp⟩

/-! ### Texts of lexemes -/

namespace Spells
variable {text rest : List Char} {tokens : List Lexeme}

theorem trimmed (h : Spells text tokens rest) : Spells text tokens (trimStart rest) := by
  have happend := h.append (.of_trimStart rfl)
  rwa [List.append_nil] at happend

/-- The text can be cut where the lexemes end, and go on with anything else. -/
theorem exists_cut (h : Spells text tokens rest) :
    ∃ read, text = read ++ rest ∧ ∀ rest', Spells (read ++ rest') tokens rest' := by
  induction h with
  | @nil gap rest hgap => exact ⟨gap, rfl, fun _ => nil hgap⟩
  | @cons gap text tokens rest token hgap _ ih =>
    obtain ⟨read, rfl, hread⟩ := ih
    refine ⟨gap ++ (token.text ++ read), by simp only [List.append_assoc], fun rest' => ?_⟩
    simpa only [List.append_assoc] using cons token hgap (hread rest')

theorem exists_layout (tokens : List Lexeme) : ∃ text, Layout tokens text := by
  induction tokens with
  | nil => exact ⟨[], refl []⟩
  | cons token tokens ih =>
    obtain ⟨text, htext⟩ := ih
    have hnone : IsGap [] := nofun
    exact ⟨_, cons token hnone htext⟩

end Spells

/-! ### Rows of lexemes that can be completed -/

/-- The same lexemes, or another operator as the last one. -/
inductive Akin : List Lexeme → List Lexeme → Prop where
  | refl (tokens : List Lexeme) : Akin tokens tokens
  | operator (before : List Lexeme) (op op' : Operator) :
      Akin (before ++ [.operator op]) (before ++ [.operator op'])

theorem Akin.append_left {done done' : List Lexeme} (h : Akin done done') (left : List Lexeme) :
    Akin (left ++ done) (left ++ done') := by
  cases h with
  | refl => exact .refl _
  | operator before op op' =>
    rw [← List.append_assoc, ← List.append_assoc]
    exact .operator (left ++ before) op op'

/-- With more lexemes behind them the lexemes derive a filter at the level. Of an operator at their
end it is left aside whether its field supports it: another may stand in its place. -/
def Completable (zone : Zone) (level : Level) (done : List Lexeme) : Prop :=
  ∃ done' more f, Akin done done' ∧ Derives zone level (done' ++ more) f

namespace Completable
variable {zone : Zone} {level level' : Level} {done left closing : List Lexeme} {f : Filter}

theorem of_derives (more : List Lexeme) (h : Derives zone level (done ++ more) f) :
    Completable zone level done :=
  ⟨done, more, f, .refl done, h⟩

/-- What can be completed to a part of a filter can be completed to the filter around it. -/
theorem within (h : Completable zone level done)
    (hlevel : ∀ {tokens f}, Derives zone level tokens f →
      ∃ g, Derives zone level' (left ++ tokens ++ closing) g) :
    Completable zone level' (left ++ done) := by
  obtain ⟨done', more, f, hakin, hf⟩ := h
  obtain ⟨g, hg⟩ := hlevel hf
  refine ⟨left ++ done', more ++ closing, g, hakin.append_left left, ?_⟩
  simpa only [List.append_assoc] using hg

end Completable

/-- There is a filter at every level. -/
theorem exists_derives (zone : Zone) (level : Level) : ∃ tokens f, Derives zone level tokens f := by
  have hvalue : LiteralKind.length.Admits zone (.number 5) := .length (by decide)
  have hterm : Derives zone .term
      [.name "len", .operator .eq, .literal (Value.number 5).display]
      (.leaf ⟨.length, .eq, .number 5⟩) :=
    .comparison (by decide) rfl hvalue.isLiteral_display hvalue.parse_display
  cases level with
  | term => exact ⟨_, _, hterm⟩
  | conjunction => exact ⟨_, _, .ofTerm hterm⟩
  | disjunction => exact ⟨_, _, .ofConjunction (.ofTerm hterm)⟩

theorem completable_nil (zone : Zone) (level : Level) : Completable zone level [] := by
  obtain ⟨tokens, f, hf⟩ := exists_derives zone level
  exact .of_derives tokens hf

/-- Every field has a literal. A zone is less than a day away from universal time, so that there are
times that can be read. -/
theorem exists_literal {zone : Zone} (hzone : zone.offset.natAbs < secondsPerDay) (field : Field) :
    ∃ text value, IsLiteral text ∧ field.literalKind.parse zone text = .ok value := by
  have hadmits : ∃ value, field.literalKind.Admits zone value := by
    cases field.literalKind with
    | time =>
      -- The first of January 2000.
      let reading : LocalTime := ⟨63082281600 * microsPerSecond, by decide⟩
      have hseconds : reading.seconds = 63082281600 := by decide
      have hlast : lastSecond = 315537897599 := by decide
      have hshift : zone.CanShift reading.seconds := by
        simp only [secondsPerDay] at hzone
        constructor <;> simp only [hseconds, hlast, secondsPerDay] <;> omega
      exact ⟨_, .time (Zone.attach_eq_ok_iff.mpr ⟨hshift, rfl⟩)⟩
    | address => exact ⟨_, .address ⟨10, 0, 0, 1⟩⟩
    | port => exact ⟨_, .port (n := 443) (by decide)⟩
    | length => exact ⟨_, .length (n := 60) (by decide)⟩
    | transport => exact ⟨_, .transport (p := .unknown) (by decide +kernel)⟩
    | application => exact ⟨_, .application .unknown⟩
  obtain ⟨value, hvalue⟩ := hadmits
  exact ⟨value.display, value, hvalue.isLiteral_display, hvalue.parse_display⟩

theorem supports_eq (field : Field) : field.supports .eq = true := by
  cases field <;> rfl

/-- A field name can be completed to a comparison, and so can a field name and an operator. -/
theorem completable_comparison {zone : Zone} (hzone : zone.offset.natAbs < secondsPerDay)
    {field : Field} {name : String} (hname : name ∈ field.aliases) :
    Completable zone .term [.name name] ∧
      ∀ op, Completable zone .term [.name name, .operator op] := by
  obtain ⟨text, value, hliteral, hvalue⟩ := exists_literal hzone field
  have hderives : Derives zone .term [.name name, .operator .eq, .literal text]
      (.leaf ⟨field, .eq, value⟩) := .comparison hname (supports_eq field) hliteral hvalue
  refine ⟨.of_derives [.operator .eq, .literal text] hderives, fun op => ?_⟩
  exact ⟨[.name name, .operator .eq], [.literal text], _, .operator [.name name] op .eq, hderives⟩

/-! ### Readings that fail -/

/-- A text that is no literal of the kind is refused as it stands, or has too many digits. -/
theorem LiteralKind.eq_of_parse_eq_error {zone : Zone} (kind : LiteralKind) {text : List Char}
    {e : CompileError} (h : kind.parse zone text = .error e) :
    e = .filter (.badLiteral (String.ofList text)) ∨ ∃ n, e = .numeralTooLong n := by
  have hnumeral : ∀ {e}, numeral text = .error e →
      e = .filter (.badLiteral (String.ofList text)) ∨ ∃ n, e = .numeralTooLong n := by
    intro e he
    unfold numeral at he
    split at he
    · exact Or.inl (Except.error.inj he).symm
    · split at he
      · exact Or.inr ⟨_, (Except.error.inj he).symm⟩
      · cases he
  have hor : ∀ value : Option Value,
      value.elim (.error (.filter (.badLiteral (String.ofList text)))) .ok =
        (.error e : Except CompileError Value) →
      e = .filter (.badLiteral (String.ofList text)) := by
    intro value hvalue
    cases value with
    | none => exact (Except.error.inj hvalue).symm
    | some value => cases hvalue
  cases kind with
  | time | address | transport | application => exact Or.inl (hor _ h)
  | port =>
    rcases bind_eq_error.mp h with he | ⟨n, -, h⟩
    · exact hnumeral he
    · split at h
      · exact Or.inl (Except.error.inj h).symm
      · cases h
  | length =>
    rcases bind_eq_error.mp h with he | ⟨n, -, h⟩
    · exact hnumeral he
    · cases h

/-- A reading of a part of a filter fails with the error at the second cursor: behind white space,
in the same text, and with lexemes before it that can be completed to such a part. -/
structure FailsAt (zone : Zone) (level : Level) (c : Cursor) (e : FilterError) (d : Cursor) : Prop
    where
  found : e.FoundAt d
  trimmed : trimStart d.rest = d.rest
  extent : d.extent = c.extent
  completable : ∃ done, Spells c.rest done d.rest ∧ Completable zone level done

/-- An error of a reading that begins at the cursor has no place, or a place as it should be. -/
def Located (zone : Zone) (level : Level) (c : Cursor) : CompileError → Prop
  | .filter e => e.position? = none ∨ ∃ d, FailsAt zone level c e d
  | .numeralTooLong _ => True

/-- What a reading that begins at the cursor comes to. -/
def Placed (zone : Zone) (level : Level) (c : Cursor) : Parser.Outcome → Prop
  | .ok (_, d) => d.extent = c.extent
  | .error e => Located zone level c e

section Failures
variable {zone : Zone} {level level' : Level} {c d : Cursor} {done left : List Lexeme}
  {e : CompileError}

/-- Something is missing behind lexemes that can be completed. -/
theorem located_missing {what : Expected} (hs : Spells c.rest done d.rest)
    (hextent : d.extent = c.extent) (hdone : Completable zone level done)
    (hmissing : what.Missing (trimStart d.rest)) :
    Located zone level c (.filter (d.skip.missing what)) := by
  exact Or.inr ⟨d.skip, .expected hmissing, trimStart_trimStart _, by rw [d.extent_skip, hextent],
    done, hs.trimmed, hdone⟩

/-- A reading fails where the reading of one of its parts fails. -/
theorem Located.within (closing : List Lexeme) (h : Located zone level d e)
    (hs : Spells c.rest left d.rest) (hextent : d.extent = c.extent)
    (hlevel : ∀ {tokens f}, Derives zone level tokens f →
      ∃ g, Derives zone level' (left ++ tokens ++ closing) g) : Located zone level' c e := by
  cases e with
  | numeralTooLong n => trivial
  | filter e =>
    rcases h with hnone | ⟨d', found, trimmed, hextent', done, hspells, hdone⟩
    · exact Or.inl hnone
    · exact Or.inr ⟨d', found, trimmed, hextent'.trans hextent, left ++ done, hs.append hspells,
        hdone.within hlevel⟩

theorem Placed.located {x : Parser.Outcome} (h : Placed zone level c x) (he : x = .error e) :
    Located zone level c e := by
  subst he
  exact h

theorem Placed.extent {x : Parser.Outcome} {f : Filter} (h : Placed zone level c x)
    (hx : x = .ok (f, d)) : d.extent = c.extent := by
  subst hx
  exact h

theorem placed_bind {x : Except CompileError α} {f : α → Parser.Outcome}
    (herror : ∀ e, x = .error e → Located zone level c e)
    (hok : ∀ a, x = .ok a → Placed zone level c (f a)) : Placed zone level c (x >>= f) := by
  cases x with
  | error e => exact herror e rfl
  | ok a => exact hok a rfl

/-- A literal is refused without a place. -/
theorem located_parse {kind : LiteralKind} {text : List Char}
    (h : kind.parse zone text = .error e) : Located zone level c e := by
  rcases kind.eq_of_parse_eq_error h with rfl | ⟨n, rfl⟩
  · exact Or.inl rfl
  · trivial

end Failures

namespace Parser
variable {zone : Zone} {c d : Cursor} {f : Filter} {text : List Char} {tokens : List Lexeme}

theorem placed_readComparison (hzone : zone.offset.natAbs < secondsPerDay) (c : Cursor) :
    Placed zone .term c (readComparison zone c) := by
  rw [readComparison_eq]
  split
  · rename_i e d hname
    obtain ⟨rfl, hmissing⟩ := Cursor.missing_of_token hname
    exact located_missing (.refl c.rest) rfl (completable_nil zone .term) hmissing
  · rename_i name c₁ hname
    have hshape := Cursor.shape_of_token hname
    have hextent₁ : c₁.extent = c.extent := Cursor.extent_token hname splits_of_name?
    have hspells₁ : Spells c.rest [.name (String.ofList name.text)] c₁.rest :=
      .one (by rw [Lexeme.text, String.toList_ofList, (splits_of_name? hshape).1])
    split
    · exact Or.inl rfl
    · rename_i field hfield
      obtain ⟨hdone₁, hdone₂⟩ := completable_comparison hzone (Field.ofAlias?_eq_some_iff.mp hfield)
      split
      · rename_i e d hop
        rcases Cursor.missing_of_operator hop with ⟨rfl, hend⟩ | ⟨text, rfl⟩
        · exact located_missing hspells₁ hextent₁ hdone₁ hend
        · exact Or.inl rfl
      · rename_i op c₂ hop
        have hextent₂ := Cursor.extent_operator hop
        have hspells₂ : Spells c₁.rest [.operator op] c₂.rest :=
          .one (splits_of_operator? (Cursor.operator?_of_operator hop)).1.symm
        split
        · rename_i e d hliteral
          obtain ⟨rfl, hmissing⟩ := Cursor.missing_of_token hliteral
          exact located_missing (hspells₁.append hspells₂) (hextent₂.trans hextent₁) (hdone₂ op)
            hmissing
        · rename_i token c₃ hliteral
          have hextent₃ : c₃.extent = c₂.extent :=
            Cursor.extent_token hliteral splits_of_literal?
          refine placed_bind (fun e he => located_parse he) fun value hvalue => ?_
          split
          · exact hextent₃.trans (hextent₂.trans hextent₁)
          · exact Or.inl rfl

theorem extent_of_require {symbol : List Char} (h : require symbol c = .ok d) :
    d.extent = c.extent := by
  unfold require Cursor.expect at h
  split at h
  · rename_i he
    split at he
    · rename_i haccept
      cases he
      cases h
      exact Cursor.extent_accept haccept
    · cases he
  · cases h

/-- What opens a filter in parentheses is read; the filter and the closing parenthesis follow. -/
theorem placed_enclosed {c₁ : Cursor} {left : List Lexeme} (wrap : Filter → Filter)
    (hs : Spells c.rest left c₁.rest) (hextent : c₁.extent = c.extent)
    (hread : Placed zone .disjunction c₁ (readDisjunction zone c₁))
    (hlevel : ∀ {tokens f}, Derives zone .disjunction tokens f →
      Derives zone .term (left ++ tokens ++ [.closing]) (wrap f)) :
    Placed zone .term c (readDisjunction zone c₁ >>= fun p =>
      require [')'] p.2 >>= fun c₂ => pure (wrap p.1, c₂)) := by
  refine placed_bind (fun e he => ?_) fun ⟨f, c₂⟩ hok => ?_
  · exact (hread.located he).within [.closing] hs hextent fun hf => ⟨_, hlevel hf⟩
  · have hextent₂ := (hread.extent hok).trans hextent
    obtain ⟨tokens, hspells, hf⟩ :=
      derives_of_readDisjunction (fun c _ => termSound zone c) (Nat.le_refl _) hok
    refine placed_bind (fun e he => ?_) fun c₃ hclose => (extent_of_require hclose).trans hextent₂
    obtain ⟨rfl, hmissing⟩ := missing_of_require he
    exact located_missing (hs.append hspells) hextent₂ (.of_derives [.closing] (hlevel hf))
      (by rwa [Expected.Missing, String.toList_ofList])

/-- The loop over terms fails in the next term. -/
theorem placed_readTerms {c₀ : Cursor} {k : Nat}
    (hterm : ∀ c, c.rest.length ≤ k → Placed zone .term c (readTerm zone c))
    (hk : c.rest.length ≤ k) (hs : Spells c₀.rest tokens c.rest) (hextent : c.extent = c₀.extent)
    (hf : Derives zone .conjunction tokens f) :
    Placed zone .conjunction c₀ (readTerms zone f c) := by
  induction hlen : c.rest.length using Nat.strongRecOn generalizing c f tokens with
  | ind len ih =>
    subst hlen
    rw [readTerms_eq]
    split
    · rename_i c₁ haccept
      have hlt₁ := Cursor.accept_length_lt haccept (by simp)
      have hboth : Spells c.rest [.both] c₁.rest := .one (Cursor.eq_append_of_accept haccept)
      have hextent₁ := (Cursor.extent_accept haccept).trans hextent
      have hnext := hterm c₁ (by omega)
      refine placed_bind (fun e he => ?_) fun ⟨g, c₂⟩ hok => ?_
      · exact (hnext.located he).within [] (hs.append hboth) hextent₁
          fun hg => ⟨_, by simpa using Derives.and hf hg⟩
      · have hlt₂ := readTerm_shorter zone hok
        have hle : c₂.rest.length ≤ k := by omega
        obtain ⟨right, hright, hg⟩ := termSound zone c₁ g c₂ hok
        exact ih _ (Nat.lt_trans hlt₂ hlt₁) hle ((hs.append hboth).append hright)
          ((hnext.extent hok).trans hextent₁) (.and hf hg) rfl
    · exact c.extent_skip.trans hextent

theorem placed_readConjunction {k : Nat}
    (hterm : ∀ c, c.rest.length ≤ k → Placed zone .term c (readTerm zone c))
    (hk : c.rest.length ≤ k) : Placed zone .conjunction c (readConjunction zone c) := by
  rw [readConjunction_eq]
  refine placed_bind (fun e he => ?_) fun ⟨g, c₁⟩ hok => ?_
  · exact ((hterm c hk).located he).within [] (.refl _) rfl
      fun hf => ⟨_, by simpa using Derives.ofTerm hf⟩
  · have hlt := readTerm_shorter zone hok
    have hle : c₁.rest.length ≤ k := by omega
    obtain ⟨tokens, hs, hg⟩ := termSound zone c g c₁ hok
    exact placed_readTerms hterm hle hs ((hterm c hk).extent hok) (.ofTerm hg)

/-- The loop over conjunctions fails in the next conjunction. -/
theorem placed_readConjunctions {c₀ : Cursor} {k : Nat}
    (hterm : ∀ c, c.rest.length ≤ k → Placed zone .term c (readTerm zone c))
    (hk : c.rest.length ≤ k) (hs : Spells c₀.rest tokens c.rest) (hextent : c.extent = c₀.extent)
    (hf : Derives zone .disjunction tokens f) :
    Placed zone .disjunction c₀ (readConjunctions zone f c) := by
  induction hlen : c.rest.length using Nat.strongRecOn generalizing c f tokens with
  | ind len ih =>
    subst hlen
    rw [readConjunctions_eq]
    split
    · rename_i c₁ haccept
      have hlt₁ := Cursor.accept_length_lt haccept (by simp)
      have heither : Spells c.rest [.either] c₁.rest := .one (Cursor.eq_append_of_accept haccept)
      have hextent₁ := (Cursor.extent_accept haccept).trans hextent
      have hnext : Placed zone .conjunction c₁ (readConjunction zone c₁) :=
        placed_readConjunction hterm (by omega)
      refine placed_bind (fun e he => ?_) fun ⟨g, c₂⟩ hok => ?_
      · exact (hnext.located he).within [] (hs.append heither) hextent₁
          fun hg => ⟨_, by simpa using Derives.or hf hg⟩
      · have hlt₂ := readConjunction_shorter zone hok
        have hle : c₂.rest.length ≤ k := by omega
        obtain ⟨right, hright, hg⟩ := derives_of_readConjunction
          (fun c _ => termSound zone c) (Nat.le_refl _) hok
        exact ih _ (Nat.lt_trans hlt₂ hlt₁) hle ((hs.append heither).append hright)
          ((hnext.extent hok).trans hextent₁) (.or hf hg) rfl
    · exact c.extent_skip.trans hextent

theorem placed_readDisjunction_of {k : Nat}
    (hterm : ∀ c, c.rest.length ≤ k → Placed zone .term c (readTerm zone c))
    (hk : c.rest.length ≤ k) : Placed zone .disjunction c (readDisjunction zone c) := by
  have hfirst : Placed zone .conjunction c (readConjunction zone c) :=
    placed_readConjunction hterm hk
  rw [readDisjunction_eq]
  refine placed_bind (fun e he => ?_) fun ⟨g, c₁⟩ hok => ?_
  · exact (hfirst.located he).within [] (.refl _) rfl
      fun hf => ⟨_, by simpa using Derives.ofConjunction hf⟩
  · have hlt := readConjunction_shorter zone hok
    have hle : c₁.rest.length ≤ k := by omega
    obtain ⟨tokens, hs, hg⟩ := derives_of_readConjunction
      (fun c _ => termSound zone c) (Nat.le_refl _) hok
    exact placed_readConjunctions hterm hle hs (hfirst.extent hok) (.ofConjunction hg)

theorem placed_readTerm (hzone : zone.offset.natAbs < secondsPerDay) (c : Cursor) :
    Placed zone .term c (readTerm zone c) := by
  induction hlen : c.rest.length using Nat.strongRecOn generalizing c with
  | ind len ih =>
    subst hlen
    have hread : ∀ c₁ : Cursor, c₁.rest.length < c.rest.length →
        Placed zone .disjunction c₁ (readDisjunction zone c₁) :=
      fun c₁ h₁ => placed_readDisjunction_of (k := c₁.rest.length)
        (fun c₂ h₂ => ih _ (Nat.lt_of_le_of_lt h₂ h₁) c₂ rfl) (Nat.le_refl _)
    rw [readTerm_eq]
    split
    · rename_i c₁ haccept
      have hlt := Cursor.accept_length_lt haccept (by simp)
      have hopen : Spells c.rest [.opening] c₁.rest := .one (Cursor.eq_append_of_accept haccept)
      exact placed_enclosed id hopen (Cursor.extent_accept haccept) (hread c₁ hlt)
        fun hf => .group hf
    · split
      · rename_i c₁ haccept
        have hlt := Cursor.accept_length_lt haccept (by simp)
        have hnot : Spells c.rest [.negation] c₁.rest := .one (Cursor.eq_append_of_accept haccept)
        have hextent := Cursor.extent_accept haccept
        refine placed_bind (fun e he => ?_) fun c₂ hopen => ?_
        · obtain ⟨rfl, hmissing⟩ := missing_of_require he
          obtain ⟨tokens, f, hf⟩ := exists_derives zone .disjunction
          exact located_missing hnot hextent (.of_derives _ (Derives.not hf))
            (by rwa [Expected.Missing, String.toList_ofList])
        · have hlt' := require_length_lt hopen (by simp)
          have hparenthesis : Spells c₁.rest [.opening] c₂.rest :=
            .one (eq_append_of_require hopen)
          exact placed_enclosed .not (hnot.append hparenthesis)
            ((extent_of_require hopen).trans hextent) (hread c₂ (by omega)) fun hf => .not hf
      · exact placed_readComparison hzone c

/-- **A reading that fails fails behind the beginning of a filter.** -/
theorem placed_readDisjunction (hzone : zone.offset.natAbs < secondsPerDay) (c : Cursor) :
    Placed zone .disjunction c (readDisjunction zone c) :=
  placed_readDisjunction_of (fun c _ => placed_readTerm hzone c) (Nat.le_refl _)

end Parser

/-! ### Texts that can be completed -/

/-- The text is the beginning of a filter: there is a text that, put behind it, makes it a layout of
lexemes that derive a filter. The operator at its end need not be one that the field supports, if
there is such a filter with another operator in its place. -/
def IsBeginning (zone : Zone) (text : List Char) : Prop :=
  ∃ suffix done more done' f, Layout done text ∧ Layout (done ++ more) (text ++ suffix) ∧
    Akin done done' ∧ Derives zone .disjunction (done' ++ more) f

theorem isBeginning_of_completable {zone : Zone} {text : List Char} {done : List Lexeme}
    (hlayout : Layout done text) (hdone : Completable zone .disjunction done) :
    IsBeginning zone text := by
  obtain ⟨done', more, f, hakin, hf⟩ := hdone
  obtain ⟨suffix, hsuffix⟩ := Spells.exists_layout more
  obtain ⟨read, rfl, hread⟩ := hlayout.exists_cut
  rw [List.append_nil] at hlayout ⊢
  exact ⟨suffix, done, more, done', f, hlayout, (hread suffix).append hsuffix, hakin, hf⟩

/-- What is put behind the beginning of a filter makes it a text that is parsed, in some cases only
with another operator in place of the one at its end. -/
theorem IsBeginning.exists_parse {zone : Zone} {text : List Char} (h : IsBeginning zone text) :
    (∃ suffix f, parse zone (text ++ suffix) = .ok f) ∨
      ∃ (op op' : Operator) (read gap suffix : List Char) (f : Filter),
        IsGap gap ∧ text = read ++ op.symbol.toList ++ gap ∧
          parse zone (read ++ op'.symbol.toList ++ gap ++ suffix) = .ok f := by
  obtain ⟨suffix, done, more, done', f, hdone, hall, hakin, hf⟩ := h
  cases hakin with
  | refl => exact Or.inl ⟨suffix, f, parse_of_derives hall hf⟩
  | operator before op op' =>
    obtain ⟨suffix, hsuffix⟩ := Spells.exists_layout more
    obtain ⟨mid, hbefore, hmid⟩ := hdone.split
    obtain ⟨read, rfl, hread⟩ := hbefore.exists_cut
    cases hmid with
    | @cons front _ _ _ _ hfront hgap =>
      cases hgap with
      | @nil gap _ hgap =>
        have hop : Spells (front ++ (op'.symbol.toList ++ (gap ++ suffix))) [.operator op']
            suffix := .cons (.operator op') hfront (.nil hgap)
        have hlayout := ((hread _).append hop).append hsuffix
        refine Or.inr ⟨op, op', read ++ front, gap, suffix, f, hgap, ?_, ?_⟩
        · simp [Lexeme.text]
        · simpa using parse_of_derives hlayout hf

/-! ### Whole texts -/

/-- The place of an error in a text. Only of a blank text the place is its start, with white space
behind it. -/
structure WellPlaced (zone : Zone) (text : List Char) (e : FilterError) (position : Nat) : Prop
    where
  inText : position ≤ text.length
  visible : (∃ c ∈ text, isBlank c = false) →
    position = text.length ∨ ∃ c, text[position]? = some c ∧ isBlank c = false
  found : (∃ c ∈ text, isBlank c = false) → e.FoundAt ⟨position, text.drop position⟩
  beginning : IsBeginning zone (text.take position)

section Whole
variable {zone : Zone} {text : List Char} {e : FilterError}

/-- What was read before the failure. -/
theorem FailsAt.exists_read {d : Cursor} (h : FailsAt zone .disjunction (.start text) e d) :
    ∃ read done, text = read ++ d.rest ∧ read.length = d.position ∧ Layout done read ∧
      Completable zone .disjunction done := by
  obtain ⟨done, hspells, hdone⟩ := h.completable
  obtain ⟨read, htext, hread⟩ := hspells.exists_cut
  replace htext : text = read ++ d.rest := htext
  have hextent : d.position + d.rest.length = 0 + text.length := h.extent
  have hlength : read.length = d.position := by
    rw [htext, List.length_append] at hextent
    omega
  exact ⟨read, done, htext, hlength, by simpa using hread [], hdone⟩

theorem FailsAt.wellPlaced {d : Cursor} (h : FailsAt zone .disjunction (.start text) e d) :
    WellPlaced zone text e d.position := by
  obtain ⟨read, done, rfl, hlength, hlayout, hdone⟩ := h.exists_read
  have hdrop : (read ++ d.rest).drop d.position = d.rest := by rw [← hlength, List.drop_left]
  have htake : (read ++ d.rest).take d.position = read := by rw [← hlength, List.take_left]
  have hnext : (read ++ d.rest)[d.position]? = d.rest.head? := by rw [← List.head?_drop, hdrop]
  constructor
  · rw [← hlength, List.length_append]
    exact Nat.le_add_right _ _
  · intro _
    rw [hnext]
    cases hrest : d.rest with
    | nil => exact Or.inl (by rw [List.append_nil, hlength])
    | cons c tail =>
      have htrimmed := h.trimmed
      rw [hrest] at htrimmed
      exact Or.inr ⟨c, rfl, not_blank_of_trimStart htrimmed⟩
  · intro _
    rw [hdrop]
    exact h.found
  · rw [htake]
    exact isBeginning_of_completable hlayout hdone

/-- An error with a place is found where a reading fails, or the text is blank. -/
theorem failsAt_of_parse (hzone : zone.offset.natAbs < secondsPerDay)
    (h : parse zone text = .error (.filter e)) (hplace : e.position? ≠ none) :
    (e = .empty ∧ trimStart text = []) ∨
      ∃ d, FailsAt zone .disjunction (.start text) e d := by
  rw [parse_eq] at h
  split at h
  · rename_i hempty
    cases h
    exact Or.inl ⟨rfl, List.isEmpty_iff.mp hempty⟩
  · right
    have hplaced := Parser.placed_readDisjunction hzone (.start text)
    rcases bind_eq_error.mp h with hread | ⟨⟨f, c⟩, hread, h⟩
    · exact (hplaced.located hread).resolve_left hplace
    · split at h
      · cases h
      · rename_i hmore
        cases h
        obtain ⟨tokens, hs, hf⟩ := Parser.derives_of_readDisjunction
          (fun c _ => Parser.termSound zone c) (Nat.le_refl _) hread
        exact ⟨c.skip, .trailing fun hend => hmore (List.isEmpty_iff.mpr hend),
          trimStart_trimStart _, c.extent_skip.trans (hplaced.extent hread), tokens, hs.trimmed,
          .of_derives [] (List.append_nil tokens ▸ hf)⟩

/-- **What stands before an error can be completed.** An error of structure names the end of the
text or a character that is not white space, unless the text is blank; what is expected does not
stand there, and what stands before it is the beginning of a filter. As every zone, the local one is
less than a day away from universal time; in another no time could be written. -/
theorem completable_before_error (hzone : zone.offset.natAbs < secondsPerDay)
    (h : parse zone text = .error (.filter e)) {position : Nat}
    (hposition : e.position? = some position) : WellPlaced zone text e position := by
  rcases failsAt_of_parse hzone h (by simp [hposition]) with ⟨rfl, hblank⟩ | ⟨d, hfails⟩
  · cases hposition
    have hnone : ¬ ∃ c ∈ text, isBlank c = false := by
      rintro ⟨c, hc, hvisible⟩
      obtain ⟨gap, hgap, htext⟩ := exists_gap text
      rw [hblank, List.append_nil] at htext
      rw [hgap c (htext ▸ hc)] at hvisible
      cases hvisible
    exact ⟨Nat.zero_le _, fun hsome => absurd hsome hnone, fun hsome => absurd hsome hnone,
      isBeginning_of_completable (.refl []) (completable_nil zone .disjunction)⟩
  · rw [hfails.found.position?] at hposition
    cases hposition
    exact hfails.wellPlaced

end Whole

/-- Addresses are not ordered, but the literal is missed first. -/
theorem completable_before_missing_literal :
    let text := "(src_ip > ".toList
    let missing := FilterError.expected .value "" 10
    parse ⟨28800⟩ text = .error (.filter missing) ∧ WellPlaced ⟨28800⟩ text missing 10 := by
  intro text missing
  have hopen : (Cursor.start text).accept ['('] = (true, ⟨1, text.tail⟩) := rfl
  have hterm : Parser.readTerm ⟨28800⟩ ⟨1, text.tail⟩ = .error (.filter missing) := by
    rw [Parser.readTerm_eq]
    rfl
  have hparse : parse ⟨28800⟩ text = .error (.filter missing) := by
    rw [parse_eq, if_neg (by decide +kernel), Parser.readDisjunction_eq, Parser.readConjunction_eq,
      Parser.readTerm_eq, hopen]
    simp only [Parser.readDisjunction_eq, Parser.readConjunction_eq, hterm]
    rfl
  exact ⟨hparse, completable_before_error (by decide) hparse rfl⟩

end TrafficMonitor.Filter
