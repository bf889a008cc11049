import TrafficMonitor.Proofs.Text.Classes

/-! The readers of tokens against the shapes they read. A shape says what a token looks like
and nothing about the text around it; a reader takes the longest token of its shape
(`ReadsLongest`), and whatever it returns has the shape (`isNumber_of_digits?`,
`isLiteral_of_literal?`). Where what follows cannot continue the token, the reader returns exactly
the token (`digits?_append`, `time?_append`, `literal?_append`). -/
namespace TrafficMonitor.Text

/-- The text without the white space at its front. -/
def trimStart (cs : List Char) : List Char := cs.dropWhile isBlank

/-- Nothing but white space. -/
def IsGap (cs : List Char) : Prop := ∀ c ∈ cs, isBlank c = true

theorem exists_gap (cs : List Char) : ∃ gap, IsGap gap ∧ cs = gap ++ trimStart cs :=
  ⟨cs.takeWhile isBlank, fun _ h => List.all_eq_true.mp List.all_takeWhile _ h,
    List.takeWhile_append_dropWhile.symm⟩

@[simp] theorem trimStart_gap_append {gap : List Char} (h : IsGap gap) (cs : List Char) :
    trimStart (gap ++ cs) = trimStart cs := List.dropWhile_append_of_pos h

theorem trimStart_cons {c : Char} (h : isBlank c = false) (cs : List Char) :
    trimStart (c :: cs) = c :: cs := by
  simp [trimStart, h]

@[simp] theorem trimStart_trimStart (cs : List Char) : trimStart (trimStart cs) = trimStart cs := by
  cases h : trimStart cs with
  | nil => rfl
  | cons c rest =>
    have hc := List.head?_dropWhile_not isBlank cs
    rw [← trimStart, h] at hc
    exact trimStart_cons (by simpa using hc) rest

end TrafficMonitor.Text

namespace TrafficMonitor.Filter
open Text

/-! ### Shapes -/

/-- A row of digits. -/
def IsNumber (cs : List Char) : Prop := cs ≠ [] ∧ ∀ c ∈ cs, isDigit c = true

/-- The name of a field: word characters, the first of which is no digit. -/
def IsName (cs : List Char) : Prop :=
  (∃ c ∈ cs.head?, isDigit c = false) ∧ ∀ c ∈ cs, isWord c = true

instance (cs : List Char) : Decidable (IsName cs) :=
  decidable_of_iff ((cs.head?.any (!isDigit ·) && cs.all isWord) = true)
    (by simp [IsName, Option.any_eq_true])

structure Triple.IsWritten (t : Triple) : Prop where
  first : IsNumber t.first
  second : IsNumber t.second
  third : IsNumber t.third

/-- Every group of digits that a time has is there. -/
def TimeText.IsWritten (t : TimeText) : Prop :=
  t.date.IsWritten ∧ ∀ clock ∈ t.clock, clock.1.IsWritten ∧ ∀ f ∈ clock.2, IsNumber f

/-- A literal looks like a time, or like a word with dots. -/
inductive IsLiteral : List Char → Prop where
  | time {t : TimeText} : t.IsWritten → IsLiteral t.text
  | plain {cs : List Char} : cs ≠ [] → (∀ c ∈ cs, isPlain c = true) → IsLiteral cs

/-- What may follow a literal: white space and then a mark that cannot stand in one, or the end. -/
def Ends (rest : List Char) : Prop := ∀ c ∈ (trimStart rest).head?, c = ')' ∨ c = '&' ∨ c = '|'

/-! ### Runs of characters of one class -/

section Runs
variable {p : Char → Bool} {token rest : List Char}

/-- Behind a run the reader goes on as far as the class does. -/
theorem nonempty?_append_run (hne : token ≠ []) (hin : ∀ c ∈ token, p c = true) :
    nonempty? ((token ++ rest).takeWhile p) ((token ++ rest).dropWhile p) =
      some (token ++ rest.takeWhile p, rest.dropWhile p) := by
  rw [List.takeWhile_append_of_pos hin, List.dropWhile_append_of_pos hin, nonempty?,
    if_neg (by simp [hne])]

theorem takeWhile_eq_nil (hout : ∀ c ∈ rest.head?, p c = false) :
    rest.takeWhile p = [] ∧ rest.dropWhile p = rest := by
  cases rest with
  | nil => exact ⟨rfl, rfl⟩
  | cons c rest => simp [hout c rfl]

theorem nonempty?_append (hne : token ≠ []) (hin : ∀ c ∈ token, p c = true)
    (hout : ∀ c ∈ rest.head?, p c = false) :
    nonempty? ((token ++ rest).takeWhile p) ((token ++ rest).dropWhile p) = some (token, rest) := by
  obtain ⟨htake, hdrop⟩ := takeWhile_eq_nil hout
  rw [nonempty?_append_run hne hin, htake, hdrop, List.append_nil]

theorem nonempty?_eq_none (hout : ∀ c ∈ rest.head?, p c = false) :
    nonempty? (rest.takeWhile p) (rest.dropWhile p) = none := by
  cases rest with
  | nil => rfl
  | cons c rest => simp [nonempty?, hout c rfl]

theorem forall_of_nonempty? {cs : List Char}
    (h : nonempty? (cs.takeWhile p) (cs.dropWhile p) = some (token, rest)) :
    token ≠ [] ∧ ∀ c ∈ token, p c = true := by
  refine ⟨(splits_of_nonempty? h).2, ?_⟩
  unfold nonempty? at h
  split at h
  · cases h
  · cases h
    exact fun c hc => List.all_eq_true.mp List.all_takeWhile c hc

end Runs

/-! ### Numbers, names and plain values -/

theorem digits?_append_run {token : List Char} (h : IsNumber token) (rest : List Char) :
    digits? (token ++ rest) = some (token ++ rest.takeWhile isDigit, rest.dropWhile isDigit) :=
  nonempty?_append_run h.1 h.2

theorem digits?_append {token rest : List Char} (h : IsNumber token)
    (hout : ∀ c ∈ rest.head?, isDigit c = false) : digits? (token ++ rest) = some (token, rest) :=
  nonempty?_append h.1 h.2 hout

theorem digits?_eq_none {rest : List Char} (hout : ∀ c ∈ rest.head?, isDigit c = false) :
    digits? rest = none := nonempty?_eq_none hout

theorem isNumber_of_digits? {cs token rest : List Char} (h : digits? cs = some (token, rest)) :
    IsNumber token := forall_of_nonempty? h

theorem name?_append {token rest : List Char} (h : IsName token)
    (hout : ∀ c ∈ rest.head?, isWord c = false) : name? (token ++ rest) = some (token, rest) := by
  obtain ⟨⟨c, hhead, hc⟩, hin⟩ := h
  obtain ⟨tail, rfl⟩ := List.head?_eq_some_iff.mp hhead
  rw [← nonempty?_append (List.cons_ne_nil c tail) hin hout]
  simp [name?, hc]

theorem plain?_append {token rest : List Char} (hne : token ≠ [])
    (hin : ∀ c ∈ token, isPlain c = true) (hout : ∀ c ∈ rest.head?, isPlain c = false) :
    plain? (token ++ rest) = some (token, rest) := nonempty?_append hne hin hout

/-! ### Times -/

@[simp] theorem mark?_cons_self (mark : Char) (rest : List Char) :
    mark? mark (mark :: rest) = some rest := if_pos rfl

/-- The marks between the groups of a time are no digits. -/
theorem isDigit_marks : ∀ c ∈ ['-', ':', '.', ' ', ')', '&', '|'], isDigit c = false := by
  simp only [List.forall_mem_cons, List.not_mem_nil, false_implies, implies_true]
  decide +kernel

/-- More digits in the last group. -/
def Triple.extend (t : Triple) (digits : List Char) : Triple :=
  { t with third := t.third ++ digits }

@[simp] theorem Triple.text_extend (mark : Char) (t : Triple) (digits : List Char) :
    (t.extend digits).text mark = t.text mark ++ digits := by
  simp [extend, text]

theorem triple?_append_run {mark : Char} {t : Triple} (h : t.IsWritten)
    (hmark : isDigit mark = false) (rest : List Char) :
    triple? mark (t.text mark ++ rest) =
      some (t.extend (rest.takeWhile isDigit), rest.dropWhile isDigit) := by
  have hcons : ∀ tail : List Char, ∀ c ∈ (mark :: tail).head?, isDigit c = false := by
    intro tail c hc
    cases hc
    exact hmark
  simp only [triple?, Triple.text, List.append_assoc, List.cons_append,
    digits?_append h.first (hcons _), digits?_append h.second (hcons _),
    digits?_append_run h.third, mark?, if_true, Option.bind_eq_bind, Option.bind_some,
    Option.pure_def, Triple.extend]

theorem triple?_append {mark : Char} {t : Triple} {rest : List Char} (h : t.IsWritten)
    (hmark : isDigit mark = false) (hout : ∀ c ∈ rest.head?, isDigit c = false) :
    triple? mark (t.text mark ++ rest) = some (t, rest) := by
  obtain ⟨htake, hdrop⟩ := takeWhile_eq_nil hout
  rw [triple?_append_run h hmark, htake, hdrop, Triple.extend, List.append_nil]

theorem isWritten_of_triple? {mark : Char} {cs rest : List Char} {t : Triple}
    (h : triple? mark cs = some (t, rest)) : t.IsWritten := by
  simp only [triple?, Option.bind_eq_bind, Option.bind_eq_some_iff, Option.pure_def,
    Option.some.injEq, Prod.mk.injEq, Prod.exists] at h
  obtain ⟨a, cs₁, ha, cs₂, -, b, cs₃, hb, cs₄, -, c, cs₅, hc, rfl, rfl⟩ := h
  exact ⟨isNumber_of_digits? ha, isNumber_of_digits? hb, isNumber_of_digits? hc⟩

/-- After a literal no digit and no mark of a time comes next. -/
theorem Ends.head {rest : List Char} (h : Ends rest) {c : Char} (hc : c ∈ rest.head?) :
    isBlank c = true ∨ c = ')' ∨ c = '&' ∨ c = '|' := by
  cases hb : isBlank c with
  | true => exact Or.inl rfl
  | false =>
    obtain ⟨tail, rfl⟩ := List.head?_eq_some_iff.mp hc
    exact Or.inr (h c (by rw [trimStart_cons hb]; rfl))

theorem Ends.not_digit {rest : List Char} (h : Ends rest) :
    ∀ c ∈ rest.head?, isDigit c = false := by
  intro c hc
  rcases h.head hc with hb | hm
  · exact isDigit_of_isBlank hb
  · rcases hm with rfl | rfl | rfl <;> exact isDigit_marks _ (by decide)

theorem Ends.not_plain {rest : List Char} (h : Ends rest) :
    ∀ c ∈ rest.head?, isPlain c = false := by
  intro c hc
  have hmarks : ∀ c ∈ [')', '&', '|'], isPlain c = false := by
    simp only [List.forall_mem_cons, List.not_mem_nil, false_implies, implies_true]
    decide +kernel
  rcases h.head hc with hb | hm
  · have hdot : c ≠ '.' := by
      intro heq
      subst heq
      exact absurd hb (by decide +kernel)
    simp [isPlain, hdot, isWord_of_isBlank hb]
  · exact hmarks c (by simpa using hm)

theorem Ends.tail {c : Char} {rest : List Char} (h : Ends (c :: rest)) (hc : isBlank c = true) :
    Ends rest := by
  unfold Ends at h
  rwa [trimStart, List.dropWhile_cons_of_pos hc] at h

theorem Ends.ne_mark {rest : List Char} (h : Ends rest) {mark : Char}
    (hmark : mark ∈ ['-', ':', '.']) : ∀ c ∈ rest.head?, c ≠ mark := by
  have hmarks : ∀ c ∈ ['-', ':', '.'], ¬(isBlank c = true ∨ c = ')' ∨ c = '&' ∨ c = '|') := by
    simp only [List.forall_mem_cons, List.not_mem_nil, false_implies, implies_true]
    decide +kernel
  intro c hc heq
  subst heq
  exact hmarks c hmark (h.head hc)

theorem Ends.mark?_eq_none {rest : List Char} (h : Ends rest) {mark : Char}
    (hmark : mark ∈ ['-', ':', '.']) : mark? mark rest = none := by
  cases rest with
  | nil => rfl
  | cons c rest => rw [mark?, if_neg (h.ne_mark hmark c rfl)]

/-- No time of day begins where a literal may end. -/
theorem Ends.clock?_eq_none {rest : List Char} (h : Ends rest) : clock? rest = none := by
  cases rest with
  | nil => rfl
  | cons c rest =>
    by_cases hc : c = ' '
    · subst hc
      have hd := digits?_eq_none (h.tail (by decide +kernel)).not_digit
      simp [clock?, mark?, triple?, hd]
    · simp [clock?, mark?, hc]

theorem time?_append {t : TimeText} {rest : List Char} (h : t.IsWritten) (hend : Ends rest) :
    time? (t.text ++ rest) = some (t, rest) := by
  obtain ⟨date, clock⟩ := t
  obtain ⟨hdate, hclock⟩ := h
  have hhyphen : isDigit '-' = false := isDigit_marks _ (by decide)
  have hcolon : isDigit ':' = false := isDigit_marks _ (by decide)
  have hspace : ∀ tail : List Char, ∀ c ∈ (' ' :: tail).head?, isDigit c = false := by
    intro tail c hc
    cases hc
    exact isDigit_marks _ (by decide)
  have hdot : ∀ tail : List Char, ∀ c ∈ ('.' :: tail).head?, isDigit c = false := by
    intro tail c hc
    cases hc
    exact isDigit_marks _ (by decide)
  match clock with
  | none =>
    simp [time?, TimeText.text, triple?_append hdate hhyphen hend.not_digit, hend.clock?_eq_none]
  | some (clock, none) =>
    have hread : clock? (' ' :: (clock.text ':' ++ rest)) = some ((clock, none), rest) := by
      simp [clock?, triple?_append (hclock _ rfl).1 hcolon hend.not_digit,
        hend.mark?_eq_none (show '.' ∈ ['-', ':', '.'] by decide)]
    simp [time?, TimeText.text, triple?_append hdate hhyphen (hspace _), hread]
  | some (clock, some fraction) =>
    have hread : clock? (' ' :: (clock.text ':' ++ '.' :: (fraction ++ rest))) =
        some ((clock, some fraction), rest) := by
      simp [clock?, triple?_append (hclock _ rfl).1 hcolon (hdot _),
        digits?_append ((hclock _ rfl).2 _ rfl) hend.not_digit]
    simp [time?, TimeText.text, triple?_append hdate hhyphen (hspace _), hread]

theorem isWritten_of_clock? {cs rest : List Char} {clock : Triple × Option (List Char)}
    (h : clock? cs = some (clock, rest)) : clock.1.IsWritten ∧ ∀ f ∈ clock.2, IsNumber f := by
  simp only [clock?, Option.bind_eq_bind, Option.bind_eq_some_iff, Prod.exists] at h
  obtain ⟨cs₁, -, t, cs₂, ht, h⟩ := h
  split at h
  · rename_i fraction rest' hf
    obtain ⟨cs₃, -, hd⟩ := Option.bind_eq_some_iff.mp hf
    cases h
    refine ⟨isWritten_of_triple? ht, ?_⟩
    intro f hf
    cases hf
    exact isNumber_of_digits? hd
  · cases h
    exact ⟨isWritten_of_triple? ht, by intro f hf; cases hf⟩

theorem isWritten_of_time? {cs rest : List Char} {t : TimeText}
    (h : time? cs = some (t, rest)) : t.IsWritten := by
  simp only [time?, Option.bind_eq_bind, Option.bind_eq_some_iff, Prod.exists] at h
  obtain ⟨date, cs₁, hd, h⟩ := h
  split at h
  · rename_i clock rest' hc
    cases h
    refine ⟨isWritten_of_triple? hd, ?_⟩
    intro clock hclock
    cases hclock
    exact isWritten_of_clock? hc
  · cases h
    exact ⟨isWritten_of_triple? hd, by intro clock hclock; cases hclock⟩

/-! ### Literals -/

theorem time?_eq_none_of_plain {token rest : List Char} (hin : ∀ c ∈ token, isPlain c = true)
    (hend : Ends rest) : time? (token ++ rest) = none := by
  cases ht : time? (token ++ rest) with
  | none => rfl
  | some p =>
    exfalso
    obtain ⟨t, rest'⟩ := p
    obtain ⟨htext, -⟩ := splits_of_time? ht
    -- Before the first hyphen stand digits only; it is neither in the token nor behind it.
    obtain ⟨tail, htail⟩ : ∃ tail, t.text ++ rest' = t.date.first ++ '-' :: tail :=
      ⟨_, by simp only [TimeText.text, Triple.text, List.append_assoc, List.cons_append]; rfl⟩
    rw [htail] at htext
    have hhyphen : isPlain '-' = false := by decide +kernel
    rcases List.append_eq_append_iff.mp htext with ⟨more, rfl, hrest⟩ | ⟨more, hmore, rfl⟩
    · cases more with
      | nil =>
        obtain rfl : '-' :: tail = rest := hrest
        exact hend.ne_mark (by decide) '-' rfl rfl
      | cons c more =>
        obtain ⟨rfl, -⟩ := List.cons_eq_cons.mp hrest
        rw [hin '-' (by simp)] at hhyphen
        cases hhyphen
    · cases more with
      | nil => exact hend.ne_mark (by decide) '-' rfl rfl
      | cons c more =>
        have hdigit := (isWritten_of_time? ht).1.first.2 c (by rw [hmore]; simp)
        rw [hend.not_digit c rfl] at hdigit
        cases hdigit

theorem literal?_append {token rest : List Char} (h : IsLiteral token) (hend : Ends rest) :
    literal? (token ++ rest) = some (token, rest) := by
  cases h with
  | time ht => simp [literal?, time?_append ht hend]
  | plain hne hin =>
    simp [literal?, time?_eq_none_of_plain hin hend, plain?_append hne hin hend.not_plain]

theorem isLiteral_of_literal? {cs token rest : List Char} (h : literal? cs = some (token, rest)) :
    IsLiteral token := by
  unfold literal? at h
  split at h
  · rename_i ht
    cases h
    exact .time (isWritten_of_time? ht)
  · obtain ⟨hne, hin⟩ := forall_of_nonempty? h
    exact .plain hne hin

/-! ### The longest token

However the text goes on, a reader takes the longest token of its shape at the front: where a token
of the shape stands there, the reader takes that one or one that begins with it. -/

/-- The symbol of an operator. -/
def IsSymbol (cs : List Char) : Prop := ∃ op : Operator, cs = op.symbol.toList

/-- The token has the shape, is not empty and begins the text, and whatever else begins the text and
has the shape is a beginning of the token. -/
structure Longest (shape : List Char → Prop) (token text : List Char) : Prop where
  shaped : shape token
  nonempty : token ≠ []
  front : token <+: text
  longest : ∀ {other : List Char}, shape other → other <+: text → other <+: token

/-- What a reader of a shape owes: it takes a token of the shape from the front of its text, and
where a token of the shape stands at the front, it takes that one or goes on behind it. -/
structure ReadsLongest (shape : List Char → Prop)
    (reader : List Char → Option (List Char × List Char)) : Prop where
  splits : ∀ {cs token rest : List Char}, reader cs = some (token, rest) → Splits token rest cs
  shaped : ∀ {cs token rest : List Char}, reader cs = some (token, rest) → shape token
  covers : ∀ {token : List Char}, shape token → ∀ rest, ∃ taken left,
    reader (token ++ rest) = some (taken, left) ∧ token <+: taken

namespace ReadsLongest
variable {shape : List Char → Prop} {reader : List Char → Option (List Char × List Char)}
  {cs token rest : List Char}

theorem longest (h : ReadsLongest shape reader) (hread : reader cs = some (token, rest)) :
    Longest shape token cs where
  shaped := h.shaped hread
  nonempty := (h.splits hread).2
  front := ⟨rest, (h.splits hread).1⟩
  longest := by
    rintro other hother ⟨left, rfl⟩
    obtain ⟨taken, left', htaken, hfront⟩ := h.covers hother left
    rw [hread] at htaken
    cases htaken
    exact hfront

theorem absent (h : ReadsLongest shape reader) (hread : reader cs = none) (hshape : shape token) :
    ¬ token <+: cs := by
  rintro ⟨left, rfl⟩
  obtain ⟨taken, left', htaken, -⟩ := h.covers hshape left
  rw [hread] at htaken
  cases htaken

end ReadsLongest

theorem readsLongest_name : ReadsLongest IsName name? where
  splits := splits_of_name?
  shaped := by
    intro cs token rest h
    unfold name? at h
    split at h
    · split at h
      · cases h
      · rename_i c cs hdigit
        obtain ⟨hne, hin⟩ := forall_of_nonempty? h
        obtain ⟨d, tail, rfl⟩ := List.exists_cons_of_ne_nil hne
        obtain ⟨rfl, -⟩ := List.cons_eq_cons.mp (splits_of_nonempty? h).1
        exact ⟨⟨d, rfl, by simpa using hdigit⟩, hin⟩
    · cases h
  covers := by
    intro token h rest
    obtain ⟨⟨c, hc, hdigit⟩, hin⟩ := h
    obtain ⟨tail, rfl⟩ := List.head?_eq_some_iff.mp hc
    refine ⟨(c :: tail) ++ rest.takeWhile isWord, rest.dropWhile isWord, ?_, List.prefix_append ..⟩
    rw [← nonempty?_append_run (List.cons_ne_nil c tail) hin]
    simp [name?, hdigit]

/-- A symbol that is not continued by `=` is read as it stands. -/
theorem operator?_append (op : Operator) {rest : List Char} (h : ∀ c ∈ rest.head?, c ≠ '=') :
    operator? (op.symbol.toList ++ rest) = some (op, rest) := by
  cases rest with
  | nil => cases op <;> rfl
  | cons c rest =>
    have hc : c ≠ '=' := h c rfl
    cases op <;> simp [operator?, Operator.symbol, hc]

/-- Of two symbols that begin alike the longer is taken. -/
theorem readsLongest_symbol :
    ReadsLongest IsSymbol fun cs => (operator? cs).map fun p => (p.1.symbol.toList, p.2) where
  splits := by
    intro cs token rest h
    obtain ⟨⟨op, rest⟩, hop, heq⟩ := Option.map_eq_some_iff.mp h
    cases heq
    exact splits_of_operator? hop
  shaped := by
    intro cs token rest h
    obtain ⟨⟨op, rest⟩, -, heq⟩ := Option.map_eq_some_iff.mp h
    cases heq
    exact ⟨op, rfl⟩
  covers := by
    rintro _ ⟨op, rfl⟩ rest
    by_cases hrest : ∀ c ∈ rest.head?, c ≠ '='
    · exact ⟨op.symbol.toList, rest, by simp [operator?_append op hrest], List.prefix_rfl⟩
    · obtain ⟨rest, rfl⟩ : ∃ tail, rest = '=' :: tail := by
        simpa [List.head?_eq_some_iff] using hrest
      cases op with
      | lt => exact ⟨Operator.le.symbol.toList, rest, rfl, by decide⟩
      | gt => exact ⟨Operator.ge.symbol.toList, rest, rfl, by decide⟩
      | ne | le | eq | ge => exact ⟨_, _, rfl, List.prefix_rfl⟩

/-- A time of day as it was written, with the space before it. -/
def TimeText.clockText : Triple × Option (List Char) → List Char
  | (clock, none) => ' ' :: clock.text ':'
  | (clock, some fraction) => ' ' :: clock.text ':' ++ '.' :: fraction

theorem TimeText.text_some (date : Triple) (clock : Triple × Option (List Char)) :
    (⟨date, some clock⟩ : TimeText).text = date.text '-' ++ clockText clock := by
  obtain ⟨clock, _ | fraction⟩ := clock <;> rfl

/-- A time of day is taken at least as far as it goes. -/
theorem exists_clock?_append {clock : Triple × Option (List Char)} (h : clock.1.IsWritten)
    (hfraction : ∀ f ∈ clock.2, IsNumber f) (rest : List Char) :
    ∃ taken left, clock? (TimeText.clockText clock ++ rest) = some (taken, left) ∧
      TimeText.clockText clock <+: TimeText.clockText taken := by
  have hcolon : isDigit ':' = false := isDigit_marks _ (by decide)
  obtain ⟨t, _ | fraction⟩ := clock
  · have htriple := triple?_append_run h hcolon rest
    cases hread : (mark? '.' (rest.dropWhile isDigit)).bind digits? with
    | none =>
      exact ⟨(t.extend (rest.takeWhile isDigit), none), rest.dropWhile isDigit,
        by simp [clock?, TimeText.clockText, htriple, hread], by simp [TimeText.clockText]⟩
    | some p =>
      exact ⟨(t.extend (rest.takeWhile isDigit), some p.1), p.2,
        by simp [clock?, TimeText.clockText, htriple, hread], by simp [TimeText.clockText]⟩
  · have hdot : ∀ c ∈ ('.' :: (fraction ++ rest)).head?, isDigit c = false := by
      intro c hc
      cases hc
      exact isDigit_marks _ (by decide)
    have htriple := triple?_append h hcolon hdot
    exact ⟨(t, some (fraction ++ rest.takeWhile isDigit)), rest.dropWhile isDigit,
      by simp [clock?, TimeText.clockText, htriple, digits?_append_run (hfraction _ rfl)],
      by simp [TimeText.clockText]⟩

/-- A time is taken at least as far as it goes. -/
theorem exists_time?_append {t : TimeText} (h : t.IsWritten) (rest : List Char) :
    ∃ taken left, time? (t.text ++ rest) = some (taken, left) ∧ t.text <+: taken.text := by
  have hhyphen : isDigit '-' = false := isDigit_marks _ (by decide)
  obtain ⟨date, _ | clock⟩ := t
  · have htriple := triple?_append_run h.1 hhyphen rest
    have htext : (⟨date, none⟩ : TimeText).text = date.text '-' := List.append_nil _
    cases hread : clock? (rest.dropWhile isDigit) with
    | none =>
      exact ⟨⟨date.extend (rest.takeWhile isDigit), none⟩, rest.dropWhile isDigit,
        by simp [time?, htext, htriple, hread], by simp [TimeText.text]⟩
    | some p =>
      exact ⟨⟨date.extend (rest.takeWhile isDigit), some p.1⟩, p.2,
        by simp [time?, htext, htriple, hread], by simp [TimeText.text]⟩
  · obtain ⟨hclock, hfraction⟩ := h.2 clock rfl
    obtain ⟨taken, left, hread, hfront⟩ := exists_clock?_append hclock hfraction rest
    have hspace : ∀ c ∈ (TimeText.clockText clock ++ rest).head?, isDigit c = false := by
      intro c hc
      obtain ⟨t, _ | fraction⟩ := clock <;> cases hc <;> exact isDigit_marks _ (by decide)
    have htriple := triple?_append h.1 hhyphen hspace
    refine ⟨⟨date, some taken⟩, left, ?_, ?_⟩
    · simp [time?, TimeText.text_some, htriple, hread]
    · rw [TimeText.text_some, TimeText.text_some]
      exact (List.prefix_append_right_inj _).mpr hfront

/-- A time has a hyphen, which no plain value has. -/
theorem not_prefix_of_plain {t : TimeText} {token : List Char}
    (hin : ∀ c ∈ token, isPlain c = true) : ¬ t.text <+: token := by
  rintro ⟨rest, rfl⟩
  have hmem : '-' ∈ t.text := by simp [TimeText.text, Triple.text]
  have hplain := hin '-' (List.mem_append_left _ hmem)
  revert hplain
  decide +kernel

theorem readsLongest_literal : ReadsLongest IsLiteral literal? where
  splits := splits_of_literal?
  shaped := isLiteral_of_literal?
  covers := by
    intro token h rest
    cases h with
    | @time t ht =>
      obtain ⟨taken, left, hread, hfront⟩ := exists_time?_append ht rest
      exact ⟨taken.text, left, by simp [literal?, hread], hfront⟩
    | plain hne hin =>
      cases hread : time? (token ++ rest) with
      | none =>
        exact ⟨token ++ rest.takeWhile isPlain, rest.dropWhile isPlain,
          by simp [literal?, hread, plain?, nonempty?_append_run hne hin],
          List.prefix_append ..⟩
      | some p =>
        -- Where a time stands at the front, it goes beyond every plain value there.
        refine ⟨p.1.text, p.2, by simp [literal?, hread], ?_⟩
        have hfront : p.1.text <+: token ++ rest := ⟨p.2, (splits_of_time? hread).1⟩
        exact (List.prefix_or_prefix_of_prefix (List.prefix_append token rest) hfront).resolve_right
          (not_prefix_of_plain hin)

end TrafficMonitor.Filter
