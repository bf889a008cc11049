import TrafficMonitor.Text.Blank
import TrafficMonitor.Text.Numeral
import TrafficMonitor.Text.Word
import TrafficMonitor.Filter.Operator

/-! The shapes of tokens. Each reader takes the longest token of its shape from the front of a
text and leaves the rest, or refuses a text that does not begin with one. A time is read into
its groups of digits, and `TimeText.text` puts it together again. -/
namespace TrafficMonitor.Filter
open Text

/-- A token that is not empty, and the text after it. -/
def nonempty? (token rest : List Char) : Option (List Char × List Char) :=
  if token.isEmpty then none else some (token, rest)

/-- Digits of any script. -/
def digits? (cs : List Char) : Option (List Char × List Char) :=
  nonempty? (cs.takeWhile isDigit) (cs.dropWhile isDigit)

/-- A field name: word characters, the first of which is no digit. -/
def name? (cs : List Char) : Option (List Char × List Char) :=
  match cs with
  | c :: _ => if isDigit c then none else nonempty? (cs.takeWhile isWord) (cs.dropWhile isWord)
  | [] => none

/-- The characters of a plain value: those of words, and dots. -/
def isPlain (c : Char) : Bool := c = '.' || isWord c

/-- A plain value. -/
def plain? (cs : List Char) : Option (List Char × List Char) :=
  nonempty? (cs.takeWhile isPlain) (cs.dropWhile isPlain)

/-- Anything up to the next white space. -/
def junk (cs : List Char) : List Char := cs.takeWhile (!isBlank ·)

/-- The operator that begins a text. Of two symbols, the longer is taken. -/
def operator? (cs : List Char) : Option (Operator × List Char) :=
  match cs with
  | '=' :: '=' :: rest => some (.eq, rest)
  | '!' :: '=' :: rest => some (.ne, rest)
  | '>' :: '=' :: rest => some (.ge, rest)
  | '>' :: rest => some (.gt, rest)
  | '<' :: '=' :: rest => some (.le, rest)
  | '<' :: rest => some (.lt, rest)
  | _ => none

/-! ### Times -/

/-- Three groups of digits. -/
structure Triple where
  first : List Char
  second : List Char
  third : List Char
deriving Repr, DecidableEq

/-- The groups with a mark between them. -/
def Triple.text (mark : Char) (t : Triple) : List Char :=
  t.first ++ mark :: t.second ++ mark :: t.third

/-- The text after a mark. -/
def mark? (mark : Char) : List Char → Option (List Char)
  | c :: rest => if c = mark then some rest else none
  | [] => none

/-- Reads three groups of digits with a mark between them. -/
def triple? (mark : Char) (cs : List Char) : Option (Triple × List Char) := do
  let (first, cs) ← digits? cs
  let (second, cs) ← digits? (← mark? mark cs)
  let (third, cs) ← digits? (← mark? mark cs)
  return (⟨first, second, third⟩, cs)

/-- The digits of a time: a date, perhaps a time of day, and perhaps a fraction of a second. -/
structure TimeText where
  date : Triple
  clock : Option (Triple × Option (List Char))
deriving Repr, DecidableEq

/-- The time as it was written. -/
def TimeText.text (t : TimeText) : List Char :=
  t.date.text '-' ++
    match t.clock with
    | none => []
    | some (clock, none) => ' ' :: clock.text ':'
    | some (clock, some fraction) => ' ' :: clock.text ':' ++ '.' :: fraction

/-- Reads a time of day after one space, with a fraction if one follows. -/
def clock? (cs : List Char) : Option ((Triple × Option (List Char)) × List Char) := do
  let (clock, rest) ← triple? ':' (← mark? ' ' cs)
  match (mark? '.' rest).bind digits? with
  | some (fraction, rest) => return ((clock, some fraction), rest)
  | none => return ((clock, none), rest)

/-- Reads a time, as much of it as there is. -/
def time? (cs : List Char) : Option (TimeText × List Char) := do
  let (date, rest) ← triple? '-' cs
  match clock? rest with
  | some (clock, rest) => return (⟨date, some clock⟩, rest)
  | none => return (⟨date, none⟩, rest)

/-- A literal of the filter language: a time, or else a plain value. -/
def literal? (cs : List Char) : Option (List Char × List Char) :=
  match time? cs with
  | some (t, rest) => some (t.text, rest)
  | none => plain? cs

/-! ### Tokens are taken from the front

`Splits token rest cs` says that `cs` begins with a token, which is not empty, and goes on with
`rest`. Every reader of this file splits its text. -/

/-- The token is not empty, and with the rest it is the whole text. -/
def Splits (token rest cs : List Char) : Prop := token ++ rest = cs ∧ token ≠ []

theorem Splits.length_lt {token rest cs : List Char} (h : Splits token rest cs) :
    rest.length < cs.length := by
  obtain ⟨rfl, hne⟩ := h
  have := List.length_pos_iff.mpr hne
  simp only [List.length_append]
  omega

theorem splits_of_nonempty? {p : Char → Bool} {cs token rest : List Char}
    (h : nonempty? (cs.takeWhile p) (cs.dropWhile p) = some (token, rest)) :
    Splits token rest cs := by
  unfold nonempty? at h
  split at h
  · cases h
  · rename_i hne
    cases h
    exact ⟨List.takeWhile_append_dropWhile, by simpa using hne⟩

theorem splits_of_digits? {cs token rest : List Char} (h : digits? cs = some (token, rest)) :
    Splits token rest cs := splits_of_nonempty? h

theorem splits_of_plain? {cs token rest : List Char} (h : plain? cs = some (token, rest)) :
    Splits token rest cs := splits_of_nonempty? h

theorem splits_of_name? {cs token rest : List Char} (h : name? cs = some (token, rest)) :
    Splits token rest cs := by
  unfold name? at h
  split at h
  · split at h
    · cases h
    · exact splits_of_nonempty? h
  · cases h

theorem eq_cons_of_mark? {mark : Char} {cs rest : List Char} (h : mark? mark cs = some rest) :
    cs = mark :: rest := by
  cases cs with
  | nil => cases h
  | cons c cs =>
    simp only [mark?] at h
    split at h
    · cases h
      simp_all
    · cases h

theorem splits_of_triple? {mark : Char} {cs rest : List Char} {t : Triple}
    (h : triple? mark cs = some (t, rest)) : Splits (t.text mark) rest cs := by
  simp only [triple?, Option.bind_eq_bind, Option.bind_eq_some_iff, Option.pure_def,
    Option.some.injEq, Prod.mk.injEq, Prod.exists] at h
  obtain ⟨a, cs₁, ha, cs₂, hm₁, b, cs₃, hb, cs₄, hm₂, c, cs₅, hc, rfl, rfl⟩ := h
  obtain ⟨rfl, hne⟩ := splits_of_digits? ha
  obtain rfl := eq_cons_of_mark? hm₁
  obtain ⟨rfl, -⟩ := splits_of_digits? hb
  obtain rfl := eq_cons_of_mark? hm₂
  obtain ⟨rfl, -⟩ := splits_of_digits? hc
  simp [Splits, Triple.text, hne]

/-- A time of day takes its text, with the space before it, from the front. -/
theorem eq_append_of_clock? {cs rest : List Char} {clock : Triple × Option (List Char)}
    (h : clock? cs = some (clock, rest)) (date : Triple) :
    date.text '-' ++ cs = (⟨date, some clock⟩ : TimeText).text ++ rest := by
  simp only [clock?, Option.bind_eq_bind, Option.bind_eq_some_iff, Prod.exists] at h
  obtain ⟨cs₁, hm, t, cs₂, ht, h⟩ := h
  obtain rfl := eq_cons_of_mark? hm
  obtain ⟨rfl, -⟩ := splits_of_triple? ht
  split at h
  · rename_i fraction rest' hf
    obtain ⟨cs₃, hm', hd⟩ := Option.bind_eq_some_iff.mp hf
    obtain rfl := eq_cons_of_mark? hm'
    obtain ⟨rfl, -⟩ := splits_of_digits? hd
    cases h
    simp [TimeText.text]
  · cases h
    simp [TimeText.text]

theorem splits_of_time? {cs rest : List Char} {t : TimeText} (h : time? cs = some (t, rest)) :
    Splits t.text rest cs := by
  simp only [time?, Option.bind_eq_bind, Option.bind_eq_some_iff, Prod.exists] at h
  obtain ⟨date, cs₁, hd, h⟩ := h
  obtain ⟨rfl, hne⟩ := splits_of_triple? hd
  have hne' : ∀ clock, (⟨date, clock⟩ : TimeText).text ≠ [] := by
    intro clock
    simp only [TimeText.text]
    exact List.append_ne_nil_of_left_ne_nil hne _
  split at h
  · rename_i clock rest' hc
    cases h
    exact ⟨(eq_append_of_clock? hc date).symm, hne' _⟩
  · cases h
    exact ⟨by simp [TimeText.text], hne' _⟩

theorem splits_of_literal? {cs token rest : List Char} (h : literal? cs = some (token, rest)) :
    Splits token rest cs := by
  unfold literal? at h
  split at h
  · rename_i ht
    cases h
    exact splits_of_time? ht
  · exact splits_of_plain? h

theorem splits_of_operator? {cs rest : List Char} {op : Operator}
    (h : operator? cs = some (op, rest)) : Splits op.symbol.toList rest cs := by
  unfold operator? at h
  split at h <;> cases h <;> simp [Splits, Operator.symbol]

end TrafficMonitor.Filter
