import Mathlib.Tactic.SplitIfs
import TrafficMonitor.Proofs.Analysis.Nesting
import TrafficMonitor.Proofs.Report.HexReading
import TrafficMonitor.Proofs.Text.Decimal
import TrafficMonitor.Report.Entry
import TrafficMonitor.Report.Series
import TrafficMonitor.Report.TotalsTables

/-! Reports are plain. Whatever a record holds, no escape character stands in its row, its object or
the dump of its packet, and none in tables and charts (`Plain`): all of it is made of digits, of
names and titles that are given once and for all, and of marks between them. So no control sequence
begins in a report, and a stream that only acts on control sequences shows it as it is. -/
namespace TrafficMonitor.Report
open Network Number Packet Text Time

/-- No escape character stands in the text, so no control sequence begins in it. -/
def Plain (text : String) : Prop := '\x1b' ∉ text.toList

instance (text : String) : Decidable (Plain text) := inferInstanceAs (Decidable (_ ∉ _))

variable {a b text : String} {cs : List Char}

/-! ### Texts put together -/

theorem plain_append : Plain (a ++ b) ↔ Plain a ∧ Plain b := by
  rw [Plain, String.toList_append, List.mem_append, not_or, Plain, Plain]

theorem not_mem_of_digits (h : ∀ c ∈ cs, c.isDigit = true) : '\x1b' ∉ cs :=
  fun hmem => absurd (h _ hmem) (by decide)

theorem not_mem_toDigits (n : Nat) : '\x1b' ∉ Nat.toDigits 10 n :=
  not_mem_of_digits fun _ hc => isDigit_of_mem_toDigits hc

theorem plain_nat (n : Nat) : Plain (toString n) := by
  rw [Plain, Nat.toString_eq_repr, Nat.toList_repr]
  exact not_mem_toDigits n

theorem plain_int (n : Int) : Plain (toString n) := by
  rw [Int.toString_eq_repr, Int.repr_eq_if]
  split
  · exact plain_nat _
  · exact plain_append.mpr ⟨by decide, plain_nat _⟩

theorem plain_transport (p : Transport) : Plain p.label := by
  have hnames : ∀ name ∈ "Test1" :: "Test2" :: assignedNames, Plain name := by
    decide +kernel
  cases h : p.name? with
  | none =>
    rw [Transport.label, h]
    exact plain_append.mpr ⟨plain_append.mpr ⟨by decide, plain_int _⟩, by decide⟩
  | some name =>
    rw [Transport.label, h]
    refine hnames name ?_
    unfold Transport.name? at h
    split at h
    · cases h
      exact List.mem_cons_self
    · split at h
      · cases h
        exact List.mem_cons_of_mem _ List.mem_cons_self
      · split at h
        · cases h
        · exact List.mem_cons_of_mem _ (List.mem_cons_of_mem _ (List.mem_of_getElem? h))

theorem plain_application (p : Application) : Plain p.name := by
  cases p <;> decide

/-- The rows have plain names, as those of protocols are. -/
structure PlainlyNamed (t : Totals) : Prop where
  transport : ∀ row ∈ t.transport, Plain row.1
  application : ∀ row ∈ t.application, Plain row.1

theorem PlainlyNamed.add {t : Totals} (h : PlainlyNamed t) (r : Record) :
    PlainlyNamed (t.add r) := by
  unfold Totals.add
  constructor
  case transport =>
    dsimp only
    split
    · exact Rows.forall_update h.transport _ (plain_transport _) fun _ hname => hname
    · exact h.transport
  case application =>
    dsimp only
    split
    · exact Rows.forall_update h.application _ (plain_application _) fun _ hname => hname
    · exact h.application

theorem PlainlyNamed.addAll {t : Totals} (h : PlainlyNamed t) (rs : List Record) :
    PlainlyNamed (t.addAll rs) := by
  induction rs generalizing t with
  | nil => exact h
  | cons r rest ih => exact ih (h.add r)

end TrafficMonitor.Report
