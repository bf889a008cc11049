import TrafficMonitor.Filter.Shape

/-! Classes of characters that exclude each other. White space is a finite set of code points, so
that no blank is a word character or a digit can be checked one blank at a time. These facts keep
tokens apart: where white space or a mark follows a word or a number, the longest match ends
there. -/
namespace TrafficMonitor.Text

/-- The code points of the ranges. -/
def Ranges.codes (rs : Ranges) : List Nat := rs.flatMap fun (first, last) =>
  List.range' first (last + 1 - first)

theorem Ranges.mem_codes {rs : Ranges} {n : Nat} (h : rs.containsCode n = true) : n ∈ rs.codes := by
  induction rs with
  | nil => cases h
  | cons range rest ih =>
    obtain ⟨first, last⟩ := range
    simp only [Ranges.codes, List.flatMap_cons, List.mem_append, List.mem_range'_1]
    simp only [Ranges.containsCode] at h
    split at h
    · cases h
    · rcases Bool.or_eq_true_iff.mp h with hle | hrest
      · left
        have := of_decide_eq_true hle
        omega
      · exact Or.inr (ih hrest)

theorem codes_blanks_not_word : ∀ n ∈ blanks.codes, Word.ranges.containsCode n = false := by
  decide +kernel

theorem codes_blanks_not_digit : ∀ n ∈ blanks.codes,
    (zeros.find? fun z => z ≤ n && n < z + 10) = none := by
  decide +kernel

theorem isWord_of_isBlank {c : Char} (h : isBlank c = true) : isWord c = false :=
  codes_blanks_not_word _ (Ranges.mem_codes h)

theorem isDigit_of_isBlank {c : Char} (h : isBlank c = true) : isDigit c = false := by
  simp [isDigit, digitValue?, codes_blanks_not_digit _ (Ranges.mem_codes h)]

end TrafficMonitor.Text
