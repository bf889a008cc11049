import TrafficMonitor.Proofs.Text.Classes

/-! Decimal numerals are read back. A number is written with the digits `0` to `9`, which are
digits and word characters also in the larger classes of the filter language, and the value of
its digits is the number, with or without leading zeros. The value of any row of digits, of
whatever script, is positional (`value_append`). -/
namespace TrafficMonitor.Text
variable {c : Char} {cs : List Char} {n : Nat}

/-! ### The digits `0` to `9` -/

theorem exists_digitChar (h : c.isDigit = true) : ∃ n < 10, c = n.digitChar := by
  have hrange : 48 ≤ c.toNat ∧ c.toNat ≤ 57 := by
    simpa [Char.isDigit, UInt32.le_iff_toNat_le] using h
  refine ⟨c.toNat - 48, by omega, Char.toNat_inj.mp ?_⟩
  rw [Nat.toNat_digitChar_of_lt_ten (by omega)]
  omega

/-- A property of the digits `0` to `9` can be checked one digit at a time. -/
theorem forall_isDigit {p : Char → Prop} (h : ∀ n < 10, p n.digitChar) :
    c.isDigit = true → p c := by
  intro hc
  obtain ⟨n, hn, rfl⟩ := exists_digitChar hc
  exact h n hn

theorem isDigit_of_ascii : c.isDigit = true → isDigit c = true :=
  forall_isDigit (p := fun c => isDigit c = true) (by decide +kernel)

theorem isAsciiDigit_of_ascii : c.isDigit = true → isAsciiDigit c = true :=
  forall_isDigit (p := fun c => isAsciiDigit c = true) (by decide +kernel)

theorem isWord_of_ascii : c.isDigit = true → isWord c = true :=
  forall_isDigit (p := fun c => isWord c = true) (by decide +kernel)

theorem digitValue?_of_ascii : c.isDigit = true → digitValue? c = some (c.toNat - '0'.toNat) :=
  forall_isDigit (p := fun c => digitValue? c = some (c.toNat - '0'.toNat)) (by decide +kernel)

/-! ### Numerals -/

/-- Digits in front count as many times ten as digits follow. -/
theorem value_append (cs ds : List Char) :
    value (cs ++ ds) = value cs * Nat.pow 10 ds.length + value ds := by
  have hfoldl : ∀ n, ds.foldl (fun n c => 10 * n + (digitValue? c).getD 0) n =
      n * Nat.pow 10 ds.length + value ds := by
    induction ds with
    | nil => exact fun n => (Nat.mul_one n).symm
    | cons d ds ih =>
      intro n
      have hpow : Nat.pow 10 (d :: ds).length = 10 * Nat.pow 10 ds.length := Nat.mul_comm _ _
      rw [value, List.foldl_cons, List.foldl_cons, ih, ih, hpow, Nat.mul_zero, Nat.zero_add,
        Nat.add_mul, Nat.add_assoc, ← Nat.mul_assoc n, Nat.mul_comm n 10]
  rw [value, List.foldl_append]
  exact hfoldl _

theorem digitValue?_lt {m : Nat} (h : digitValue? c = some m) : m < 10 := by
  obtain ⟨first, hfirst, rfl⟩ := Option.map_eq_some_iff.mp h
  have hrange := List.find?_some hfirst
  simp only [Bool.and_eq_true, decide_eq_true_eq] at hrange
  omega

theorem value_lt (cs : List Char) : value cs < Nat.pow 10 cs.length := by
  induction cs with
  | nil => exact Nat.one_pos
  | cons c cs ih =>
    have hdigit : value [c] < 10 := by
      show 10 * 0 + (digitValue? c).getD 0 < 10
      cases h : digitValue? c with
      | none => decide
      | some m => simpa using digitValue?_lt h
    let power := Nat.pow 10 cs.length
    rw [← List.singleton_append, value_append]
    calc value [c] * power + value cs < value [c] * power + power := Nat.add_lt_add_left ih _
      _ = (value [c] + 1) * power := (Nat.succ_mul ..).symm
      _ ≤ 10 * power := Nat.mul_le_mul_right _ hdigit
      _ = power * 10 := Nat.mul_comm ..

theorem value_zeros (n : Nat) : value (List.replicate n '0') = 0 := by
  induction n with
  | zero => rfl
  | succ n ih =>
    have hzero : value ['0'] = 0 := by decide +kernel
    rw [List.replicate_succ, ← List.singleton_append, value_append, ih, hzero, Nat.zero_mul]

theorem value_of_ascii (h : ∀ c ∈ cs, c.isDigit = true) : value cs = Nat.ofDigitChars 10 cs 0 := by
  have hfoldl : ∀ n, cs.foldl (fun n c => 10 * n + (digitValue? c).getD 0) n =
      Nat.ofDigitChars 10 cs n := by
    induction cs with
    | nil => exact fun n => rfl
    | cons c cs ih =>
      intro n
      rw [List.foldl_cons, digitValue?_of_ascii (h c List.mem_cons_self), Option.getD_some,
        ih fun c hc => h c (List.mem_cons_of_mem _ hc), Nat.ofDigitChars_cons]
  exact hfoldl 0

theorem isDigit_of_mem_toDigits (h : c ∈ Nat.toDigits 10 n) : c.isDigit = true :=
  Nat.isDigit_of_mem_toDigits (by decide) (by decide) h

theorem isDigit_of_mem_zeroPadded {width : Nat} (h : c ∈ zeroPadded width n) :
    c.isDigit = true := by
  rcases List.mem_append.mp h with hzero | hdigit
  · rw [List.eq_of_mem_replicate hzero]
    rfl
  · exact isDigit_of_mem_toDigits hdigit

theorem zeroPadded_ne_nil (width n : Nat) : zeroPadded width n ≠ [] :=
  List.append_ne_nil_of_right_ne_nil _ Nat.toDigits_ne_nil

theorem value_zeroPadded (width n : Nat) : value (zeroPadded width n) = n := by
  rw [value_of_ascii fun c hc => isDigit_of_mem_zeroPadded hc, zeroPadded, List.leftpad,
    Nat.ofDigitChars_append, Nat.ofDigitChars_replicate_zero, Nat.mul_zero,
    Nat.ofDigitChars_ten_toDigits]

theorem length_zeroPadded_le {width k : Nat} (hwidth : width ≤ k)
    (h : (Nat.toDigits 10 n).length ≤ k) : (zeroPadded width n).length ≤ k := by
  rw [zeroPadded, List.length_leftpad]
  omega

end TrafficMonitor.Text
