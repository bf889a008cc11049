/-! Sums of lists of natural numbers. -/
namespace TrafficMonitor.Number

/-- The sum of a list. -/
def total (ns : List Nat) : Nat := ns.foldr (· + ·) 0

@[simp] theorem total_nil : total [] = 0 := rfl

@[simp] theorem total_cons (n : Nat) (ns : List Nat) : total (n :: ns) = n + total ns := rfl

theorem total_append (ms ns : List Nat) : total (ms ++ ns) = total ms + total ns := by
  induction ms with
  | nil => simp
  | cons m ms ih =>
    simp only [List.cons_append, total_cons, ih]
    omega

/-- The order of the numbers does not matter. -/
theorem total_perm {ms ns : List Nat} (h : ms.Perm ns) : total ms = total ns := by
  induction h with
  | nil => rfl
  | cons n _ ih => simp only [total_cons, ih]
  | swap m n ns => simp only [total_cons, Nat.add_left_comm]
  | trans _ _ ih ih' => exact ih.trans ih'

end TrafficMonitor.Number
