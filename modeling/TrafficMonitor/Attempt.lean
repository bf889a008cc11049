/-! State changes that can fail half way. An attempt ends with a state in any case, and with the
failure that stopped it if there was one: what was changed before the failure stays changed. -/
namespace TrafficMonitor

/-- The state that was reached, and why it went no further. -/
structure Attempt (ε σ : Type) where
  state : σ
  failure : Option ε

namespace Attempt

/-- A change that was made. -/
def done (s : σ) : Attempt ε σ := ⟨s, none⟩

/-- A change that stopped at a state. -/
def stopped (s : σ) (e : ε) : Attempt ε σ := ⟨s, some e⟩

/-- Goes on unless it has stopped. -/
def andThen (a : Attempt ε σ) (f : σ → Attempt ε σ) : Attempt ε σ :=
  match a.failure with
  | none => f a.state
  | some _ => a

/-- Makes changes one after another, up to the first that fails. -/
def each (f : α → σ → Attempt ε σ) : List α → σ → Attempt ε σ
  | [], s => done s
  | a :: rest, s => (f a s).andThen (each f rest)

/-- The same change inside a larger state, with failures of a larger kind. -/
def lift (a : Attempt ε σ) (state : σ → τ) (failure : ε → δ) : Attempt δ τ :=
  ⟨state a.state, a.failure.map failure⟩

@[simp] theorem done_andThen (s : σ) (f : σ → Attempt ε σ) : (done s).andThen f = f s := rfl

@[simp] theorem stopped_andThen (s : σ) (e : ε) (f : σ → Attempt ε σ) :
    (stopped s e).andThen f = stopped s e := rfl

theorem andThen_assoc (a : Attempt ε σ) (f g : σ → Attempt ε σ) :
    (a.andThen f).andThen g = a.andThen fun s => (f s).andThen g := by
  obtain ⟨s, _ | e⟩ := a <;> rfl

@[simp] theorem andThen_done (a : Attempt ε σ) : a.andThen done = a := by
  obtain ⟨s, _ | e⟩ := a <;> rfl

theorem each_append (f : α → σ → Attempt ε σ) (xs ys : List α) (s : σ) :
    each f (xs ++ ys) s = (each f xs s).andThen (each f ys) := by
  induction xs generalizing s with
  | nil => rfl
  | cons x xs ih =>
    have hrest : each f (xs ++ ys) = fun s => (each f xs s).andThen (each f ys) := funext ih
    simp only [List.cons_append, each, andThen_assoc, hrest]

end Attempt

end TrafficMonitor
