import TrafficMonitor.Proofs.Filter.Safety

/-! Which comparisons an evaluation makes. A formula is evaluated from the root down, and each `and`
decides on its own whether to go on. Seen from a leaf that is a matter of all the `and`s above it:
the leaf is reached if every one of them that has it on the right is true on the left
(`Formula.Reaches`); an `or` hides nothing. The leaves that are reached, from left to right, are the
comparisons that are made, up to the first without a truth value, and if all have one, the outcome
is the ordinary truth value of the tree (`Formula.judge_eq_inTurn`). The main statement is
`evaluate_reached`. -/
namespace TrafficMonitor.Filter
open Time

/-! ### Places in a formula -/

/-- A step from a formula down to an operand. -/
inductive Turn where
  /-- To the operand of a `not`. -/
  | inner
  | left
  | right
deriving DecidableEq

/-- The steps from the root of a formula down to a part of it. -/
abbrev Place := List Turn

namespace Formula
variable {α : Type}

/-- The operand that a step leads to. -/
def operand? : Turn → Formula α → Option (Formula α)
  | .inner, not f => some f
  | .left, and f _ | .left, or f _ => some f
  | .right, and _ g | .right, or _ g => some g
  | _, _ => none

/-- The part of a formula at a place. -/
def at? : Place → Formula α → Option (Formula α)
  | [], f => some f
  | turn :: rest, f => (f.operand? turn).bind (at? rest)

/-- The formula with another part at a place, if it has any there. -/
def put (f part : Formula α) (place : Place) : Formula α :=
  match place, f with
  | [], _ => part
  | .inner :: rest, not f => not (f.put part rest)
  | .left :: rest, and f g => and (f.put part rest) g
  | .left :: rest, or f g => or (f.put part rest) g
  | .right :: rest, and f g => and f (g.put part rest)
  | .right :: rest, or f g => or f (g.put part rest)
  | _ :: _, f => f

/-- Leaves with their places in an operand, with their places in the formula. -/
def under (turn : Turn) (leaves : List (Place × α)) : List (Place × α) :=
  leaves.map fun leaf => (turn :: leaf.1, leaf.2)

/-- The leaves from left to right, each with its place. -/
def placed : Formula α → List (Place × α)
  | leaf a => [([], a)]
  | not f => under .inner f.placed
  | and f g | or f g => under .left f.placed ++ under .right g.placed

theorem map_snd_under (turn : Turn) (leaves : List (Place × α)) :
    (under turn leaves).map Prod.snd = leaves.map Prod.snd := by
  simp [under]

/-- Without their places they are the leaves. -/
theorem map_snd_placed (f : Formula α) : f.placed.map Prod.snd = f.leaves := by
  induction f with
  | leaf a => rfl
  | not f ih => rw [placed, map_snd_under, ih, leaves]
  | and f g ihf ihg | or f g ihf ihg =>
    rw [placed, List.map_append, map_snd_under, map_snd_under, ihf, ihg, leaves]

/-- A leaf is listed with a place exactly if it stands there. -/
theorem mem_placed {f : Formula α} {place : Place} {a : α} :
    (place, a) ∈ f.placed ↔ f.at? place = some (leaf a) := by
  induction f generalizing place with
  | leaf b =>
    cases place with
    | nil => simp [placed, at?, eq_comm]
    | cons turn rest => cases turn <;> simp [placed, at?, operand?]
  | not f ih =>
    cases place with
    | nil => simp [placed, under, at?]
    | cons turn rest => cases turn <;> simp [placed, under, at?, operand?, ← ih]
  | and f g ihf ihg | or f g ihf ihg =>
    cases place with
    | nil => simp [placed, under, at?]
    | cons turn rest => cases turn <;> simp [placed, under, at?, operand?, ← ihf, ← ihg]

/-! ### Leaves that are reached -/

/-- Every `and` above a place that has it on the right is true on the left. -/
def Reaches (truth : α → Bool) (f : Formula α) (place : Place) : Prop :=
  ∀ above rest g h, place = above ++ .right :: rest → f.at? above = some (and g h) →
    g.holds truth = true

section Reaches
variable {truth : α → Bool} {f g : Formula α} {turn : Turn} {rest : Place}

theorem reaches_nil : f.Reaches truth [] := by
  intro above rest g h hplace
  cases above <;> cases hplace

/-- One step down asks for the `and` that is left by it, and the rest for those below. -/
theorem reaches_cons : f.Reaches truth (turn :: rest) ↔
    (∀ g h, turn = .right → f = and g h → g.holds truth = true) ∧
      ∀ f', f.operand? turn = some f' → f'.Reaches truth rest := by
  constructor
  · intro hreaches
    refine ⟨fun g h hturn hf => ?_, fun f' hf' above below g h hrest hat => ?_⟩
    · exact hreaches [] rest g h (by rw [hturn]; rfl) (by rw [hf]; rfl)
    · exact hreaches (turn :: above) below g h (by rw [hrest]; rfl)
        (by rw [at?, hf', Option.bind_some, hat])
  · rintro ⟨hroot, hbelow⟩ above below g h hplace hat
    cases above with
    | nil =>
      obtain ⟨hturn, -⟩ := List.cons.inj hplace
      exact hroot g h hturn (Option.some.inj hat)
    | cons first above =>
      obtain ⟨rfl, hrest⟩ := List.cons.inj hplace
      obtain ⟨f', hf', hat⟩ := Option.bind_eq_some_iff.mp hat
      exact hbelow f' hf' above below g h hrest hat

theorem reaches_not : (not f).Reaches truth (.inner :: rest) ↔ f.Reaches truth rest := by
  simp [reaches_cons, operand?]

theorem reaches_and_left : (and f g).Reaches truth (.left :: rest) ↔ f.Reaches truth rest := by
  simp [reaches_cons, operand?]

theorem reaches_and_right : (and f g).Reaches truth (.right :: rest) ↔
    f.holds truth = true ∧ g.Reaches truth rest := by
  simp [reaches_cons, operand?]

theorem reaches_or_left : (or f g).Reaches truth (.left :: rest) ↔ f.Reaches truth rest := by
  simp [reaches_cons, operand?]

theorem reaches_or_right : (or f g).Reaches truth (.right :: rest) ↔ g.Reaches truth rest := by
  simp [reaches_cons, operand?]

/-- A place that the formula does not have is reached at once. -/
theorem reaches_of_operand?_eq_none (h : f.operand? turn = none) :
    f.Reaches truth (turn :: rest) := by
  refine reaches_cons.mpr ⟨fun g h' hturn hf => ?_, fun f' hf' => ?_⟩
  · subst hturn hf
    cases h
  · rw [h] at hf'
    cases hf'

end Reaches

instance decidableReaches (truth : α → Bool) :
    (f : Formula α) → (place : Place) → Decidable (f.Reaches truth place)
  | _, [] => isTrue reaches_nil
  | not f, .inner :: rest =>
    have := decidableReaches truth f rest
    decidable_of_iff _ reaches_not.symm
  | and f _, .left :: rest =>
    have := decidableReaches truth f rest
    decidable_of_iff _ reaches_and_left.symm
  | and _ g, .right :: rest =>
    have := decidableReaches truth g rest
    decidable_of_iff _ reaches_and_right.symm
  | or f _, .left :: rest =>
    have := decidableReaches truth f rest
    decidable_of_iff _ reaches_or_left.symm
  | or _ g, .right :: rest =>
    have := decidableReaches truth g rest
    decidable_of_iff _ reaches_or_right.symm
  | leaf _, turn :: _ => isTrue (reaches_of_operand?_eq_none (by cases turn <;> rfl))
  | not _, .left :: _ | not _, .right :: _ | and _ _, .inner :: _ | or _ _, .inner :: _ =>
    isTrue (reaches_of_operand?_eq_none rfl)

/-- The leaves that are reached, from left to right. -/
def reached (truth : α → Bool) (f : Formula α) : List α :=
  (f.placed.filter fun leaf => f.Reaches truth leaf.1).map Prod.snd

section Reached
variable {truth : α → Bool} {f g : Formula α}

theorem mem_reached {place : Place} {a : α} (hat : f.at? place = some (leaf a))
    (hreaches : f.Reaches truth place) : a ∈ f.reached truth :=
  List.mem_map.mpr ⟨(place, a), List.mem_filter.mpr ⟨mem_placed.mpr hat, by simpa⟩, rfl⟩

/-- Only leaves are reached. -/
theorem reached_subset {a : α} (h : a ∈ f.reached truth) : a ∈ f.leaves := by
  rw [← map_snd_placed]
  obtain ⟨leaf, hleaf, rfl⟩ := List.mem_map.mp h
  exact List.mem_map_of_mem (List.mem_filter.mp hleaf).1

/-- The leaves of an operand that are reached from the root. -/
theorem reached_under {w : Formula α} {turn : Turn} (leaves : List (Place × α))
    (h : ∀ place, w.Reaches truth (turn :: place) ↔ f.Reaches truth place) :
    ((under turn leaves).filter fun leaf => w.Reaches truth leaf.1).map Prod.snd =
      (leaves.filter fun leaf => f.Reaches truth leaf.1).map Prod.snd := by
  simp only [under, List.filter_map, List.map_map, Function.comp_def, h]

theorem reached_leaf (a : α) : (leaf a).reached truth = [a] := by
  simp [reached, placed, reaches_nil]

theorem reached_not : (not f).reached truth = f.reached truth :=
  reached_under f.placed fun _ => reaches_not

/-- The right side of an `and` is hidden if the left is false. -/
theorem reached_and : (and f g).reached truth =
    f.reached truth ++ if f.holds truth then g.reached truth else [] := by
  rw [reached, placed, List.filter_append, List.map_append,
    reached_under f.placed fun _ => reaches_and_left, ← reached]
  congr 1
  split
  · rename_i htrue
    exact reached_under g.placed fun _ => by rw [reaches_and_right, and_iff_right htrue]
  · rename_i hfalse
    simp [under, List.filter_map, Function.comp_def, reaches_and_right, hfalse]

/-- An `or` hides nothing. -/
theorem reached_or : (or f g).reached truth = f.reached truth ++ g.reached truth := by
  rw [reached, placed, List.filter_append, List.map_append,
    reached_under f.placed fun _ => reaches_or_left,
    reached_under g.placed fun _ => reaches_or_right, ← reached, ← reached]

end Reached

end Formula

/-! ### Verdicts on leaves, one after the other -/

namespace Verdict
variable {α : Type}

/-- A second verdict is asked for unless the first is an error, and its outcome counts. -/
def before (v w : Verdict) : Verdict :=
  match v.outcome with
  | .ok _ => ⟨w.outcome, v.made ++ w.made⟩
  | .error _ => v

theorem before_of_ok {v : Verdict} {b : Bool} (h : v.outcome = .ok b) (w : Verdict) :
    v.before w = ⟨w.outcome, v.made ++ w.made⟩ := by
  rw [before, h]

theorem before_of_error {v : Verdict} {e : EvaluationError} (h : v.outcome = .error e)
    (w : Verdict) : v.before w = ⟨.error e, v.made⟩ := by
  obtain ⟨outcome, made⟩ := v
  cases h
  rfl

/-- The verdict with its truth value changed. -/
def map (change : Bool → Bool) (v : Verdict) : Verdict := ⟨v.outcome.map change, v.made⟩

theorem map_before (change : Bool → Bool) (v w : Verdict) :
    (v.before w).map change = v.before (w.map change) := by
  obtain ⟨outcome, made⟩ := v
  cases outcome <;> rfl

theorem and_before (u v : Verdict) (w : Unit → Verdict) :
    (u.before v).and w = u.before (v.and w) := by
  obtain ⟨outcome, made⟩ := u
  obtain ⟨outcome', made'⟩ := v
  cases outcome with
  | error e => rfl
  | ok b =>
    cases outcome' with
    | error e => rfl
    | ok b' => cases b' <;> simp [before, Verdict.and]

theorem or_before (u v : Verdict) (w : Unit → Verdict) :
    (u.before v).or w = u.before (v.or w) := by
  obtain ⟨outcome, made⟩ := u
  obtain ⟨outcome', made'⟩ := v
  cases outcome with
  | error e => rfl
  | ok b => cases outcome' <;> simp [before, Verdict.or]

/-- The leaves are judged one after the other up to the first error; if there is none, the outcome
is the given one. -/
def inTurn (verdict : α → Verdict) (result : Bool) : List α → Verdict
  | [] => ⟨.ok result, []⟩
  | a :: rest => (verdict a).before (inTurn verdict result rest)

section InTurn
variable (verdict : α → Verdict) (b b' : Bool) (leaves leaves' : List α)

theorem map_inTurn (change : Bool → Bool) :
    (inTurn verdict b leaves).map change = inTurn verdict (change b) leaves := by
  induction leaves with
  | nil => rfl
  | cons a rest ih => rw [inTurn, map_before, ih, inTurn]

theorem and_inTurn_false (w : Unit → Verdict) :
    (inTurn verdict false leaves).and w = inTurn verdict false leaves := by
  induction leaves with
  | nil => rfl
  | cons a rest ih => rw [inTurn, and_before, ih]

theorem and_inTurn_true :
    (inTurn verdict true leaves).and (fun _ => inTurn verdict b leaves') =
      inTurn verdict b (leaves ++ leaves') := by
  induction leaves with
  | nil => rfl
  | cons a rest ih => rw [inTurn, and_before, ih, List.cons_append, inTurn]

theorem or_inTurn :
    (inTurn verdict b leaves).or (fun _ => inTurn verdict b' leaves') =
      inTurn verdict (b || b') (leaves ++ leaves') := by
  induction leaves with
  | nil => exact map_inTurn verdict b' leaves' (b || ·)
  | cons a rest ih => rw [inTurn, or_before, ih, List.cons_append, inTurn]

end InTurn

variable {verdict : α → Verdict} {result : Bool}

/-- Leaves that all have a truth value are all judged. -/
theorem inTurn_of_ok {leaves : List α} (h : ∀ a ∈ leaves, ∃ b, (verdict a).outcome = .ok b) :
    inTurn verdict result leaves = ⟨.ok result, leaves.flatMap fun a => (verdict a).made⟩ := by
  induction leaves with
  | nil => rfl
  | cons a rest ih =>
    obtain ⟨b, hb⟩ := h a List.mem_cons_self
    rw [inTurn, ih fun a' ha' => h a' (List.mem_cons_of_mem a ha'), before_of_ok hb,
      List.flatMap_cons]

/-- The first leaf without a truth value is the last to be judged. -/
theorem inTurn_of_error {earlier later : List α} {a : α} {e : EvaluationError}
    (h : ∀ a' ∈ earlier, ∃ b, (verdict a').outcome = .ok b) (ha : (verdict a).outcome = .error e) :
    inTurn verdict result (earlier ++ a :: later) =
      ⟨.error e, (earlier.flatMap fun a' => (verdict a').made) ++ (verdict a).made⟩ := by
  induction earlier with
  | nil => rw [List.nil_append, inTurn, before_of_error ha, List.flatMap_nil, List.nil_append]
  | cons a' rest ih =>
    obtain ⟨b, hb⟩ := h a' List.mem_cons_self
    rw [List.cons_append, inTurn, ih fun a'' ha'' => h a'' (List.mem_cons_of_mem a' ha''),
      before_of_ok hb, List.flatMap_cons, List.append_assoc]

/-- Of leaves that do not all have a truth value, one is the first without. -/
theorem exists_first {leaves : List α} (h : ∃ a ∈ leaves, ∃ e, (verdict a).outcome = .error e) :
    ∃ earlier a later e, leaves = earlier ++ a :: later ∧
      (∀ a' ∈ earlier, ∃ b, (verdict a').outcome = .ok b) ∧ (verdict a).outcome = .error e := by
  induction leaves with
  | nil =>
    obtain ⟨_, hnil, -⟩ := h
    cases hnil
  | cons a rest ih =>
    cases ha : (verdict a).outcome with
    | error e => exact ⟨[], a, rest, e, rfl, List.forall_mem_nil _, ha⟩
    | ok b =>
      have hrest : ∃ a' ∈ rest, ∃ e, (verdict a').outcome = .error e := by
        obtain ⟨a', hmem, e, he⟩ := h
        rcases List.mem_cons.mp hmem with rfl | hmem
        · rw [ha] at he
          cases he
        · exact ⟨a', hmem, e, he⟩
      obtain ⟨earlier, a', later, e, rfl, hearlier, he⟩ := ih hrest
      exact ⟨a :: earlier, a', later, e, rfl, List.forall_mem_cons.mpr ⟨⟨b, ha⟩, hearlier⟩, he⟩

end Verdict

/-! ### Formulas -/

namespace Formula
variable {α : Type} {verdict : α → Verdict} {truth : α → Bool}

/-- **A formula is judged by the leaves that are reached**, one after the other from left to
right. -/
theorem judge_eq_inTurn {f : Formula α}
    (htruth : ∀ a ∈ f.leaves, ∀ b, (verdict a).outcome = .ok b → truth a = b) :
    f.judge verdict = .inTurn verdict (f.holds truth) (f.reached truth) := by
  induction f with
  | leaf a =>
    rw [judge, holds, reached_leaf, Verdict.inTurn, Verdict.inTurn]
    cases hv : (verdict a).outcome with
    | ok b =>
      rw [Verdict.before_of_ok hv, htruth a (List.mem_singleton.mpr rfl) b hv, List.append_nil,
        ← hv]
    | error e => rw [Verdict.before_of_error hv, ← hv]
  | not f ih =>
    rw [judge, ih htruth, reached_not]
    exact Verdict.map_inTurn verdict _ _ (!·)
  | and f g ihf ihg =>
    obtain ⟨hf, hg⟩ := List.forall_mem_append.mp htruth
    rw [judge, ihf hf, ihg hg, reached_and, holds]
    cases f.holds truth with
    | false => simp [Verdict.and_inTurn_false]
    | true => simp [Verdict.and_inTurn_true]
  | or f g ihf ihg =>
    obtain ⟨hf, hg⟩ := List.forall_mem_append.mp htruth
    rw [judge, ihf hf, ihg hg, reached_or, holds, Verdict.or_inTurn]

/-- Parts that are judged alike may stand in for each other. -/
theorem judge_put {f part other : Formula α} {place : Place} (hat : f.at? place = some part)
    (h : other.judge verdict = part.judge verdict) :
    (f.put other place).judge verdict = f.judge verdict := by
  induction place generalizing f with
  | nil =>
    cases hat
    rw [put, h]
  | cons turn rest ih =>
    obtain ⟨operand, hoperand, hat⟩ := Option.bind_eq_some_iff.mp hat
    -- Only the five steps that lead to an operand are left.
    cases f <;> cases turn <;> cases hoperand <;> simp only [put, judge, ih hat]

/-- An `and` that is not true on the left is judged by the left alone. -/
theorem judge_and_of_left {f g : Formula α} (h : (f.judge verdict).outcome ≠ .ok true) :
    (and f g).judge verdict = f.judge verdict := by
  rw [judge, Verdict.and]
  split
  · exact absurd ‹_› h
  · rfl

end Formula

/-! ### Trees of comparisons and other leaves -/

section Trees
variable {r : Record}

theorem flatMap_made (cs : List Comparison) :
    (cs.flatMap fun c => (Comparison.judge r c).made) = cs := by
  simp [Comparison.judge]

/-- If all comparisons that are reached have truth values, they are the ones that are made. -/
theorem evaluate_of_values {f : Filter} {truth : Comparison → Bool}
    (htruth : ∀ c ∈ f.leaves, ∀ b, c.holds r = .ok b → truth c = b)
    (hvalues : ∀ c ∈ f.reached truth, ∃ b, c.holds r = .ok b) :
    evaluate f r = ⟨.ok (f.holds truth), f.reached truth⟩ := by
  rw [evaluate, Formula.judge_eq_inTurn htruth, Verdict.inTurn_of_ok hvalues, flatMap_made]

/-- Of a filter whose comparisons fit, exactly those are made that are reached. -/
theorem evaluate_of_fits {f : Filter} (h : ∀ c ∈ f.leaves, c.Fits) (r : Record) :
    evaluate f r = ⟨.ok (f.holds (Comparison.truth r)), f.reached (Comparison.truth r)⟩ := by
  refine evaluate_of_values (fun c hc b hb => ?_) fun c hc =>
    ⟨_, (h c (Formula.reached_subset hc)).holds_eq r⟩
  rw [(h c hc).holds_eq r] at hb
  exact Except.ok.inj hb

/-- A foreign leaf has no truth value, so an evaluation that reaches one ends with an error. If the
comparisons that are reached have truth values, it is the error of a foreign leaf. -/
theorem outcome_of_foreign {t : Formula Node} {truth : Node → Bool} {leaf : Foreign}
    (htruth : ∀ c, .comparison c ∈ t.leaves → ∀ b, c.holds r = .ok b → truth (.comparison c) = b)
    (hleaf : .foreign leaf ∈ t.reached truth) :
    ∃ e, (t.judge (Node.judge r)).outcome = .error e ∧
      ((∀ c, .comparison c ∈ t.reached truth → ∃ b, c.holds r = .ok b) →
        ∃ first, .foreign first ∈ t.reached truth ∧ e = .foreign first) := by
  have hagree : ∀ node ∈ t.leaves, ∀ b, (Node.judge r node).outcome = .ok b → truth node = b := by
    intro node hnode b hb
    cases node with
    | comparison c => exact htruth c hnode b hb
    | foreign other => cases hb
  have hfailing : ∃ node ∈ t.reached truth, ∃ e, (Node.judge r node).outcome = .error e :=
    ⟨_, hleaf, _, rfl⟩
  obtain ⟨earlier, node, later, e, hreached, hearlier, he⟩ := Verdict.exists_first hfailing
  have hmem : node ∈ t.reached truth := by
    rw [hreached]
    exact List.mem_append_right _ List.mem_cons_self
  refine ⟨e, ?_, fun hvalues => ?_⟩
  · rw [Formula.judge_eq_inTurn hagree, hreached, Verdict.inTurn_of_error hearlier he]
  · cases node with
    | comparison c =>
      obtain ⟨b, hb⟩ := hvalues c hmem
      rw [Node.judge, Comparison.judge, hb] at he
      cases he
    | foreign first =>
      cases he
      exact ⟨first, hmem, rfl⟩

end Trees

/-- **An evaluation makes the comparisons that are reached.** Let `truth` agree with the values that
the comparisons have on the record. If all comparisons that are reached have one, they are made from
left to right, and the outcome is the ordinary truth value of the tree; else the first without a
value is the last that is made, and its error is the outcome. A comparison that fits always has a
value. The right side of an `and` that is false on the left does not matter, whatever it is, but a
foreign leaf that is reached is an error. -/
theorem evaluate_reached (r : Record) :
    (∀ (f : Filter) (truth : Comparison → Bool),
      (∀ c ∈ f.leaves, ∀ b, c.holds r = .ok b → truth c = b) →
      ((∀ c ∈ f.reached truth, ∃ b, c.holds r = .ok b) →
        evaluate f r = ⟨.ok (f.holds truth), f.reached truth⟩) ∧
      ∀ earlier c later e, f.reached truth = earlier ++ c :: later →
        (∀ c' ∈ earlier, ∃ b, c'.holds r = .ok b) → c.holds r = .error e →
        evaluate f r = ⟨.error e, earlier ++ [c]⟩) ∧
    (∀ c : Comparison, c.Fits → ∃ b, c.holds r = .ok b) ∧
    (∀ (t : Formula Node) (place : Place) (g h : Formula Node), t.at? place = some (.and g h) →
      (g.judge (Node.judge r)).outcome ≠ .ok true → ∀ other : Formula Node,
        (t.put (.and g other) place).judge (Node.judge r) = t.judge (Node.judge r)) ∧
    ∀ (t : Formula Node) (truth : Node → Bool) (place : Place) (leaf : Foreign),
      (∀ c, .comparison c ∈ t.leaves → ∀ b, c.holds r = .ok b → truth (.comparison c) = b) →
      t.at? place = some (.leaf (.foreign leaf)) → t.Reaches truth place →
      ∃ e, (t.judge (Node.judge r)).outcome = .error e ∧
        ((∀ c, .comparison c ∈ t.reached truth → ∃ b, c.holds r = .ok b) →
          ∃ first, .foreign first ∈ t.reached truth ∧ e = .foreign first) := by
  refine ⟨fun f truth htruth =>
      ⟨fun hvalues => ?_, fun earlier c later e hreached hearlier he => ?_⟩,
    fun c hfits => ⟨_, hfits.holds_eq r⟩, fun t place g h hat hleft other => ?_,
    fun t truth place leaf htruth hat hreaches =>
      outcome_of_foreign htruth (Formula.mem_reached hat hreaches)⟩
  · exact evaluate_of_values htruth hvalues
  · rw [evaluate, Formula.judge_eq_inTurn htruth, hreached, Verdict.inTurn_of_error hearlier he,
      flatMap_made]
    rfl
  · refine Formula.judge_put hat ?_
    rw [Formula.judge_and_of_left hleft, Formula.judge_and_of_left hleft]

/-- A time is not ordered against an address. Behind a comparison that is false that does no harm;
on the other side of an `or` it does, and so does a number in place of a comparison. -/
theorem evaluate_reached_unordered :
    let time : Timestamp := ⟨⟨63850161600000000, by decide⟩, 0⟩
    let r : Record := { time, length := 80, transport := .tcp }
    let truth : Comparison → Bool := fun c => (c.holds r).toOption.getD false
    let long : Comparison := ⟨.length, .ge, .number 100⟩
    let short : Comparison := ⟨.length, .lt, .number 100⟩
    let unordered : Comparison := ⟨.time, .lt, .address ⟨10, 0, 0, 1⟩⟩
    let hidden : Filter := .or (.and (.leaf long) (.leaf unordered)) (.not (.leaf short))
    let shown : Filter := .or (.leaf short) (.leaf unordered)
    let number : Formula Node := .leaf (.foreign (.integer 5))
    (∀ c b, c.holds r = .ok b → truth c = b) ∧
      (∀ c ∈ hidden.reached truth, ∃ b, c.holds r = .ok b) ∧
      evaluate hidden r = ⟨.ok false, [long, short]⟩ ∧
      evaluate shown r = ⟨.error (.unordered .lt .time .address), [short, unordered]⟩ ∧
      (hidden.nodes.put (.and (.leaf (.comparison long)) number) [.left]).judge (Node.judge r) =
        hidden.nodes.judge (Node.judge r) ∧
      ((Formula.or hidden.nodes number).judge (Node.judge r)).outcome =
        .error (.foreign (.integer 5)) := by
  intro time r truth long short unordered hidden shown number
  have htruth : ∀ c b, Comparison.holds c r = .ok b → truth c = b := by
    intro c b hb
    simp only [truth, hb]
    rfl
  have hlong : long.Fits := ⟨rfl, rfl⟩
  have hshort : short.Fits := ⟨rfl, rfl⟩
  obtain ⟨hfilter, hfits, hreplaced, hforeign⟩ := evaluate_reached r
  have hreached : hidden.reached truth = [long, short] := by decide +kernel
  have hvalues : ∀ c ∈ hidden.reached truth, ∃ b, c.holds r = .ok b := by
    rw [hreached]
    exact List.forall_mem_cons.mpr
      ⟨hfits long hlong, List.forall_mem_singleton.mpr (hfits short hshort)⟩
  have hhidden := (hfilter hidden truth fun c _ => htruth c).1 hvalues
  have hfalse : hidden.holds truth = false := by decide +kernel
  rw [hreached, hfalse] at hhidden
  have hshown := (hfilter shown truth fun c _ => htruth c).2 [short] unordered []
    (.unordered .lt .time .address) (by decide +kernel)
    (List.forall_mem_singleton.mpr (hfits short hshort)) rfl
  refine ⟨htruth, hvalues, hhidden, hshown,
    hreplaced hidden.nodes [.left] _ _ rfl (fun htrue => by cases htrue) number, ?_⟩
  let nodeTruth : Node → Bool := fun node => (node.judge r).outcome.toOption.getD false
  have hnodes : (Formula.or hidden.nodes number).reached nodeTruth =
      [.comparison long, .comparison short, .foreign (.integer 5)] := by decide +kernel
  obtain ⟨e, he, hfirst⟩ := hforeign (.or hidden.nodes number) nodeTruth [.right] (.integer 5)
    (fun c _ => htruth c) rfl (by decide +kernel)
  rw [hnodes] at hfirst
  obtain ⟨first, hmem, rfl⟩ := hfirst fun c hc => by
    simp only [List.mem_cons, Node.comparison.injEq, reduceCtorEq, List.not_mem_nil,
      or_false] at hc
    rcases hc with rfl | rfl
    · exact hfits _ hlong
    · exact hfits _ hshort
  simp only [List.mem_cons, reduceCtorEq, Node.foreign.injEq, List.not_mem_nil, or_false,
    false_or] at hmem
  rw [he, hmem]

/-- A filter with an ordinary truth value that its evaluation does not give: the comparison on the
left of an `or` is true, the one on the right has no value, and the `or` asks for it. -/
theorem evaluate_without_value :
    let time : Timestamp := ⟨⟨63850161600000000, by decide⟩, 0⟩
    let r : Record := { time, length := 80, transport := .tcp }
    let f : Filter := .or (.leaf ⟨.length, .eq, .number 80⟩)
      (.leaf ⟨.time, .lt, .address ⟨10, 0, 0, 1⟩⟩)
    (∀ truth : Comparison → Bool, (∀ c ∈ f.leaves, ∀ b, c.holds r = .ok b → truth c = b) →
      f.holds truth = true) ∧
    (evaluate f r).outcome = .error (.unordered .lt .time .address) := by
  intro time r f
  refine ⟨fun truth htruth => ?_, rfl⟩
  have hlength : truth ⟨.length, .eq, .number 80⟩ = true :=
    htruth _ List.mem_cons_self true rfl
  simp only [f, Formula.holds, hlength, Bool.true_or]

end TrafficMonitor.Filter
