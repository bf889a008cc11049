import TrafficMonitor.Network.Application
import TrafficMonitor.Network.Transport

/-! Protocol names are read back. No two assigned transport protocols share a name
(`nodup_names`), so the name of a protocol denotes it, and the one name of all unnamed protocols
denotes the reserved number. -/
namespace TrafficMonitor.Network

/-- The names of transport protocols are all different. -/
theorem nodup_names : ("Unknown" :: "Test1" :: "Test2" :: assignedNames).Nodup := by
  decide +kernel

namespace Transport

/-- The protocol that the name of `p` denotes: `p` itself, or the one that stands for all
unnamed protocols. -/
def canonical (p : Transport) : Transport := if p.isUnknown then unknown else p

/-- What a name says about the number. -/
theorem name?_eq_some {p : Transport} {s : String} (h : p.name? = some s) :
    p.number = 253 ∧ s = "Test1" ∨ p.number = 254 ∧ s = "Test2" ∨
      ∃ i, p.number = (i : Nat) ∧ assignedNames[i]? = some s := by
  unfold name? at h
  split at h
  · rename_i hnumber
    cases h
    exact Or.inl ⟨hnumber, rfl⟩
  split at h
  · rename_i hnumber
    cases h
    exact Or.inr (Or.inl ⟨hnumber, rfl⟩)
  split at h
  · cases h
  · exact Or.inr (Or.inr ⟨p.number.toNat, by omega, h⟩)

/-- An assigned name is found at its number. -/
theorem ofName?_assigned {i : Nat} {s : String} (h : assignedNames[i]? = some s) :
    ofName? s = some ⟨i⟩ := by
  have hmem := List.mem_of_getElem? h
  obtain ⟨hunknown, hnames⟩ := List.nodup_cons.mp nodup_names
  obtain ⟨htest1, hnames⟩ := List.nodup_cons.mp hnames
  obtain ⟨htest2, hnodup⟩ := List.nodup_cons.mp hnames
  obtain ⟨hi, rfl⟩ := List.getElem?_eq_some_iff.mp h
  have hidx : assignedNames.idxOf? assignedNames[i] = some i :=
    List.idxOf?_eq_some_iff.mpr ⟨hi, rfl, fun j hj heq =>
      Nat.ne_of_lt hj (List.getElem_inj hnodup |>.mp heq)⟩
  rw [ofName?, if_neg, if_neg, if_neg, hidx]
  · rfl
  · intro heq
    exact htest2 (heq ▸ hmem)
  · intro heq
    exact htest1 (List.mem_cons_of_mem _ (heq ▸ hmem))
  · intro heq
    exact hunknown (List.mem_cons_of_mem _ (List.mem_cons_of_mem _ (heq ▸ hmem)))

/-- **A name denotes its protocol.** -/
theorem ofName?_name (p : Transport) : ofName? p.name = some p.canonical := by
  cases h : p.name? with
  | none =>
    simp [name, canonical, isUnknown, h, ofName?]
  | some s =>
    obtain ⟨number⟩ := p
    simp only [name, canonical, isUnknown, h, Option.getD_some, Option.isNone_some,
      Bool.false_eq_true, if_false]
    rcases name?_eq_some h with ⟨rfl, rfl⟩ | ⟨rfl, rfl⟩ | ⟨i, rfl, hi⟩
    · rfl
    · rfl
    · exact ofName?_assigned hi

/-- No name denotes an unnamed number other than the reserved one. -/
theorem canonical_of_ofName? {s : String} {p : Transport} (h : ofName? s = some p) :
    p.canonical = p := by
  unfold ofName? at h
  split at h
  · cases h
    rfl
  split at h
  · cases h
    rfl
  split at h
  · cases h
    rfl
  · obtain ⟨number, hnumber, rfl⟩ := Option.map_eq_some_iff.mp h
    obtain ⟨i, hi, hcast⟩ := Option.bind_eq_some_iff.mp hnumber
    cases hcast
    obtain ⟨hlt, -⟩ := List.idxOf?_eq_some_iff.mp hi
    have hlength : assignedNames.length = 143 := rfl
    have hname : (⟨(i : Nat)⟩ : Transport).name? = some assignedNames[i] := by
      rw [name?, if_neg (by simp only; omega), if_neg (by simp only; omega),
        if_neg (by simp only; omega)]
      exact List.getElem?_eq_getElem hlt
    simp [canonical, isUnknown, hname]

end Transport

theorem Application.ofName?_name (a : Application) : ofName? a.name = some a := by
  cases a <;> decide +kernel

end TrafficMonitor.Network
