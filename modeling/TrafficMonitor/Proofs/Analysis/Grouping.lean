import Mathlib
import TrafficMonitor.Proofs.Analysis.Nesting
import TrafficMonitor.Proofs.Filter.Cells

/-! Totals as a grouping. A table that is updated record by record holds one row for each name that
occurs, in ascending order, and in it the summary of the records of that name (`Rows.groups`). Rows
in order are known by what they hold under each name (`Rows.Ordered.ext`), and an update changes
that under one name only (`Rows.lookup_update`), as it does in rows that are kept as they came and
sorted when they are read (`Rows.foldl_update_eq_sorted`). So counting one more record gives the
grouping of one more (`Totals.add_grouped`). A grouping knows nothing of the order of its records,
and no two protocols share a label (`label_inj`). The main statement is `grouped_of_calls`. -/
namespace TrafficMonitor
open Network Time
open Number (total total_append total_perm)

/-! ### Ordered rows -/

namespace Rows
variable {α : Type} {rows rows' : Rows α} {name other : String} {a : α}

/-- The rows stand in ascending order of their names, so no name has two. -/
def Ordered (rows : Rows α) : Prop := rows.Pairwise fun a b => a.1 < b.1

theorem lookup_cons : ((other, a) :: rows).lookup name =
    if name = other then some a else rows.lookup name := by
  by_cases h : name = other
  · simp [h, List.lookup]
  · simp [h, List.lookup, beq_false_of_ne h]

theorem lookup_head (first : String × α) (rows : Rows α) :
    (first :: rows).lookup first.1 = some first.2 := by
  obtain ⟨name, a⟩ := first
  rw [lookup_cons, if_pos rfl]

/-- Before the first row there is none. -/
theorem lookup_of_lt (h : ∀ row ∈ rows, name < row.1) : rows.lookup name = none := by
  induction rows with
  | nil => rfl
  | cons first rest ih =>
    obtain ⟨hfirst, hrest⟩ := List.forall_mem_cons.mp h
    obtain ⟨other, a⟩ := first
    rw [lookup_cons, if_neg (ne_of_lt hfirst), ih hrest]

theorem Ordered.lookup_before {first : String × α} (h : Ordered (first :: rows))
    (hlt : name < first.1) : (first :: rows).lookup name = none :=
  lookup_of_lt (List.forall_mem_cons.mpr
    ⟨hlt, fun row hrow => lt_trans hlt ((List.pairwise_cons.mp h).1 row hrow)⟩)

/-- Rows that hold the same begin with no later name. -/
theorem Ordered.le_of_lookup {first first' : String × α} (h : Ordered (first :: rows))
    (hlookup : ∀ name, (first :: rows).lookup name = (first' :: rows').lookup name) :
    first.1 ≤ first'.1 := by
  by_contra hlt
  have hsome := (hlookup first'.1).trans (lookup_head first' rows')
  rw [h.lookup_before (not_le.mp hlt)] at hsome
  cases hsome

/-- **Ordered rows are known by what they hold under each name.** -/
theorem Ordered.ext (h : Ordered rows) (h' : Ordered rows')
    (hlookup : ∀ name, rows.lookup name = rows'.lookup name) : rows = rows' := by
  induction rows generalizing rows' with
  | nil =>
    cases rows' with
    | nil => rfl
    | cons first' rest' => cases (hlookup first'.1).trans (lookup_head first' rest')
  | cons first rest ih =>
    cases rows' with
    | nil => cases (hlookup first.1).symm.trans (lookup_head first rest)
    | cons first' rest' =>
      have hname : first.1 = first'.1 :=
        le_antisymm (h.le_of_lookup hlookup) (h'.le_of_lookup fun name => (hlookup name).symm)
      have hvalue : some first.2 = some first'.2 := by
        rw [← lookup_head first rest, hlookup, hname, lookup_head]
      obtain ⟨name, a⟩ := first
      obtain ⟨name', a'⟩ := first'
      cases hname
      cases hvalue
      obtain ⟨hbefore, hrest⟩ := List.pairwise_cons.mp h
      obtain ⟨hbefore', hrest'⟩ := List.pairwise_cons.mp h'
      refine congrArg _ (ih hrest hrest' fun n => ?_)
      by_cases hn : n = name
      · rw [hn, lookup_of_lt hbefore, lookup_of_lt hbefore']
      · have hlookup := hlookup n
        rwa [lookup_cons, lookup_cons, if_neg hn, if_neg hn] at hlookup

/-- An update keeps the order. -/
theorem Ordered.update (h : Ordered rows) (name : String) (fresh : α) (change : α → α) :
    Ordered (rows.update name fresh change) := by
  induction rows with
  | nil => exact List.pairwise_singleton _ _
  | cons first rest ih =>
    obtain ⟨other, a⟩ := first
    obtain ⟨hbefore, hrest⟩ := List.pairwise_cons.mp h
    rw [Rows.update]
    split
    · exact List.pairwise_cons.mpr ⟨hbefore, hrest⟩
    · rename_i hne
      split
      · rename_i hlt
        exact List.pairwise_cons.mpr ⟨List.forall_mem_cons.mpr
          ⟨hlt, fun row hrow => lt_trans hlt (hbefore row hrow)⟩, h⟩
      · rename_i hnlt
        have hname : other < name := lt_of_le_of_ne (not_lt.mp hnlt) (Ne.symm hne)
        exact List.pairwise_cons.mpr
          ⟨forall_update hbefore name hname fun _ hbehind => hbehind, ih hrest⟩

/-- The row of a name is changed where it stands first. -/
theorem lookup_changed (fresh : α) (change : α → α) (name other : String) (a : α) (rows : Rows α) :
    ((name, change a) :: rows).lookup other =
      if other = name then some (change ((((name, a) :: rows).lookup name).getD fresh))
      else ((name, a) :: rows).lookup other := by
  simp only [lookup_cons, if_true, Option.getD_some]
  split <;> rfl

/-- The row of a name is changed behind one of another name. -/
theorem lookup_changed_behind {fresh : α} {change : α → α} {present : String} {a : α}
    (hne : name ≠ present) (h : rows'.lookup other =
      if other = name then some (change ((rows.lookup name).getD fresh)) else rows.lookup other) :
    ((present, a) :: rows').lookup other =
      if other = name then some (change ((((present, a) :: rows).lookup name).getD fresh))
      else ((present, a) :: rows).lookup other := by
  rw [lookup_cons, h, lookup_cons, if_neg hne, lookup_cons]
  by_cases hother : other = present
  · rw [if_pos hother, if_neg (by rw [hother]; exact Ne.symm hne), if_pos hother]
  · rw [if_neg hother, if_neg hother]

/-- **An update shows under its name alone**, whether there was a row or not. -/
theorem lookup_update (h : Ordered rows) (fresh : α) (change : α → α) (name other : String) :
    (rows.update name fresh change).lookup other =
      if other = name then some (change ((rows.lookup name).getD fresh))
      else rows.lookup other := by
  induction rows with
  | nil => rw [Rows.update, lookup_cons, List.lookup, List.lookup, Option.getD_none]
  | cons first rest ih =>
    obtain ⟨present, a⟩ := first
    obtain ⟨hbefore, hrest⟩ := List.pairwise_cons.mp h
    rw [Rows.update]
    split
    · rename_i hname
      subst hname
      exact lookup_changed ..
    · rename_i hne
      split
      · rename_i hlt
        rw [lookup_cons, h.lookup_before hlt, Option.getD_none]
      · exact lookup_changed_behind hne (ih hrest)

/-! ### Rows in order of arrival

A table may as well keep its rows in the order in which their names came up, and sort them when it
is read. That gives the same rows. -/

/-- Changes the row of a name where it stands, and makes one behind all others if there is none. -/
def put (name : String) (fresh : α) (change : α → α) : Rows α → Rows α
  | [] => [(name, change fresh)]
  | (other, row) :: rest =>
    if name = other then (other, change row) :: rest
    else (other, row) :: put name fresh change rest

/-- The rows in ascending order of their names. -/
def sorted (rows : Rows α) : Rows α := rows.mergeSort fun a b => decide (a.1 ≤ b.1)

theorem mem_names_put {fresh : α} {change : α → α} :
    other ∈ (rows.put name fresh change).map (·.1) ↔ other = name ∨ other ∈ rows.map (·.1) := by
  induction rows with
  | nil => simp [put]
  | cons first rest ih =>
    obtain ⟨present, a⟩ := first
    rw [put]
    split
    · rename_i hname
      simp [hname]
    · rw [List.map_cons, List.map_cons, List.mem_cons, List.mem_cons, ih, or_left_comm]

theorem nodup_names_put (h : (rows.map (·.1)).Nodup) (name : String) (fresh : α) (change : α → α) :
    ((rows.put name fresh change).map (·.1)).Nodup := by
  induction rows with
  | nil => exact List.nodup_singleton _
  | cons first rest ih =>
    obtain ⟨present, a⟩ := first
    obtain ⟨hnew, hrest⟩ := List.nodup_cons.mp h
    rw [put]
    split
    · exact h
    · rename_i hne
      refine List.nodup_cons.mpr ⟨fun hmem => ?_, ih hrest⟩
      exact (mem_names_put.mp hmem).elim (Ne.symm hne) hnew

theorem lookup_put (rows : Rows α) (fresh : α) (change : α → α) (name other : String) :
    (rows.put name fresh change).lookup other =
      if other = name then some (change ((rows.lookup name).getD fresh))
      else rows.lookup other := by
  induction rows with
  | nil => rw [put, lookup_cons, List.lookup, List.lookup, Option.getD_none]
  | cons first rest ih =>
    obtain ⟨present, a⟩ := first
    rw [put]
    split
    · rename_i hname
      subst hname
      exact lookup_changed ..
    · rename_i hne
      exact lookup_changed_behind hne ih

theorem lookup_eq_some_iff (h : (rows.map (·.1)).Nodup) :
    rows.lookup name = some a ↔ (name, a) ∈ rows := by
  induction rows with
  | nil => simp
  | cons first rest ih =>
    obtain ⟨present, b⟩ := first
    obtain ⟨hnew, hrest⟩ := List.nodup_cons.mp h
    rw [lookup_cons, List.mem_cons, Prod.mk.injEq]
    split
    · rename_i hname
      subst hname
      have habsent : (name, a) ∉ rest := fun hmem => hnew (List.mem_map.mpr ⟨_, hmem, rfl⟩)
      simp [habsent, eq_comm]
    · rename_i hne
      rw [ih hrest]
      simp [hne]

theorem lookup_perm (h : (rows.map (·.1)).Nodup) (hperm : rows'.Perm rows) (name : String) :
    rows'.lookup name = rows.lookup name := by
  have h' : (rows'.map (·.1)).Nodup := (hperm.map _).nodup_iff.mpr h
  refine Option.ext fun a => ?_
  rw [lookup_eq_some_iff h', lookup_eq_some_iff h, hperm.mem_iff]

theorem ordered_sorted (h : (rows.map (·.1)).Nodup) : Ordered rows.sorted := by
  have hsorted : rows.sorted.Pairwise fun a b => decide (a.1 ≤ b.1) = true :=
    List.pairwise_mergeSort
      (fun _ _ _ hab hbc => by simpa using le_trans (of_decide_eq_true hab) (of_decide_eq_true hbc))
      (fun a b => by simpa using le_total a.1 b.1) _
  have hnodup : (rows.sorted.map (·.1)).Nodup :=
    ((List.mergeSort_perm _ _).map _).nodup_iff.mpr h
  refine (hsorted.and (List.pairwise_map.mp hnodup)).imp fun h => ?_
  exact lt_of_le_of_ne (of_decide_eq_true h.1) h.2

/-- An update in the place of a name is one behind all others, sorted. -/
theorem sorted_put (h : (rows.map (·.1)).Nodup) (name : String) (fresh : α) (change : α → α) :
    (rows.put name fresh change).sorted = rows.sorted.update name fresh change := by
  have hput := nodup_names_put h name fresh change
  have hlookup := lookup_perm h (List.mergeSort_perm rows fun a b => decide (a.1 ≤ b.1))
  refine (ordered_sorted hput).ext ((ordered_sorted h).update ..) fun other => ?_
  rw [sorted, lookup_perm hput (List.mergeSort_perm ..), lookup_put,
    lookup_update (ordered_sorted h), sorted, hlookup, hlookup]

/-- **Rows kept in order are rows kept as they came and sorted when they are read**, whatever is
changed under whatever names. -/
theorem foldl_update_eq_sorted (fresh : α) (changes : List (String × (α → α))) :
    changes.foldl (fun (rows : Rows α) c => rows.update c.1 fresh c.2) [] =
      (changes.foldl (fun (rows : Rows α) c => rows.put c.1 fresh c.2) []).sorted := by
  have hrun : ∀ rows : Rows α, (rows.map (·.1)).Nodup →
      changes.foldl (fun (rows : Rows α) c => rows.update c.1 fresh c.2) rows.sorted =
        (changes.foldl (fun (rows : Rows α) c => rows.put c.1 fresh c.2) rows).sorted := by
    induction changes with
    | nil => exact fun rows _ => rfl
    | cons c rest ih =>
      intro rows h
      rw [List.foldl_cons, List.foldl_cons, ← sorted_put h]
      exact ih _ (nodup_names_put h ..)
  have hnil : sorted ([] : Rows α) = [] := List.mergeSort_nil
  rw [← hrun [] List.nodup_nil, hnil]

/-! ### Groups -/

section Groups
variable {β : Type} (key : β → String) (summary : List β → α)

/-- One row for each name that occurs, in ascending order of name, with the summary of the items of
that name. -/
def groups (items : List β) : Rows α :=
  ((items.map key).dedup.mergeSort (· ≤ ·)).map fun name =>
    (name, summary (items.filter (key · = name)))

theorem lookup_map (row : String → α) (names : List String) (name : String) :
    (names.map fun n => (n, row n)).lookup name =
      if name ∈ names then some (row name) else none := by
  induction names with
  | nil => rfl
  | cons first rest ih =>
    rw [List.map_cons, lookup_cons, ih]
    by_cases h : name = first <;> simp [h]

variable {key summary}

theorem lookup_groups (items : List β) (name : String) :
    (groups key summary items).lookup name =
      if name ∈ items.map key then some (summary (items.filter (key · = name))) else none := by
  simp only [groups, lookup_map, List.mem_mergeSort, List.mem_dedup]

theorem ordered_groups (items : List β) : Ordered (groups key summary items) := by
  let names := (items.map key).dedup.mergeSort (· ≤ ·)
  have hsorted : names.Pairwise fun a b => decide (a ≤ b) = true :=
    List.pairwise_mergeSort
      (fun _ _ _ hab hbc => by simpa using le_trans (of_decide_eq_true hab) (of_decide_eq_true hbc))
      (fun a b => by simpa using le_total a b) _
  have hnodup : names.Nodup := (List.mergeSort_perm _ _).nodup_iff.mpr (List.nodup_dedup _)
  refine List.pairwise_map.mpr ((hsorted.and hnodup).imp fun h => ?_)
  exact lt_of_le_of_ne (of_decide_eq_true h.1) h.2

/-- Rows in order that hold the groups are the groups. -/
theorem eq_groups {items : List β} (h : Ordered rows)
    (hlookup : ∀ name, rows.lookup name =
      if name ∈ items.map key then some (summary (items.filter (key · = name))) else none) :
    rows = groups key summary items :=
  h.ext (ordered_groups items) fun name => by rw [hlookup, lookup_groups]

/-- Under a name that does not occur there would be the summary of nothing. -/
theorem getD_lookup_groups {fresh : α} (hfresh : summary [] = fresh) (items : List β)
    (name : String) : ((groups key summary items).lookup name).getD fresh =
      summary (items.filter (key · = name)) := by
  rw [lookup_groups]
  split
  · rfl
  · rename_i habsent
    have hnone : items.filter (key · = name) = [] := by
      rw [List.filter_eq_nil_iff]
      intro b hb hname
      exact habsent (of_decide_eq_true hname ▸ List.mem_map_of_mem hb)
    rw [hnone, hfresh, Option.getD_none]

theorem groups_nil : groups key summary [] = [] := by
  simp [groups]

/-- **One more item is an update under its name**, if it changes a summary by itself. -/
theorem update_groups (key : β → String) (summary : List β → α) {fresh : α} {change : α → α}
    (hfresh : summary [] = fresh) {b : β}
    (hchange : ∀ items, summary (items ++ [b]) = change (summary items)) (items : List β) :
    (groups key summary items).update (key b) fresh change = groups key summary (items ++ [b]) := by
  refine eq_groups ((ordered_groups items).update ..) fun name => ?_
  rw [lookup_update (ordered_groups items), getD_lookup_groups hfresh, lookup_groups,
    List.filter_append]
  by_cases hname : name = key b
  · have hkey : [b].filter (key · = name) = [b] := by simp [hname]
    rw [if_pos hname, if_pos (by simp [hname]), hkey, hchange, hname]
  · have hkey : [b].filter (key · = name) = [] := by simpa using Ne.symm hname
    simp [hname, hkey]

/-- The groups do not depend on the order of the items, if the summaries do not. -/
theorem groups_perm (hsummary : ∀ {items items' : List β}, items.Perm items' →
    summary items = summary items') {items items' : List β} (h : items.Perm items') :
    groups key summary items = groups key summary items' := by
  refine eq_groups (ordered_groups items) fun name => ?_
  simp only [lookup_groups, hsummary (h.filter _), (h.map key).mem_iff]

end Groups

end Rows

/-! ### Labels -/

theorem Network.Transport.label_of_unknown {p : Transport} (h : p.isUnknown = true) :
    p.label = "Unknown (" ++ toString p.number ++ ")" := by
  rw [label, Option.isNone_iff_eq_none.mp h]
  rfl

theorem Network.Transport.label_of_named {p : Transport} (h : p.isUnknown = false) :
    p.label = p.name := by
  cases hname : p.name? with
  | none => simp [isUnknown, hname] at h
  | some s => rw [label, name, hname, Option.getD_some, Option.getD_some]

/-- **No two protocols share a label**, whether they have names or not. -/
theorem Network.Transport.label_inj {p q : Transport} :
    p.label = q.label ↔ p.number = q.number := by
  refine ⟨fun h => ?_, fun h => by rw [show p = q from congrArg Transport.mk h]⟩
  have hunknown : p.isUnknown = q.isUnknown := by rw [← isPrefixOf_label, ← isPrefixOf_label, h]
  cases hp : p.isUnknown with
  | true =>
    rw [label_of_unknown hp, label_of_unknown (hunknown ▸ hp), String.append_left_inj,
      String.append_right_inj, Int.toString_eq_repr, Int.toString_eq_repr] at h
    exact Int.repr_inj.mp h
  | false =>
    rw [label_of_named hp, label_of_named (hunknown ▸ hp)] at h
    have hname := ofName?_name p
    rw [h, ofName?_name q, canonical, canonical, ← hunknown, hp, Option.some.injEq] at hname
    exact congrArg number hname.symm

/-! ### Totals -/

namespace Record

/-- The bytes after the IPv4 header; zero if there are none. -/
def ipBytes (r : Record) : Nat := (r.ipPayload.map UInt16.toNat).getD 0

/-- The bytes after the TCP or UDP header; zero if there are none. -/
def transportBytes (r : Record) : Nat := (r.transportPayload.map UInt16.toNat).getD 0

end Record

namespace Totals

/-- How many records there are, with the sums of their IP payloads and their lengths. -/
def transportSum (rs : List Record) : TransportTotals :=
  ⟨rs.length, total (rs.map (·.ipBytes)), total (rs.map (·.length.toNat))⟩

/-- How many records there are, with the sums of their segments' payloads, their lengths and their
IP payloads. -/
def applicationSum (rs : List Record) : ApplicationTotals :=
  ⟨rs.length, total (rs.map (·.transportBytes)), total (rs.map (·.length.toNat)),
    total (rs.map (·.ipBytes))⟩

/-- The totals of records, level by level: all of them, those with an IP payload by the labels of
their protocols, and those with a segment in it by the names of their applications. -/
def grouped (rs : List Record) : Totals where
  network := ⟨rs.length, total (rs.map (·.length.toNat))⟩
  transport := Rows.groups (·.transport.label) transportSum (rs.filter (·.ipPayload.isSome))
  application := Rows.groups (·.application.name) applicationSum
    (rs.filter fun r => r.ipPayload.isSome && r.transportPayload.isSome)

theorem ext {t t' : Totals} (hnetwork : t.network = t'.network)
    (htransport : t.transport = t'.transport) (happlication : t.application = t'.application) :
    t = t' := by
  obtain ⟨_, _, _⟩ := t
  obtain ⟨_, _, _⟩ := t'
  cases hnetwork
  cases htransport
  cases happlication
  rfl

section Add
variable {rs : List Record} {r : Record} {p q : UInt16}

theorem transportSum_append (hip : r.ipPayload = some p) :
    transportSum (rs ++ [r]) = countTransport r p (transportSum rs) := by
  simp [transportSum, countTransport, total_append, Record.ipBytes, hip]

theorem applicationSum_append (hip : r.ipPayload = some p)
    (hsegment : r.transportPayload = some q) :
    applicationSum (rs ++ [r]) = countApplication r p q (applicationSum rs) := by
  simp [applicationSum, countApplication, total_append, Record.ipBytes, Record.transportBytes, hip,
    hsegment]

theorem network_add_grouped (rs : List Record) (r : Record) :
    ((grouped rs).add r).network = (grouped (rs ++ [r])).network := by
  simp [add, countNetwork, grouped, total_append]

theorem transport_add_grouped (rs : List Record) (r : Record) :
    ((grouped rs).add r).transport = (grouped (rs ++ [r])).transport := by
  cases hip : r.ipPayload with
  | none => simp [add, grouped, hip]
  | some p =>
    have hcounted : [r].filter (·.ipPayload.isSome) = [r] := by simp [hip]
    simp only [add, hip, grouped, List.filter_append, hcounted]
    exact Rows.update_groups (fun r : Record => r.transport.label) transportSum rfl
      (fun _ => transportSum_append hip) _

theorem application_add_grouped (rs : List Record) (r : Record) :
    ((grouped rs).add r).application = (grouped (rs ++ [r])).application := by
  cases hip : r.ipPayload with
  | none => simp [add, grouped, hip]
  | some p =>
    cases hsegment : r.transportPayload with
    | none => simp [add, grouped, hip, hsegment]
    | some q =>
      have hcounted : [r].filter (fun r => r.ipPayload.isSome && r.transportPayload.isSome) = [r] :=
        by simp [hip, hsegment]
      simp only [add, hip, hsegment, grouped, List.filter_append, hcounted]
      exact Rows.update_groups (fun r : Record => r.application.name) applicationSum rfl
        (fun _ => applicationSum_append hip hsegment) _

end Add

/-- **Counting one more record gives the grouping of one more.** -/
theorem add_grouped (rs : List Record) (r : Record) : (grouped rs).add r = grouped (rs ++ [r]) :=
  ext (network_add_grouped rs r) (transport_add_grouped rs r) (application_add_grouped rs r)

theorem grouped_nil : grouped [] = {} :=
  ext rfl Rows.groups_nil Rows.groups_nil

theorem addAll_grouped (rs more : List Record) :
    (grouped rs).addAll more = grouped (rs ++ more) := by
  induction more generalizing rs with
  | nil =>
    rw [List.append_nil]
    rfl
  | cons r rest ih =>
    rw [addAll, List.foldl_cons, add_grouped, ← addAll, ih, List.append_assoc,
      List.singleton_append]

/-- The grouping does not depend on the order of the records. -/
theorem grouped_perm {rs rs' : List Record} (h : rs.Perm rs') : grouped rs = grouped rs' := by
  have htransport : ∀ {g g' : List Record}, g.Perm g' → transportSum g = transportSum g' := by
    intro g g' hg
    simp only [transportSum, hg.length_eq, total_perm (hg.map _)]
  have happlication : ∀ {g g' : List Record}, g.Perm g' → applicationSum g = applicationSum g' := by
    intro g g' hg
    simp only [applicationSum, hg.length_eq, total_perm (hg.map _)]
  refine ext ?_ (Rows.groups_perm htransport (h.filter _))
    (Rows.groups_perm happlication (h.filter _))
  simp only [grouped, h.length_eq, total_perm (h.map _)]

/-- The row of a protocol holds the records of its number. -/
theorem lookup_transport_grouped {rs : List Record} {r : Record} (hr : r ∈ rs)
    (hip : r.ipPayload.isSome = true) :
    (grouped rs).transport.lookup r.transport.label = some (transportSum
      (rs.filter fun q => q.ipPayload.isSome && q.transport.number = r.transport.number)) := by
  have hmem : r.transport.label ∈ (rs.filter (·.ipPayload.isSome)).map (·.transport.label) :=
    List.mem_map.mpr ⟨r, List.mem_filter.mpr ⟨hr, hip⟩, rfl⟩
  rw [grouped, Rows.lookup_groups, if_pos hmem, List.filter_filter]
  simp only [Transport.label_inj, Bool.and_comm]

/-! ### Calls -/

/-- What totals are asked to do. -/
inductive Call where
  | clear
  | update (r : Record)
  | updateMultiple (rs : List Record)

/-- Makes a call. -/
def Call.apply (t : Totals) : Call → Totals
  | clear => {}
  | update r => t.add r
  | updateMultiple rs => t.addAll rs

/-- The records that count after a call. -/
def Call.counted (rs : List Record) : Call → List Record
  | clear => []
  | update r => rs ++ [r]
  | updateMultiple more => rs ++ more

/-- The totals after calls. -/
def run (calls : List Call) : Totals := calls.foldl Call.apply {}

/-- The records of the calls since the last clear. -/
def sinceClear (calls : List Call) : List Record := calls.foldl Call.counted []

theorem Call.apply_grouped (call : Call) (rs : List Record) :
    call.apply (grouped rs) = grouped (call.counted rs) := by
  cases call with
  | clear => exact grouped_nil.symm
  | update r => exact add_grouped rs r
  | updateMultiple more => exact addAll_grouped rs more

theorem run_eq_grouped (calls : List Call) : run calls = grouped (sinceClear calls) := by
  have hfoldl : ∀ rs,
      calls.foldl Call.apply (grouped rs) = grouped (calls.foldl Call.counted rs) := by
    induction calls with
    | nil => exact fun rs => rfl
    | cons call rest ih =>
      intro rs
      rw [List.foldl_cons, Call.apply_grouped, ih, List.foldl_cons]
  rw [run, ← grouped_nil, hfoldl, sinceClear]

/-- **Totals are the grouping of their records**, in whatever order these came and however they were
cut into calls. A protocol has one row for the records of its number, and two protocols share a row
exactly if they have one number. -/
theorem grouped_of_calls (calls : List Call) (rs : List Record) (h : (sinceClear calls).Perm rs) :
    run calls = grouped rs ∧
      (∀ r ∈ rs, r.ipPayload.isSome = true →
        (run calls).transport.lookup r.transport.label = some (transportSum
          (rs.filter fun q => q.ipPayload.isSome && q.transport.number = r.transport.number))) ∧
      ∀ p q : Transport, p.label = q.label ↔ p.number = q.number := by
  have hgrouped : run calls = grouped rs := (run_eq_grouped calls).trans (grouped_perm h)
  refine ⟨hgrouped, fun r hr hip => ?_, fun p q => Transport.label_inj⟩
  rw [hgrouped]
  exact lookup_transport_grouped hr hip

/-- Three packets in two calls after a clear: a request and two packets of unnamed protocols. -/
theorem grouped_of_calls_unnamed :
    let time : Timestamp := ⟨⟨63082281600000000, by decide⟩, 0⟩
    let unnamed (number : Int) : Record :=
      { time, length := 60, transport := ⟨number⟩, ipPayload := some 40 }
    let request : Record :=
      { time, length := 100, transport := .tcp, ipPayload := some 80, transportPayload := some 60
        application := .http }
    let calls := [Call.update request, .clear, .updateMultiple [unnamed 201, request],
      .update (unnamed 200), .update (unnamed 201)]
    let rs := [unnamed 200, unnamed 201, unnamed 201, request]
    (sinceClear calls).Perm rs ∧ run calls = grouped rs ∧
      (run calls).transport = [("TCP", ⟨1, 80, 100⟩), ("Unknown (200)", ⟨1, 40, 60⟩),
        ("Unknown (201)", ⟨2, 80, 120⟩)] ∧
      (run calls).application = [("HTTP", ⟨1, 60, 100, 80⟩)] ∧
      (run calls).transport.lookup "Unknown (201)" = some (transportSum
        (rs.filter fun q => q.ipPayload.isSome && q.transport.number = 201)) := by
  intro time unnamed request calls rs
  have hperm : (sinceClear calls).Perm rs := by decide +kernel
  obtain ⟨hgrouped, hrows, -⟩ := grouped_of_calls calls rs hperm
  exact ⟨hperm, hgrouped, by decide +kernel, by decide +kernel,
    hrows (unnamed 201) (by decide +kernel) rfl⟩

end Totals

end TrafficMonitor
