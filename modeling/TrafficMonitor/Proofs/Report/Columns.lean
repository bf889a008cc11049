import TrafficMonitor.Report.Table

/-! Columns of tables. Widths are counted in terminal cells, of which a character can take two, and
the cells of a row are filled up to the widths of their columns, so that in every line a cell begins
in the same place of the terminal (`columns_aligned`). White space at the end of a line is taken
away, which never takes anything of a cell that is not blank: what is left of the line still holds
the cell, without the white space at its own end (`exists_trimEnd`). -/
namespace TrafficMonitor.Text
variable {cs : List Char}

/-! ### Trimming -/

/-- What is taken away is white space. -/
theorem trimEnd_append_gap (cs : List Char) :
    ∃ gap, trimEnd cs ++ gap = cs ∧ ∀ c ∈ gap, isBlank c = true := by
  refine ⟨(cs.reverse.takeWhile isBlank).reverse, ?_, fun c hc => ?_⟩
  · rw [trimEnd, ← List.reverse_append, List.takeWhile_append_dropWhile, List.reverse_reverse]
  · exact List.all_eq_true.mp List.all_takeWhile c (List.mem_reverse.mp hc)

theorem trimEnd_ne_nil (h : ∃ c ∈ cs, isBlank c = false) : trimEnd cs ≠ [] := by
  intro hnil
  obtain ⟨gap, hgap, hblank⟩ := trimEnd_append_gap cs
  obtain ⟨c, hc, hc'⟩ := h
  rw [hnil, List.nil_append] at hgap
  subst hgap
  rw [hblank c hc] at hc'
  cases hc'

/-- The characters of a text that are not white space. -/
def visible (cs : List Char) : List Char := cs.filter (!isBlank ·)

theorem visible_append (a b : List Char) : visible (a ++ b) = visible a ++ visible b :=
  List.filter_append a b

theorem visible_of_blank (h : ∀ c ∈ cs, isBlank c = true) : visible cs = [] :=
  List.filter_eq_nil_iff.mpr fun c hc => by simp [h c hc]

theorem visible_trimEnd (cs : List Char) : visible (trimEnd cs) = visible cs := by
  obtain ⟨gap, hgap, hblank⟩ := trimEnd_append_gap cs
  have happend := visible_append (trimEnd cs) gap
  rw [hgap, visible_of_blank hblank, List.append_nil] at happend
  exact happend.symm

/-- A part of a text that is not blank keeps its place in the trimmed text. -/
theorem exists_trimEnd (h : trimEnd cs ≠ []) (before after : List Char) :
    ∃ rest, trimEnd (before ++ cs ++ after) = before ++ trimEnd cs ++ rest := by
  by_cases hafter : trimEnd after = []
  · refine ⟨[], ?_⟩
    rw [trimEnd_append, if_pos hafter, trimEnd_append, if_neg h, List.append_nil]
  · obtain ⟨gap, hgap, -⟩ := trimEnd_append_gap cs
    refine ⟨gap ++ trimEnd after, ?_⟩
    calc trimEnd (before ++ cs ++ after) = before ++ cs ++ trimEnd after := by
          rw [trimEnd_append, if_neg hafter]
      _ = before ++ (trimEnd cs ++ gap) ++ trimEnd after := by rw [hgap]
      _ = before ++ trimEnd cs ++ (gap ++ trimEnd after) := by simp only [List.append_assoc]

end TrafficMonitor.Text

namespace TrafficMonitor.Report
open Number Text

/-! ### Widths -/

/-- The terminal cells of characters. -/
def widthOf (cs : List Char) : Nat := total (cs.map cellWidth)

theorem widthOf_append (a b : List Char) : widthOf (a ++ b) = widthOf a + widthOf b := by
  rw [widthOf, List.map_append, total_append]
  rfl

theorem widthOf_replicate {c : Char} (h : cellWidth c = 1) (n : Nat) :
    widthOf (List.replicate n c) = n := by
  induction n with
  | zero => rfl
  | succ n ih =>
    simp only [widthOf, List.replicate_succ, List.map_cons, total_cons, h] at ih ⊢
    omega

theorem widthOf_trimEnd_le (cs : List Char) : widthOf (trimEnd cs) ≤ widthOf cs := by
  obtain ⟨gap, hgap, -⟩ := trimEnd_append_gap cs
  have happend := widthOf_append (trimEnd cs) gap
  rw [hgap] at happend
  omega

/-- A cell that is filled up has the width of its column. -/
theorem widthOf_fill {cell : String} {w : Nat} (h : width cell ≤ w) :
    widthOf (fill cell w) = w := by
  have hcell : widthOf cell.toList = width cell := rfl
  rw [fill, widthOf_append, widthOf_replicate (by decide), hcell]
  omega

/-! ### The widths of the columns -/

/-- The largest number of a list. -/
def largest (ns : List Nat) : Nat := ns.foldr max 0

/-- The width of a column: that of its title or of its widest cell. -/
def columnWidth (titles : List String) (rows : List (List String)) (j : Nat) : Nat :=
  largest ((titles :: rows).map fun row => width (row.getD j ""))

/-- Where a column begins: behind the columns before it, and two spaces behind each of these. -/
def columnStart (titles : List String) (rows : List (List String)) (j : Nat) : Nat :=
  total ((List.range j).map (columnWidth titles rows)) + 2 * j

theorem le_largest {ns : List Nat} {n : Nat} (h : n ∈ ns) : n ≤ largest ns := by
  induction ns with
  | nil => cases h
  | cons m ns ih =>
    simp only [largest, List.foldr_cons] at ih ⊢
    rcases List.mem_cons.mp h with rfl | h
    · exact Nat.le_max_left n _
    · exact Nat.le_trans (ih h) (Nat.le_max_right m _)

theorem width_le_columnWidth {titles row : List String} {rows : List (List String)}
    (h : row ∈ titles :: rows) (j : Nat) : width (row.getD j "") ≤ columnWidth titles rows j :=
  le_largest (List.mem_map_of_mem h)

theorem widen_eq {ws : List Nat} {row : List String} (h : row.length = ws.length) :
    widen ws row =
      (List.range ws.length).map fun j => max (ws.getD j 0) (width (row.getD j "")) := by
  induction ws generalizing row with
  | nil => rfl
  | cons w ws ih =>
    obtain _ | ⟨cell, row⟩ := row
    · cases h
    · rw [widen, ih (Nat.succ.inj h), List.length_cons, List.range_succ_eq_map, List.map_cons,
        List.map_map]
      rfl

/-- Row by row the widths grow to the largest. -/
theorem foldl_widen {ws : List Nat} {rows : List (List String)}
    (h : ∀ row ∈ rows, row.length = ws.length) :
    rows.foldl widen ws = (List.range ws.length).map fun j =>
      max (ws.getD j 0) (largest (rows.map fun row => width (row.getD j ""))) := by
  induction rows generalizing ws with
  | nil =>
    refine List.ext_getElem (by simp) fun j hj hj' => ?_
    simp only [List.length_map, List.length_range] at hj'
    simp [largest, hj']
  | cons row rows ih =>
    have hrow := h row List.mem_cons_self
    have hlength : (widen ws row).length = ws.length := by simp [widen_eq hrow]
    rw [List.foldl_cons, ih fun r hr => by rw [hlength]; exact h r (List.mem_cons_of_mem _ hr),
      hlength]
    refine List.map_congr_left fun j hj => ?_
    have hj : j < ws.length := List.mem_range.mp hj
    simp only [widen_eq hrow, List.getD_eq_getElem?_getD, List.getElem?_map,
      List.getElem?_range hj, Option.map_some, Option.getD_some, List.map_cons, largest,
      List.foldr_cons, Nat.max_assoc]

theorem columnWidths_eq {titles : List String} {rows : List (List String)}
    (h : ∀ row ∈ rows, row.length = titles.length) :
    columnWidths titles rows = (List.range titles.length).map (columnWidth titles rows) := by
  rw [columnWidths, foldl_widen (by simpa using h), List.length_map]
  refine List.map_congr_left fun j hj => ?_
  have hj : j < titles.length := List.mem_range.mp hj
  simp [columnWidth, largest, hj]

/-! ### Rows -/

/-- In the joined pieces each piece stands behind those before it and two spaces behind each. -/
theorem exists_intercalate {pieces : List (List Char)} {j : Nat} {piece : List Char}
    (h : pieces[j]? = some piece) : ∃ before after,
      [' ', ' '].intercalate pieces = before ++ piece ++ after ∧
        widthOf before = total ((pieces.take j).map widthOf) + 2 * j := by
  induction pieces generalizing j with
  | nil => cases h
  | cons first pieces ih =>
    cases j with
    | zero =>
      obtain rfl : first = piece := Option.some.inj h
      cases pieces with
      | nil => exact ⟨[], [], by simp, rfl⟩
      | cons second pieces =>
        exact ⟨[], [' ', ' '] ++ [' ', ' '].intercalate (second :: pieces),
          by rw [List.intercalate_cons_cons, List.nil_append, List.append_assoc], rfl⟩
    | succ j =>
      obtain ⟨before, after, hjoin, hwidth⟩ := ih (j := j) h
      obtain ⟨second, pieces, rfl⟩ : ∃ second rest, pieces = second :: rest := by
        cases pieces with
        | nil => cases h
        | cons second rest => exact ⟨second, rest, rfl⟩
      refine ⟨first ++ [' ', ' '] ++ before, after, ?_, ?_⟩
      · rw [List.intercalate_cons_cons, hjoin]
        simp only [List.append_assoc]
      · rw [widthOf_append, widthOf_append, hwidth, List.take_succ_cons, List.map_cons, total_cons]
        have hspaces : widthOf [' ', ' '] = 2 := by decide
        omega

theorem widthOf_intercalate {pieces : List (List Char)} (h : pieces ≠ []) :
    widthOf ([' ', ' '].intercalate pieces) =
      total (pieces.map widthOf) + 2 * (pieces.length - 1) := by
  induction pieces with
  | nil => exact absurd rfl h
  | cons first pieces ih =>
    cases pieces with
    | nil => simp
    | cons second pieces =>
      have hspaces : widthOf [' ', ' '] = 2 := by decide
      rw [List.intercalate_cons_cons, widthOf_append, widthOf_append, ih (List.cons_ne_nil _ _),
        hspaces]
      simp only [List.map_cons, total_cons, List.length_cons]
      omega

/-- The cells fit the columns one by one. -/
def Fit (cells : List String) (ws : List Nat) : Prop :=
  cells.length = ws.length ∧ ∀ j, width (cells.getD j "") ≤ ws.getD j 0

theorem map_widthOf_fill {cells : List String} {ws : List Nat} (h : Fit cells ws) :
    (cells.zipWith fill ws).map widthOf = ws := by
  induction cells generalizing ws with
  | nil =>
    cases ws with
    | nil => rfl
    | cons w ws => exact absurd h.1 (by simp)
  | cons cell cells ih =>
    cases ws with
    | nil => exact absurd h.1 (by simp)
    | cons w ws =>
      have hcell : width cell ≤ w := h.2 0
      rw [List.zipWith_cons_cons, List.map_cons, widthOf_fill hcell,
        ih ⟨Nat.succ.inj h.1, fun j => h.2 (j + 1)⟩]

theorem visible_spaces (n : Nat) : visible (List.replicate n ' ') = [] := by
  refine visible_of_blank fun c hc => ?_
  rw [List.eq_of_mem_replicate hc]
  decide

theorem visible_intercalate (pieces : List (List Char)) :
    visible ([' ', ' '].intercalate pieces) = visible pieces.flatten := by
  induction pieces with
  | nil => rfl
  | cons first pieces ih =>
    cases pieces with
    | nil => simp
    | cons second pieces =>
      have hspaces : visible [' ', ' '] = [] := visible_spaces 2
      simp only [List.intercalate_cons_cons, List.flatten_cons, visible_append, hspaces,
        List.append_nil] at ih ⊢
      rw [ih]

/-- A line shows the cells of its row and nothing else. -/
theorem visible_rowLine {cells : List String} {ws : List Nat} (h : Fit cells ws) :
    visible (rowLine ws cells).toList = visible (cells.flatMap String.toList) := by
  have hfill : visible (cells.zipWith fill ws).flatten = visible (cells.flatMap String.toList) := by
    replace h := h.1
    induction cells generalizing ws with
    | nil => rfl
    | cons cell cells ih =>
      cases ws with
      | nil => exact absurd h (by simp)
      | cons w ws =>
        rw [List.zipWith_cons_cons, List.flatten_cons, visible_append, ih (Nat.succ.inj h), fill,
          visible_append, visible_spaces, List.append_nil, List.flatMap_cons, visible_append]
  rw [rowLine, String.toList_ofList, visible_trimEnd, visible_intercalate, hfill]

/-- From a display column on, the text stands in the line. -/
def StandsAt (line : String) (column : Nat) (text : List Char) : Prop :=
  ∃ before after, line.toList = before ++ text ++ after ∧ widthOf before = column

/-- A cell that is not blank begins where the columns before it end. -/
theorem standsAt_rowLine {cells : List String} {ws : List Nat} (h : Fit cells ws) {j : Nat}
    {cell : String} (hcell : cells[j]? = some cell)
    (hshown : ∃ c ∈ cell.toList, isBlank c = false) :
    StandsAt (rowLine ws cells) (total (ws.take j) + 2 * j) (trimEnd cell.toList) := by
  obtain ⟨hj, -⟩ := List.getElem?_eq_some_iff.mp hcell
  obtain ⟨w, hw⟩ : ∃ w, ws[j]? = some w := ⟨_, List.getElem?_eq_getElem (h.1 ▸ hj)⟩
  have hpiece : (cells.zipWith fill ws)[j]? = some (fill cell w) := by
    rw [List.getElem?_zipWith, hcell, hw]
  obtain ⟨before, after, hjoin, hwidth⟩ := exists_intercalate hpiece
  rw [List.map_take, map_widthOf_fill h] at hwidth
  obtain ⟨rest, hrest⟩ := exists_trimEnd (trimEnd_ne_nil hshown) before
    (List.replicate (w - width cell) ' ' ++ after)
  refine ⟨before, rest, ?_, hwidth⟩
  rw [rowLine, String.toList_ofList, hjoin, ← hrest, fill]
  simp only [List.append_assoc]

theorem width_rowLine_le {cells : List String} {ws : List Nat} (h : Fit cells ws) (hne : ws ≠ []) :
    width (rowLine ws cells) ≤ total ws + 2 * (ws.length - 1) := by
  have hlength : (cells.zipWith fill ws).length = ws.length := by
    rw [List.length_zipWith, h.1, Nat.min_self]
  have hpieces : cells.zipWith fill ws ≠ [] := by
    rw [← List.length_pos_iff, hlength]
    exact List.length_pos_iff.mpr hne
  have hline : width (rowLine ws cells) =
      widthOf (trimEnd ([' ', ' '].intercalate (cells.zipWith fill ws))) := by
    rw [rowLine, width, String.toList_ofList]
    rfl
  calc width (rowLine ws cells) ≤ widthOf ([' ', ' '].intercalate (cells.zipWith fill ws)) :=
        hline ▸ widthOf_trimEnd_le _
    _ = total ws + 2 * (ws.length - 1) := by
        rw [widthOf_intercalate hpieces, map_widthOf_fill h, hlength]

/-! ### Tables -/

section Tables
variable {titles : List String} {rows : List (List String)}

/-- Every row fits the columns. -/
theorem fit_columnWidths (h : ∀ row ∈ rows, row.length = titles.length) {cells : List String}
    (hcells : cells ∈ titles :: rows) : Fit cells (columnWidths titles rows) := by
  have hlength : cells.length = titles.length := by
    rcases List.mem_cons.mp hcells with rfl | hrow
    · rfl
    · exact h cells hrow
  rw [columnWidths_eq h]
  refine ⟨by simpa using hlength, fun j => ?_⟩
  rcases Nat.lt_or_ge j titles.length with hj | hj
  · simpa [hj] using width_le_columnWidth hcells j
  · have hnone : cells.getD j "" = "" := by
      rw [List.getD_eq_getElem?_getD, List.getElem?_eq_none (by omega), Option.getD_none]
    rw [hnone]
    exact Nat.zero_le _

theorem columnStart_eq (h : ∀ row ∈ rows, row.length = titles.length) {j : Nat}
    (hj : j < titles.length) :
    total ((columnWidths titles rows).take j) + 2 * j = columnStart titles rows j := by
  rw [columnWidths_eq h, ← List.map_take, List.take_range, Nat.min_eq_left (Nat.le_of_lt hj)]
  rfl

/-- **The columns of a table line up.** For titles and rows with one cell for each title there is a
line of titles, a line of dashes, and a line for each row, in order. The dashes are as wide as the
columns with two spaces between them, and no line is wider. In the line of titles and in the line of
each row, a cell that is not blank begins where its column begins, however wide the characters of
the cells before it are; it is there without the white space at its end. White space apart, nothing
but the cells is in the line. -/
theorem columns_aligned (htitles : titles ≠ [])
    (hrows : ∀ row ∈ rows, row.length = titles.length) :
    ∃ header dashes body, table? titles rows = some (header :: dashes :: body) ∧
      body.length = rows.length ∧
      dashes = String.ofList (List.replicate (total ((List.range titles.length).map
        (columnWidth titles rows)) + 2 * (titles.length - 1)) '-') ∧
      (∀ line ∈ header :: dashes :: body, width line ≤ width dashes) ∧
      ∀ cells line, (cells, line) ∈ (titles, header) :: rows.zip body →
        visible line.toList = visible (cells.flatMap String.toList) ∧
        ∀ j cell, cells[j]? = some cell → (∃ c ∈ cell.toList, isBlank c = false) →
          StandsAt line (columnStart titles rows j) (trimEnd cell.toList) := by
  let ws := columnWidths titles rows
  have hws : ws = (List.range titles.length).map (columnWidth titles rows) := columnWidths_eq hrows
  have hlength : ws.length = titles.length := by simp [hws]
  have hne : ws ≠ [] := by
    rw [← List.length_pos_iff, hlength]
    exact List.length_pos_iff.mpr htitles
  have hruler : width (ruler ws) = total ws + 2 * (ws.length - 1) := by
    rw [ruler, width, String.toList_ofList]
    exact widthOf_replicate (by decide) _
  refine ⟨rowLine ws titles, ruler ws, rows.map (rowLine ws), ?_, List.length_map .., ?_, ?_, ?_⟩
  · have hall : rows.all (·.length ≤ titles.length) = true :=
      List.all_eq_true.mpr fun row hrow => decide_eq_true (Nat.le_of_eq (hrows row hrow))
    rw [table?, if_pos hall]
    rfl
  · rw [ruler, hlength, hws]
  · intro line hline
    rw [hruler]
    rcases List.mem_cons.mp hline with rfl | hline
    · exact width_rowLine_le (fit_columnWidths hrows List.mem_cons_self) hne
    · rcases List.mem_cons.mp hline with rfl | hline
      · exact Nat.le_of_eq hruler
      · obtain ⟨row, hrow, rfl⟩ := List.mem_map.mp hline
        exact width_rowLine_le (fit_columnWidths hrows (List.mem_cons_of_mem _ hrow)) hne
  · intro cells line hmem
    obtain ⟨hcells, rfl⟩ : cells ∈ titles :: rows ∧ line = rowLine ws cells := by
      rcases List.mem_cons.mp hmem with heq | hmem
      · cases heq
        exact ⟨List.mem_cons_self, rfl⟩
      · have hzip : rows.zip (rows.map (rowLine ws)) =
            rows.map fun row => (row, rowLine ws row) := by
          simpa using List.zip_map' (f := id) (g := rowLine ws) (l := rows)
        rw [hzip] at hmem
        obtain ⟨row, hrow, heq⟩ := List.mem_map.mp hmem
        cases heq
        exact ⟨List.mem_cons_of_mem _ hrow, rfl⟩
    have hfit : Fit cells ws := fit_columnWidths hrows hcells
    refine ⟨visible_rowLine hfit, fun j cell hcell hshown => ?_⟩
    obtain ⟨hj, -⟩ := List.getElem?_eq_some_iff.mp hcell
    rw [hfit.1, hlength] at hj
    rw [← columnStart_eq hrows hj]
    exact standsAt_rowLine hfit hcell hshown

/-- A table with wide characters, white space at the end of a cell and a blank cell. The second
column begins in the same place of every line. -/
theorem columns_aligned_wide :
    let titles := ["协议", "n"]
    let rows := [["TCP", "12 "], [" ", "7"]]
    titles ≠ [] ∧ (∀ row ∈ rows, row.length = titles.length) ∧
      table? titles rows = some ["协议  n", "---------", "TCP   12", "      7"] ∧
      columnStart titles rows 1 = 6 ∧ StandsAt "协议  n" 6 ['n'] ∧
      StandsAt "TCP   12" 6 ['1', '2'] ∧ StandsAt "      7" 6 ['7'] := by
  intro titles rows
  have htitles : titles ≠ [] := by decide
  have hrows : ∀ row ∈ rows, row.length = titles.length := by decide
  have htable : table? titles rows = some ["协议  n", "---------", "TCP   12", "      7"] := by decide
  obtain ⟨header, dashes, body, hlines, -, -, -, hcells⟩ := columns_aligned htitles hrows
  rw [htable] at hlines
  obtain ⟨rfl, rfl, rfl⟩ : header = "协议  n" ∧ dashes = "---------" ∧
      body = ["TCP   12", "      7"] := by
    simpa [eq_comm] using hlines
  have hstart : columnStart titles rows 1 = 6 := by decide
  rw [← hstart]
  exact ⟨htitles, hrows, htable, rfl,
    (hcells titles _ (by simp)).2 1 "n" rfl ⟨'n', by decide, by decide +kernel⟩,
    (hcells ["TCP", "12 "] _ (by simp [rows])).2 1 "12 " rfl ⟨'1', by decide, by decide +kernel⟩,
    (hcells [" ", "7"] _ (by simp [rows])).2 1 "7" rfl ⟨'7', by decide, by decide +kernel⟩⟩

end Tables

end TrafficMonitor.Report
