import TrafficMonitor.Report.HexDump
import TrafficMonitor.Text.Blank
import TrafficMonitor.Text.Split

/-! Hex dumps are read back. A line shows each of its bytes as two digits in a column of its own
(`Shows`), the same in every line, and nothing but spaces stands between the columns; so a last
line with fewer bytes differs from a full one by what is missing at its end. The reader knows
nothing of columns: it takes a line apart at its spaces and reads every group of two digits
(`readDump?`). `readDump?_hexDump` says that this gives the bytes of the dump, in order, and
`shows_hexDump` what each line shows. A line is its two groups without the spaces at its end
(`hexLine_eq_trimEnd`). -/
namespace TrafficMonitor.Report
open Packet Text

/-! ### What a line shows -/

/-- Where the digits of a byte begin. A byte takes three columns, and one space more stands before
the ninth. -/
def byteColumn (k : Nat) : Nat := 3 * k + k / 8

/-- The line shows the bytes, of which there are sixteen at most. -/
structure Shows (shown : List Char) (row : Bytes) : Prop where
  digits : ∀ k b, row[k]? = some b →
    shown[byteColumn k]? = some (Nat.digitChar (b.toNat / 16)) ∧
      shown[byteColumn k + 1]? = some (Nat.digitChar (b.toNat % 16))
  /-- Between two bytes stand spaces. -/
  between : ∀ k, k + 1 < row.length → ∀ i, byteColumn k + 2 ≤ i → i < byteColumn (k + 1) →
    shown[i]? = some ' '
  /-- The line ends with the last byte. -/
  length : shown.length = byteColumn (row.length - 1) + 2

theorem hexadecimal_byte (b : UInt8) :
    hexadecimal 2 b.toNat = [Nat.digitChar (b.toNat / 16), Nat.digitChar (b.toNat % 16)] := by
  have hall : ∀ n < 256,
      hexadecimal 2 n = [Nat.digitChar (n / 16), Nat.digitChar (n % 16)] := by
    decide +kernel
  exact hall b.toNat b.toNat_lt

theorem hexGroup_singleton (b : UInt8) : hexGroup [b] = hexadecimal 2 b.toNat := by
  simp [hexGroup]

theorem hexGroup_cons (b : UInt8) {rest : Bytes} (h : rest ≠ []) :
    hexGroup (b :: rest) = hexadecimal 2 b.toNat ++ ' ' :: hexGroup rest := by
  obtain ⟨c, rest, rfl⟩ := List.exists_cons_of_ne_nil h
  simp [hexGroup, List.intercalate]

/-- A group of bytes as columns: three for each byte but the last, which has two. -/
theorem getElem?_hexGroup {row : Bytes} {k : Nat} {b : UInt8} (h : row[k]? = some b) :
    ((hexGroup row)[3 * k]? = some (Nat.digitChar (b.toNat / 16)) ∧
      (hexGroup row)[3 * k + 1]? = some (Nat.digitChar (b.toNat % 16))) ∧
    (k + 1 < row.length → (hexGroup row)[3 * k + 2]? = some ' ') := by
  induction row generalizing k with
  | nil => cases h
  | cons c rest ih =>
    by_cases hrest : rest = []
    · subst hrest
      obtain ⟨rfl, rfl⟩ : k = 0 ∧ c = b := by
        cases k with
        | zero => exact ⟨rfl, Option.some.inj h⟩
        | succ k => cases h
      simp [hexGroup_singleton, hexadecimal_byte]
    · rw [hexGroup_cons c hrest, hexadecimal_byte]
      cases k with
      | zero =>
        obtain rfl : c = b := Option.some.inj h
        simp
      | succ k =>
        simpa [Nat.mul_add, Nat.add_right_comm _ 3] using ih (k := k) h

theorem length_hexGroup {row : Bytes} (h : row ≠ []) :
    (hexGroup row).length = 3 * (row.length - 1) + 2 := by
  induction row with
  | nil => exact absurd rfl h
  | cons b rest ih =>
    by_cases hrest : rest = []
    · subst hrest
      simp [hexGroup_singleton, hexadecimal_byte]
    · have hpos := List.length_pos_iff.mpr hrest
      simp only [hexGroup_cons b hrest, hexadecimal_byte, List.length_append, List.length_cons,
        List.length_nil, ih hrest]
      omega

theorem length_firstGroup {row : Bytes} (h : 8 < row.length) :
    (hexGroup (row.take 8)).length = 23 := by
  have hlength : (row.take 8).length = 8 := by
    rw [List.length_take]
    omega
  rw [length_hexGroup (by rw [← List.length_pos_iff]; omega), hlength]

/-- A group ends in a digit. -/
theorem trimEnd_hexGroup (row : Bytes) : trimEnd (hexGroup row) = hexGroup row := by
  have hdigits : ∀ b : UInt8, trimEnd (hexadecimal 2 b.toNat) = hexadecimal 2 b.toNat := by
    have hall : ∀ n < 256, trimEnd (hexadecimal 2 n) = hexadecimal 2 n := by
      decide +kernel
    exact fun b => hall b.toNat b.toNat_lt
  induction row with
  | nil => rfl
  | cons b rest ih =>
    by_cases hrest : rest = []
    · rw [hrest, hexGroup_singleton, hdigits]
    · have hlength := length_hexGroup hrest
      have hne : hexGroup rest ≠ [] := List.length_pos_iff.mp (by omega)
      rw [hexGroup_cons b hrest, List.append_cons, trimEnd_append, ih, if_neg hne]

/-- **A line is its two groups with two spaces between, without the spaces at its end**: where there
is no second group, nothing is left of the spaces. -/
theorem hexLine_eq_trimEnd (row : Bytes) :
    hexLine row = trimEnd (hexGroup (row.take 8) ++ [' ', ' '] ++ hexGroup (row.drop 8)) := by
  rw [trimEnd_append, trimEnd_hexGroup, hexLine]
  have hspaces : trimEnd [' ', ' '] = [] := by decide
  split
  · rename_i hshort
    have hempty : hexGroup (row.drop 8) = [] := by
      rw [List.drop_eq_nil_of_le hshort]
      rfl
    rw [if_pos hempty, List.take_of_length_le hshort, trimEnd_append, if_pos hspaces,
      trimEnd_hexGroup]
  · rename_i hlong
    have hsecond : row.drop 8 ≠ [] := by
      rw [← List.length_pos_iff, List.length_drop]
      omega
    have hlength := length_hexGroup hsecond
    have hne : hexGroup (row.drop 8) ≠ [] := List.length_pos_iff.mp (by omega)
    rw [if_neg hne, List.append_assoc]
    rfl

theorem hexLine_left {row : Bytes} (h : 8 < row.length) {i : Nat} (hi : i < 23) :
    (hexLine row)[i]? = (hexGroup (row.take 8))[i]? := by
  rw [hexLine, if_neg (by omega), List.getElem?_append_left (by rw [length_firstGroup h]; exact hi)]

theorem hexLine_middle {row : Bytes} (h : 8 < row.length) {i : Nat} (hi : 23 ≤ i) (hi' : i < 25) :
    (hexLine row)[i]? = some ' ' := by
  rw [hexLine, if_neg (by omega),
    List.getElem?_append_right (by rw [length_firstGroup h]; exact hi), length_firstGroup h]
  obtain rfl | rfl : i = 23 ∨ i = 24 := by omega
  all_goals rfl

theorem hexLine_right {row : Bytes} (h : 8 < row.length) (i : Nat) :
    (hexLine row)[25 + i]? = (hexGroup (row.drop 8))[i]? := by
  rw [hexLine, if_neg (by omega),
    List.getElem?_append_right (by rw [length_firstGroup h]; omega), length_firstGroup h,
    show 25 + i - 23 = i + 1 + 1 by omega, List.getElem?_cons_succ, List.getElem?_cons_succ]

/-- A line of up to eight bytes is one group. -/
theorem shows_hexLine_short {row : Bytes} (hne : row ≠ []) (h : row.length ≤ 8) :
    Shows (hexLine row) row := by
  have hline : hexLine row = hexGroup row := if_pos h
  have hpos := List.length_pos_iff.mpr hne
  have hcolumn : ∀ k, k < 8 → byteColumn k = 3 * k := by
    intro k hk
    simp only [byteColumn]
    omega
  rw [hline]
  refine ⟨fun k b hb => ?_, fun k hk i hi hi' => ?_, ?_⟩
  · obtain ⟨hk, -⟩ := List.getElem?_eq_some_iff.mp hb
    rw [hcolumn k (by omega)]
    exact (getElem?_hexGroup hb).1
  · rw [hcolumn k (by omega)] at hi
    rw [hcolumn (k + 1) (by omega)] at hi'
    obtain rfl : i = 3 * k + 2 := by omega
    exact (getElem?_hexGroup (List.getElem?_eq_getElem (Nat.lt_of_succ_lt hk))).2 hk
  · rw [length_hexGroup hne, hcolumn _ (by omega)]

/-- A line of more than eight bytes is two groups, and a byte stands in one of them. -/
theorem shows_hexLine_long {row : Bytes} (h : 8 < row.length) (hle : row.length ≤ 16) :
    Shows (hexLine row) row := by
  have hleft : ∀ k, k < 8 → byteColumn k = 3 * k := by
    intro k hk
    simp only [byteColumn]
    omega
  have hright : ∀ k, k < 8 → byteColumn (8 + k) = 25 + 3 * k := by
    intro k hk
    simp only [byteColumn]
    omega
  have hplace : ∀ k b, row[k]? = some b →
      (k < 8 ∧ (row.take 8)[k]? = some b) ∨
        ∃ m, k = 8 + m ∧ m < 8 ∧ (row.drop 8)[m]? = some b := by
    intro k b hb
    obtain ⟨hk, -⟩ := List.getElem?_eq_some_iff.mp hb
    rcases Nat.lt_or_ge k 8 with hlt | hge
    · exact Or.inl ⟨hlt, by rwa [List.getElem?_take_of_lt hlt]⟩
    · exact Or.inr ⟨k - 8, by omega, by omega, by
        rwa [List.getElem?_drop, show 8 + (k - 8) = k by omega]⟩
  refine ⟨fun k b hb => ?_, fun k hk i hi hi' => ?_, ?_⟩
  · rcases hplace k b hb with ⟨hlt, hb⟩ | ⟨m, rfl, hlt, hb⟩
    · rw [hleft k hlt, hexLine_left h (by omega), hexLine_left h (by omega)]
      exact (getElem?_hexGroup hb).1
    · rw [hright m hlt, Nat.add_assoc, hexLine_right h, hexLine_right h]
      exact (getElem?_hexGroup hb).1
  · rcases hplace k _ (List.getElem?_eq_getElem (Nat.lt_of_succ_lt hk)) with
      ⟨hlt, hb⟩ | ⟨m, rfl, hlt, hb⟩
    · rw [hleft k hlt] at hi
      rcases Nat.lt_or_ge k 7 with hlt' | hge
      · rw [hleft (k + 1) (by omega)] at hi'
        obtain rfl : i = 3 * k + 2 := by omega
        rw [hexLine_left h (by omega)]
        exact (getElem?_hexGroup hb).2 (by rw [List.length_take]; omega)
      · obtain rfl : k = 7 := by omega
        exact hexLine_middle h (by omega) (by rw [hright 0 (by omega)] at hi'; omega)
    · rw [hright m hlt] at hi
      rw [Nat.add_assoc, hright (m + 1) (by omega)] at hi'
      obtain rfl : i = 25 + (3 * m + 2) := by omega
      rw [hexLine_right h]
      exact (getElem?_hexGroup hb).2 (by rw [List.length_drop]; omega)
  · have hdrop : row.drop 8 ≠ [] := by
      rw [← List.length_pos_iff, List.length_drop]
      omega
    rw [hexLine, if_neg (by omega), List.length_append, List.length_cons, List.length_cons,
      length_firstGroup h, length_hexGroup hdrop, List.length_drop,
      show row.length - 1 = 8 + (row.length - 8 - 1) by omega, hright _ (by omega)]
    omega

theorem shows_hexLine {row : Bytes} (hne : row ≠ []) (hle : row.length ≤ 16) :
    Shows (hexLine row) row := by
  rcases Nat.lt_or_ge 8 row.length with hlong | hshort
  · exact shows_hexLine_long hlong hle
  · exact shows_hexLine_short hne hshort

/-- What a line shows ends in a digit. -/
theorem Shows.getLast?_ne {line : List Char} {row : Bytes} (h : Shows line row) (hne : row ≠ []) :
    line.getLast? ≠ some ' ' := by
  have hpos := List.length_pos_iff.mpr hne
  obtain ⟨b, hlast⟩ : ∃ b, row[row.length - 1]? = some b :=
    ⟨_, List.getElem?_eq_getElem (by omega)⟩
  have hdigit : ∀ n < 16, Nat.digitChar n ≠ ' ' := by decide
  rw [List.getLast?_eq_getElem?, h.length, show byteColumn (row.length - 1) + 2 - 1 =
    byteColumn (row.length - 1) + 1 by omega, (h.digits _ _ hlast).2]
  exact fun heq => hdigit _ (Nat.mod_lt _ (by decide)) (Option.some.inj heq)

/-! ### The lines of a dump -/

theorem hexDump_of_ne_nil {bytes : Bytes} (h : bytes ≠ []) :
    hexDump bytes = String.ofList (hexLine (bytes.take 16)) :: hexDump (bytes.drop 16) := by
  obtain ⟨b, rest, rfl⟩ := List.exists_cons_of_ne_nil h
  rw [hexDump]
  rfl

/-- A dump has one line for every sixteen bytes that are begun. -/
theorem length_hexDump (bytes : Bytes) : (hexDump bytes).length = (bytes.length + 15) / 16 := by
  induction hlen : bytes.length using Nat.strongRecOn generalizing bytes with
  | ind n ih =>
    subst hlen
    by_cases h : bytes = []
    · subst h
      simp [hexDump]
    · have hpos := List.length_pos_iff.mpr h
      have hdrop : (bytes.drop 16).length = bytes.length - 16 := List.length_drop
      rw [hexDump_of_ne_nil h, List.length_cons, ih _ (by omega) _ rfl, hdrop]
      omega

theorem getElem?_hexDump {bytes : Bytes} {i : Nat} (h : 16 * i < bytes.length) :
    (hexDump bytes)[i]? = some (String.ofList (hexLine ((bytes.drop (16 * i)).take 16))) := by
  have hne : bytes ≠ [] := by
    rintro rfl
    exact absurd h (Nat.not_lt_zero _)
  rw [hexDump_of_ne_nil hne]
  induction i generalizing bytes with
  | zero => rfl
  | succ i ih =>
    have hdrop : 16 * i < (bytes.drop 16).length := by
      rw [List.length_drop]
      omega
    have hne' : bytes.drop 16 ≠ [] := by
      rw [← List.length_pos_iff]
      omega
    rw [List.getElem?_cons_succ, hexDump_of_ne_nil hne', ih hdrop hne', List.drop_drop,
      Nat.mul_add, Nat.add_comm (16 * i)]

/-! ### Reading a dump -/

/-- The byte that two digits denote. -/
def readByte? : List Char → Option UInt8
  | [high, low] => do
    let high ← (List.range 16).find? (·.digitChar = high)
    let low ← (List.range 16).find? (·.digitChar = low)
    return (16 * high + low).toUInt8
  | _ => none

/-- The groups of characters between the spaces of a line. -/
def groups (line : List Char) : List (List Char) := (split ' ' line).filter (!·.isEmpty)

/-- The bytes that the groups of all lines denote, in order. -/
def readDump? (lines : List String) : Option Bytes :=
  (lines.flatMap fun line => groups line.toList).mapM readByte?

theorem readByte?_hexadecimal (b : UInt8) : readByte? (hexadecimal 2 b.toNat) = some b := by
  have hall : ∀ n < 256, readByte? (hexadecimal 2 n) = some n.toUInt8 := by
    decide +kernel
  rw [hall b.toNat b.toNat_lt]
  simp

theorem space_not_mem_hexadecimal (b : UInt8) : ' ' ∉ hexadecimal 2 b.toNat := by
  have hall : ∀ n < 256, ' ' ∉ hexadecimal 2 n := by
    decide +kernel
  exact hall b.toNat b.toNat_lt

/-- A group of bytes comes apart into the digits of each, if those of its last byte end at what
stands behind it. -/
theorem split_hexGroup_append {row : Bytes} (hne : row ≠ []) {behind : List Char}
    {pieces : List (List Char)}
    (h : ∀ b : UInt8, split ' ' (hexadecimal 2 b.toNat ++ behind) =
      hexadecimal 2 b.toNat :: pieces) :
    split ' ' (hexGroup row ++ behind) = row.map (fun b => hexadecimal 2 b.toNat) ++ pieces := by
  induction row with
  | nil => exact absurd rfl hne
  | cons b rest ih =>
    by_cases hrest : rest = []
    · subst hrest
      rw [hexGroup_singleton, h]
      rfl
    · rw [hexGroup_cons b hrest, List.append_assoc, List.cons_append,
        split_append _ _ _ (space_not_mem_hexadecimal b), ih hrest]
      rfl

theorem split_hexGroup {row : Bytes} (h : row ≠ []) :
    split ' ' (hexGroup row) = row.map fun b => hexadecimal 2 b.toNat := by
  have halone : ∀ b : UInt8,
      split ' ' (hexadecimal 2 b.toNat ++ []) = [hexadecimal 2 b.toNat] := by
    intro b
    rw [List.append_nil, split_of_not_mem _ _ (space_not_mem_hexadecimal b)]
  have hsplit := split_hexGroup_append h halone
  rwa [List.append_nil, List.append_nil] at hsplit

/-- The groups of a line are the digits of its bytes. -/
theorem groups_hexLine {row : Bytes} (hne : row ≠ []) :
    groups (hexLine row) = row.map fun b => hexadecimal 2 b.toNat := by
  have hkeep : ∀ bytes : Bytes, (bytes.map fun b => hexadecimal 2 b.toNat).filter (!·.isEmpty) =
      bytes.map fun b => hexadecimal 2 b.toNat := by
    intro bytes
    refine List.filter_eq_self.mpr fun digits hdigits => ?_
    obtain ⟨b, -, rfl⟩ := List.mem_map.mp hdigits
    rw [hexadecimal_byte]
    rfl
  unfold hexLine groups
  split
  · rw [split_hexGroup hne, hkeep]
  · rename_i hlong
    have htake : row.take 8 ≠ [] := by
      rw [← List.length_pos_iff, List.length_take]
      omega
    have hdrop : row.drop 8 ≠ [] := by
      rw [← List.length_pos_iff, List.length_drop]
      omega
    -- Between the two spaces in the middle stands an empty piece.
    rw [split_hexGroup_append htake fun b => split_append _ _ _ (space_not_mem_hexadecimal b),
      split, if_pos rfl, split_hexGroup hdrop, List.filter_append,
      List.filter_cons_of_neg (by simp), hkeep, hkeep, ← List.map_append, List.take_append_drop]

/-- The groups of a dump are the digits of all bytes, in order. -/
theorem groups_hexDump (bytes : Bytes) :
    ((hexDump bytes).flatMap fun line => groups line.toList) =
      bytes.map fun b => hexadecimal 2 b.toNat := by
  induction hlen : bytes.length using Nat.strongRecOn generalizing bytes with
  | ind n ih =>
    subst hlen
    by_cases h : bytes = []
    · subst h
      simp [hexDump]
    · have hpos := List.length_pos_iff.mpr h
      have hdrop : (bytes.drop 16).length < bytes.length := by
        rw [List.length_drop]
        omega
      have htake : bytes.take 16 ≠ [] := by
        rw [← List.length_pos_iff, List.length_take]
        omega
      rw [hexDump_of_ne_nil h, List.flatMap_cons, ih _ hdrop _ rfl, String.toList_ofList,
        groups_hexLine htake, ← List.map_append, List.take_append_drop]

theorem readDump?_hexDump (bytes : Bytes) : readDump? (hexDump bytes) = some bytes := by
  have hread : ∀ bytes : Bytes,
      (bytes.map fun b => hexadecimal 2 b.toNat).mapM readByte? = some bytes := by
    intro bytes
    induction bytes with
    | nil => rfl
    | cons b bytes ih => simp [List.mapM_cons, readByte?_hexadecimal, ih]
  rw [readDump?, groups_hexDump, hread]

/-- **A hex dump is read back.** It has one line for every sixteen bytes that are begun. Line by
line it shows sixteen bytes, in two groups of eight, and at the end the bytes that remain, of which
there is at least one, in the same columns; no line ends in a space. Reading the groups of two
digits of all lines in order gives the bytes again, so no other bytes have this dump. -/
theorem shows_hexDump (bytes : Bytes) :
    (hexDump bytes).length = (bytes.length + 15) / 16 ∧
    (∀ i line, (hexDump bytes)[i]? = some line →
      ∃ row, row = (bytes.drop (16 * i)).take 16 ∧ Shows line.toList row ∧
        (i + 1 < (hexDump bytes).length → row.length = 16) ∧
        (i + 1 = (hexDump bytes).length → row = bytes.drop (16 * i)) ∧
        1 ≤ row.length ∧ row.length ≤ 16 ∧ line.toList.getLast? ≠ some ' ') ∧
    readDump? (hexDump bytes) = some bytes ∧
    ∀ other, hexDump other = hexDump bytes → other = bytes := by
  refine ⟨length_hexDump bytes, fun i line hline => ?_, readDump?_hexDump bytes,
    fun other h => ?_⟩
  · obtain ⟨hi, -⟩ := List.getElem?_eq_some_iff.mp hline
    rw [length_hexDump] at hi ⊢
    rw [getElem?_hexDump (by omega)] at hline
    cases hline
    have hlength : ((bytes.drop (16 * i)).take 16).length = min 16 (bytes.length - 16 * i) := by
      rw [List.length_take, List.length_drop]
    have hne : (bytes.drop (16 * i)).take 16 ≠ [] := by
      rw [← List.length_pos_iff]
      omega
    have hshows := shows_hexLine hne (by omega)
    rw [String.toList_ofList]
    refine ⟨_, rfl, hshows, fun h => by omega, fun h => ?_, by omega, by omega,
      hshows.getLast?_ne hne⟩
    exact List.take_of_length_le (by rw [List.length_drop]; omega)
  · have hread := readDump?_hexDump other
    rw [h, readDump?_hexDump] at hread
    exact (Option.some.inj hread).symm

end TrafficMonitor.Report
