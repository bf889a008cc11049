import TrafficMonitor.Text.Ranges

/-! White space: the controls U+0009..000D and U+001C..001F, the next-line control, and
the separators of Unicode. The zero-width space U+200B and the byte order mark U+FEFF
are not blank. -/
namespace TrafficMonitor.Text

/-- All white space, in order of code point. -/
def blanks : Ranges :=
  [(0x9, 0xd), (0x1c, 0x20), (0x85, 0x85), (0xa0, 0xa0), (0x1680, 0x1680), (0x2000, 0x200a),
   (0x2028, 0x2029), (0x202f, 0x202f), (0x205f, 0x205f), (0x3000, 0x3000)]

/-- Whether `c` separates tokens and is stripped from the ends of a text. -/
def isBlank (c : Char) : Bool := blanks.contains c

/-- The text without the white space at its end. -/
def trimEnd (cs : List Char) : List Char := (cs.reverse.dropWhile isBlank).reverse

theorem trimEnd_append (before cs : List Char) :
    trimEnd (before ++ cs) = if trimEnd cs = [] then trimEnd before else before ++ trimEnd cs := by
  simp only [trimEnd, List.reverse_append, List.dropWhile_append, List.isEmpty_iff,
    List.reverse_eq_nil_iff]
  split <;> simp

end TrafficMonitor.Text
