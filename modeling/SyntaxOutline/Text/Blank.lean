/-!
# Blanks

A **blank** is a character with the property of being white space: the controls that move on to a
new place or line, and the spaces and separators of every width. A text is trimmed by taking the
blanks off both its ends.
-/

namespace SyntaxOutline

/-- Whether a character is white space. -/
def isBlank (c : Char) : Bool :=
  (0x09 ≤ c.toNat && c.toNat ≤ 0x0D) || (0x2000 ≤ c.toNat && c.toNat ≤ 0x200A) ||
    [0x20, 0x85, 0xA0, 0x1680, 0x2028, 0x2029, 0x202F, 0x205F, 0x3000].contains c.toNat

/-- **A text without the blanks at its ends.** -/
def trimBlanks (text : String) : String :=
  String.ofList ((text.toList.dropWhile isBlank).reverse.dropWhile isBlank).reverse

/-- The blanks of ASCII are blanks. -/
theorem isBlank_of_isWhitespace {c : Char} (h : c.isWhitespace = true) : isBlank c = true := by
  simp only [Char.isWhitespace, Bool.or_eq_true, decide_eq_true_eq] at h
  rcases h with ((rfl | rfl) | rfl) | rfl <;> decide

@[simp] theorem trimBlanks_empty : trimBlanks "" = "" := by
  simp [trimBlanks]

end SyntaxOutline
