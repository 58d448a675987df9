/-!
# Blank characters

Two classes of blank characters: the Unicode property of white space, and that property with the four
information separators. Texts are stripped of one class or the other; `strip_eq_self` says that a text
with no blank at its ends is left alone.
-/

namespace InfluxKeeper.Text

/-- Whether a character has the Unicode property of white space. -/
def isWhiteSpace (c : Char) : Bool :=
  let n := c.toNat
  (0x9 ≤ n && n ≤ 0xD) || n == 0x20 || n == 0x85 || n == 0xA0 || n == 0x1680 ||
    (0x2000 ≤ n && n ≤ 0x200A) || n == 0x2028 || n == 0x2029 || n == 0x202F || n == 0x205F ||
    n == 0x3000

/-- Whether a character is white space or one of the four information separators. -/
def isBlank (c : Char) : Bool := isWhiteSpace c || (0x1C ≤ c.toNat && c.toNat ≤ 0x1F)

/-- A text without the characters of a class at its end. -/
def stripEnd (blank : Char → Bool) (s : List Char) : List Char :=
  (s.reverse.dropWhile blank).reverse

/-- A text without the characters of a class at its two ends. -/
def strip (blank : Char → Bool) (s : List Char) : List Char := stripEnd blank (s.dropWhile blank)

@[simp] theorem stripEnd_nil (blank : Char → Bool) : stripEnd blank [] = [] := rfl

/-- A text whose last character is no blank keeps its end. -/
theorem stripEnd_append_singleton {blank : Char → Bool} {c : Char} (h : blank c = false)
    (s : List Char) : stripEnd blank (s ++ [c]) = s ++ [c] := by
  simp [stripEnd, h]

/-- A text with no blank at either end is left alone. -/
theorem strip_eq_self {blank : Char → Bool} {s : List Char} (first : ∀ c ∈ s.head?, blank c = false)
    (last : ∀ c ∈ s.getLast?, blank c = false) : strip blank s = s := by
  have front : s.dropWhile blank = s := by
    cases s with
    | nil => rfl
    | cons c r => simp [first c (by simp)]
  rcases List.eq_nil_or_concat s with rfl | ⟨r, c, rfl⟩
  · rfl
  · rw [strip, front, List.concat_eq_append]
    exact stripEnd_append_singleton (last c (by simp)) r

end InfluxKeeper.Text
