/-!
# Blanks, trimming and words

Blanks are the characters with the White_Space property of Unicode. Trimming drops them at both
ends; the words of a text are its maximal runs of other characters.

Results:
* `trim_of_no_blank`: a text without blanks is its own trimmed form.
-/

namespace Worksheet.Text

/-- Whether a character has the White_Space property. -/
def isBlank (c : Char) : Bool :=
  let n := c.toNat
  (9 ≤ n && n ≤ 13) || n == 0x20 || n == 0x85 || n == 0xA0 || n == 0x1680 ||
    (0x2000 ≤ n && n ≤ 0x200A) || n == 0x2028 || n == 0x2029 || n == 0x202F || n == 0x205F ||
    n == 0x3000

/-- The text without the blanks at its start. -/
def trimStart (s : List Char) : List Char :=
  s.dropWhile isBlank

/-- The text without the blanks at its end. -/
def trimEnd (s : List Char) : List Char :=
  (trimStart s.reverse).reverse

/-- The text without the blanks at both ends. -/
def trim (s : List Char) : List Char :=
  trimEnd (trimStart s)

theorem trimStart_of_no_blank {s : List Char} (h : ∀ c ∈ s, isBlank c = false) :
    trimStart s = s := by
  cases s with
  | nil => rfl
  | cons c rest => simp [trimStart, h c (List.mem_cons_self ..)]

theorem trim_of_no_blank {s : List Char} (h : ∀ c ∈ s, isBlank c = false) : trim s = s := by
  have reversed : ∀ c ∈ s.reverse, isBlank c = false := fun c m => h c (List.mem_reverse.mp m)
  simp [trim, trimEnd, trimStart_of_no_blank h, trimStart_of_no_blank reversed]

/-! ## Words -/

/-- Whether a text ends here or goes on with a blank. -/
def breaks : List Char → Bool
  | [] => true
  | c :: _ => isBlank c

/-- Puts a character in front of the first word. -/
def extendFirst (c : Char) : List (List Char) → List (List Char)
  | [] => [[c]]
  | word :: more => (c :: word) :: more

/-- The maximal runs of characters that are not blank, in order. -/
def words : List Char → List (List Char)
  | [] => []
  | c :: rest =>
    if isBlank c then words rest
    else if breaks rest then [c] :: words rest
    else extendFirst c (words rest)

/-- The words of a text, parted by single spaces. -/
def squeeze (s : List Char) : List Char :=
  [' '].intercalate (words s)

end Worksheet.Text
