import Worksheet.Address.Error

/-!
# Column letters

Columns are numbered from one and written in bijective base 26: `A` is 1, `Z` is 26 and `AA` is
27. Letters are read in either case; columns end at the largest 32-bit number. Column zero has no
letters.

Results:
* `letters_succ`: the last letter and the letters before it.
* `valueOf_append`: the value of letters is read off from the left.
-/

namespace Worksheet.Column

/-- The largest number of a column or a row. -/
def maxIndex : Nat := 0xFFFFFFFF

/-! ## Writing -/

/-- The letters of a column. -/
def letters (n : Nat) : List Char :=
  if n = 0 then []
  else letters ((n - 1) / 26) ++ [Char.ofNat ('A'.toNat + (n - 1) % 26)]
termination_by n
decreasing_by omega

theorem letters_zero : letters 0 = [] := by
  rw [letters]; rfl

theorem letters_succ (n : Nat) :
    letters (n + 1) = letters (n / 26) ++ [Char.ofNat ('A'.toNat + n % 26)] := by
  rw [letters]; simp

/-! ## Reading -/

/-- The value of a letter: 1 for `A` and `a` up to 26. -/
def letterValue (c : Char) : Nat :=
  c.toUpper.toNat - 'A'.toNat + 1

/-- The value of letters in bijective base 26, `value` the value of those before them. -/
def valueOf (value : Nat) (s : List Char) : Nat :=
  s.foldl (fun v c => 26 * v + letterValue c) value

theorem valueOf_append (value : Nat) (s t : List Char) :
    valueOf value (s ++ t) = valueOf (valueOf value s) t := by
  simp [valueOf]

/-- Reads letters on from a value; `whole` are all the letters. -/
def readOn (whole : List Char) (value : Nat) : List Char → Except AddressError Nat
  | [] => .ok value
  | c :: rest =>
    if !c.isAlpha then .error (.badLetter c)
    else if maxIndex < 26 * value + letterValue c then
      .error (.columnTooLarge (String.ofList whole))
    else readOn whole (26 * value + letterValue c) rest

/-- The column that letters name. -/
def ofLetters (s : List Char) : Except AddressError Nat :=
  if s = [] then .error .noLetters else readOn s 0 s

end Worksheet.Column
