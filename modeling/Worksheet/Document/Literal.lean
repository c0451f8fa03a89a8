import Worksheet.Document.Basic
import Worksheet.Number.Reader

/-!
# Number literals of documents

A literal has an optional minus, whole digits without a needless zero, and optionally a fraction
and a power of ten. Literals without the latter two are whole numbers as far as 64 bits hold them.
Any other becomes a double by scaling its first digits, as many as fit into 64 bits, by a power of
ten; each step of the scaling rounds. A magnitude beyond the doubles is refused.
-/

namespace Worksheet.Document

/-- A number literal in its parts. -/
structure Literal where
  negative : Bool
  whole : List Char
  fraction : Option (List Char)
  power : Option Int
deriving DecidableEq, Repr

namespace Literal

/-! ## Reading the parts -/

/-- A part that starts with a mark and goes on with digits, and what follows it. -/
def splitDigits (s : List Char) : Option (List Char × List Char) :=
  let digits := s.takeWhile Char.isDigit
  if digits = [] then none else some (digits, s.dropWhile Char.isDigit)

/-- The fraction at the head of a text, and what follows it. -/
def splitFraction : List Char → Option (Option (List Char) × List Char)
  | '.' :: rest => (splitDigits rest).map fun (digits, rest) => (some digits, rest)
  | s => some (none, s)

/-- The power of ten at the head of a text, and what follows it. -/
def splitPower : List Char → Option (Option Int × List Char)
  | mark :: rest =>
    if mark = 'e' ∨ mark = 'E' then
      let (negative, unsigned) := Number.splitSign rest
      (splitDigits unsigned).map fun (digits, rest) =>
        let power : Int := Number.digitsValue digits
        (some (if negative then -power else power), rest)
    else some (none, mark :: rest)
  | [] => some (none, [])

/-- Whether whole digits have no needless zero at their start. -/
def isTidy : List Char → Bool
  | '0' :: _ :: _ => false
  | _ => true

/-- The literal at the head of a text, and what follows it. -/
def split? (s : List Char) : Option (Literal × List Char) := do
  let (negative, unsigned) := match s with
    | '-' :: rest => (true, rest)
    | s => (false, s)
  let (whole, rest) ← splitDigits unsigned
  let (fraction, rest) ← splitFraction rest
  let (power, rest) ← splitPower rest
  if isTidy whole then some (⟨negative, whole, fraction, power⟩, rest) else none

/-! ## Values -/

/-- The largest number of 64 bits. -/
def maxWord : Nat := 0xFFFFFFFFFFFFFFFF

/-- Appends digits to a number as long as it fits into 64 bits, and counts those left over. -/
def absorb (value : Nat) : List Char → Nat × Nat
  | [] => (value, 0)
  | d :: rest =>
    let next := 10 * value + (d.toNat - '0'.toNat)
    if next ≤ maxWord then absorb next rest else (value, rest.length + 1)

/-- A number scaled by a power of ten: none if it leaves the doubles. Powers below `10 ^ -308` are
taken in steps. -/
def scale (x : Float) (power : Int) : Option Float :=
  if power.natAbs ≤ 308 then
    let unit := (Number.Decimal.mk 1 power.natAbs).toFloat
    if power < 0 then some (x / unit)
    else if (x * unit).isInf then none
    else some (x * unit)
  else if x == 0 then some x
  else if 0 < power then none
  else scale (x / (Number.Decimal.mk 1 308).toFloat) (power + 308)
termination_by power.natAbs
decreasing_by omega

/-- The double of a literal without its sign. -/
def magnitude? (l : Literal) : Option Float :=
  let (leading, skipped) := absorb 0 l.whole
  let fraction := l.fraction.getD []
  let (digits, dropped) := absorb leading fraction
  scale (Float.ofNat digits) (skipped - (fraction.length - dropped : Nat) + l.power.getD 0)

/-- The whole number of a literal that is written as one and fits into 64 bits. -/
def whole? (l : Literal) : Option Int :=
  let n := Number.digitsValue l.whole
  if l.fraction.isSome || l.power.isSome || maxWord < n then none
  else if !l.negative then some n
  else if 0 < n ∧ n ≤ 0x8000000000000000 then some (-n)
  else none

/-- The number that a literal stands for. -/
def value? (l : Literal) : Option Document :=
  match l.whole? with
  | some n => some (.whole n)
  | none => l.magnitude?.map fun x => .decimal (if l.negative then -x else x)

end Literal

end Worksheet.Document
