import Dimming.Number.Decimal

/-!
Whole numbers of a configuration. A number is plain if it is digits without superfluous
noughts, perhaps with a minus in front. Any other is tidied first: blanks may stand around it,
a sign in front of it, single underscores between its digits and a fraction of noughts behind
it. Noughts in front count for nothing, and neither do underscores among them; behind them a
minus may stand if none stood in front. A number has at most 4300 digits, and only a text that
begins with more of them as a plain number does is refused for its size.
-/

set_option autoImplicit false

namespace Dimming

namespace WholeNumber

/-- Why a text is no number here. -/
inductive Problem where
  | malformed
  | tooLong
deriving DecidableEq

namespace Problem

def kind : Problem → Text
  | .malformed => "int_parsing"
  | .tooLong => "int_parsing_size"

def message : Problem → Text
  | .malformed => "Input should be a valid integer, unable to parse string as an integer"
  | .tooLong => "Unable to parse input string as an integer, exceeded maximum size"

end Problem

def digitLimit : Nat := 4300

/-- Drops the noughts in front of another digit or a minus, and underscores among them. One
code point stays in front of a point or at the end; it is a nought if the number is well
formed. -/
def dropNoughts (last : CodePoint) : Text → Option Text
  | [] => some [last]
  | point :: rest =>
      if point = '0' ∨ point = '_' then dropNoughts point rest
      else if point = '.' then some (last :: point :: rest)
      else if point.isAsciiDigit || point = '-' then some (point :: rest)
      else none

/-- What counts of an unsigned number, which has to begin with a digit. -/
def significant : Text → Option Text
  | [] => none
  | first :: rest =>
      if first = '0' then dropNoughts first rest
      else if first.isAsciiDigit then some (first :: rest)
      else none

/-- Drops a point with noughts behind it; anything else behind a point stays. -/
def dropFraction (text : Text) : Text :=
  let whole := text.takeWhile (!CodePoint.is '.' ·)
  match text.drop whole.length with
  | [] => text
  | _ :: noughts =>
      if !noughts.isEmpty && noughts.all (CodePoint.is '0') then whole else text

/-- Drops underscores, each of which has to stand between two other code points. -/
def dropUnderscores : Text → Option Text
  | [] => some []
  | [point] => if point = '_' then none else some [point]
  | point :: next :: rest =>
      if point = '_' then none
      else if next = '_' then (dropUnderscores rest).bind fun others =>
        if others.isEmpty then none else some (point :: others)
      else (dropUnderscores (next :: rest)).map (point :: ·)

def readMinus : Text → Bool × Text
  | [] => (false, [])
  | point :: rest => if point = '-' then (true, rest) else (false, point :: rest)

/-- Reads a plain number: digits without superfluous noughts, perhaps with a minus in front.
What stands behind too many digits does not matter. -/
def readPlain (plain : Text) : Except Problem Int :=
  let (negative, unsigned) := readMinus plain
  match Decimal.readDigits CodePoint.asciiDecimalValue? unsigned with
  | ([], _) => .error .malformed
  | (0 :: _ :: _, _) => .error .malformed
  | (digits, rest) =>
      let value : Int := Text.digitsToNat 10 digits
      if digitLimit < digits.length then .error .tooLong
      else if !rest.isEmpty then .error .malformed
      else .ok (if negative then -value else value)

def tidy (text : Text) : Option Text :=
  let (negative, unsigned) := Decimal.readSign text.trimSpace
  ((significant unsigned).bind fun text => dropUnderscores (dropFraction text)).map fun plain =>
    if negative then '-' :: plain else plain

/-- Reads a number that is not plain. Whatever is wrong with it, it counts as malformed. -/
def readTidied (text : Text) : Except Problem Int :=
  match tidy text with
  | none => .error .malformed
  | some plain =>
      match readPlain plain with
      | .ok value => .ok value
      | .error _ => .error .malformed

def read (text : Text) : Except Problem Int :=
  match readPlain text with
  | .error .malformed => readTidied text
  | result => result

end WholeNumber

end Dimming
