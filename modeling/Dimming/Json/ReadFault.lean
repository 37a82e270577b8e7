import Dimming.Text.Numeral

/-!
Why a text is no value of the data format. A flaw has a place in the text; it is told by
the line and the column, both counted from one, and by the offset, counted from nought.
-/

set_option autoImplicit false

namespace Dimming

namespace Json

inductive Flaw where
  | orderMark
  | noValue
  | noName
  | noColon
  | noComma
  | moreData
  | openString
  | control
  | badEscape
  | badLongEscape
deriving DecidableEq

namespace Flaw

def message : Flaw → Text
  | .orderMark => "Unexpected UTF-8 BOM (decode using utf-8-sig)"
  | .noValue => "Expecting value"
  | .noName => "Expecting property name enclosed in double quotes"
  | .noColon => "Expecting ':' delimiter"
  | .noComma => "Expecting ',' delimiter"
  | .moreData => "Extra data"
  | .openString => "Unterminated string starting at"
  | .control => "Invalid control character at"
  | .badEscape => "Invalid \\escape"
  | .badLongEscape => "Invalid \\uXXXX escape"

end Flaw

/-- The place of a flaw is given by the number of code points from there to the end. -/
inductive ReadFault where
  | flawed (flaw : Flaw) (behind : Nat)
  | tooManyDigits (digits limit : Nat)
deriving DecidableEq

namespace ReadFault

def placeText (text : Text) (offset : Nat) : Text :=
  let before := text.take offset
  let line := before.count (CodePoint.ofChar '\n') + 1
  let column := (before.reverse.takeWhile (!CodePoint.is '\n' ·)).length + 1
  "line " ++ Text.ofNat line ++ " column " ++ Text.ofNat column ++
    " (char " ++ Text.ofNat offset ++ ")"

def message (text : Text) : ReadFault → Text
  | .flawed flaw behind => flaw.message ++ ": " ++ placeText text (text.length - behind)
  | .tooManyDigits digits limit =>
      "Exceeds the limit (" ++ Text.ofNat limit ++
        " digits) for integer string conversion: value has " ++ Text.ofNat digits ++
        " digits; use sys.set_int_max_str_digits() to increase the limit"

end ReadFault

end Json

end Dimming
