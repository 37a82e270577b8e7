import Dimming.Text.Numeral
import Dimming.Text.Printable

/-!
Quotation of a text for messages. The quotes are single unless the text holds a single
quote and no double one. Inside, the backslash, the quote in use and the three common
controls have short escapes; other hidden code points are written in hexadecimal with
two, four or eight digits, whichever is the first to hold them.
-/

set_option autoImplicit false

namespace Dimming

namespace Text

def quoteFor (text : Text) : CodePoint :=
  if text.contains (CodePoint.ofChar '\'') && !text.contains (CodePoint.ofChar '"') then '"'
  else '\''

def escapeHidden (point : CodePoint) : Text :=
  if point.value < 0x100 then ofString "\\x" ++ ofNatHex 2 point.value
  else if point.value < 0x10000 then ofString "\\u" ++ ofNatHex 4 point.value
  else ofString "\\U" ++ ofNatHex 8 point.value

def escapeQuoted (quote point : CodePoint) : Text :=
  if point = quote || point = '\\' then ['\\', point]
  else if point = '\n' then "\\n"
  else if point = '\r' then "\\r"
  else if point = '\t' then "\\t"
  else if point.isPrintable then [point]
  else escapeHidden point

def quoted (text : Text) : Text :=
  let quote := quoteFor text
  quote :: text.flatMap (escapeQuoted quote) ++ [quote]

end Text

end Dimming
