import Dimming.Text.CodePoint

/-!
Line breaks of files. A line feed, a carriage return and the two together all end a line.
-/

set_option autoImplicit false

namespace Dimming

namespace Text

def unifyBreaks : Text → Text
  | [] => []
  | point :: rest =>
      if point = '\r' then
        match rest with
        | [] => ['\n']
        | next :: behind =>
            if next = '\n' then next :: unifyBreaks behind
            else '\n' :: unifyBreaks (next :: behind)
      else point :: unifyBreaks rest

end Text

end Dimming
