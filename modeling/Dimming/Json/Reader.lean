import Dimming.Json.Basic
import Dimming.Json.ReadFault
import Dimming.Mapping

/-!
Reading of a value from its text. Accepted are the standard forms and the three names for
numbers that have no digits; refused are a byte order mark, control characters inside
strings, superfluous leading zeros and anything behind the value. A number without a point
and without an exponent is a whole number. Of a repeated member the last value counts, at
the place of the first. Two escapes that form a surrogate pair are one code point. Arrays
and objects are read however deeply they are nested; the limit that there is for this in fact
is taken not to be reached.
-/

set_option autoImplicit false

namespace Dimming

namespace Json

def skipGaps (text : Text) : Text := text.dropWhile isGap

def after? : Text → Text → Option Text
  | [], text => some text
  | _ :: _, [] => none
  | expected :: opening, point :: rest => if point = expected then after? opening rest else none

def shortEscape? (mark : CodePoint) : Option CodePoint :=
  if mark = '"' then some '"'
  else if mark = '\\' then some '\\'
  else if mark = '/' then some '/'
  else if mark = 'b' then some '\x08'
  else if mark = 'f' then some '\x0c'
  else if mark = 'n' then some '\n'
  else if mark = 'r' then some '\r'
  else if mark = 't' then some '\t'
  else none

def longEscape? (first second third fourth : CodePoint) : Option CodePoint := do
  let first ← first.hexValue?
  let second ← second.hexValue?
  let third ← third.hexValue?
  let fourth ← fourth.hexValue?
  CodePoint.ofNat? (((first * 16 + second) * 16 + third) * 16 + fourth)

def failAt {Value : Type} (flaw : Flaw) (left : Text) : Except ReadFault Value :=
  .error (.flawed flaw left.length)

/-- Reads a string behind its opening quote, up to and including the closing one. Escaped
surrogates are still apart. The text from the opening quote on is where a string begins
that is not closed. -/
def readUnits (opening : Text) : Text → Except ReadFault (Text × Text)
  | [] => failAt .openString opening
  | point :: rest =>
      if point = '"' then .ok ([], rest)
      else if point = '\\' then
        match rest with
        | [] => failAt .openString opening
        | mark :: behind =>
            if mark = 'u' then
              match behind with
              | first :: second :: third :: fourth :: left =>
                  match left, longEscape? first second third fourth with
                  | [], _ => failAt .badLongEscape rest
                  | _, none => failAt .badLongEscape rest
                  | left, some unit => do
                      let (units, left) ← readUnits opening left
                      return (unit :: units, left)
              | _ => failAt .badLongEscape rest
            else
              match shortEscape? mark with
              | none => failAt .badEscape (point :: rest)
              | some unit => do
                  let (units, left) ← readUnits opening behind
                  return (unit :: units, left)
      else if point.value < 0x20 then failAt .control (point :: rest)
      else do
        let (units, left) ← readUnits opening rest
        return (point :: units, left)

def joinPairs : Text → Text
  | [] => []
  | [point] => [point]
  | high :: low :: rest =>
      match CodePoint.joinSurrogates? high low with
      | some joined => joined :: joinPairs rest
      | none => high :: joinPairs (low :: rest)

def readString (opening : Text) : Except ReadFault (Text × Text) := do
  let (units, rest) ← readUnits opening (opening.drop 1)
  return (joinPairs units, rest)

def readFraction (text : Text) : Option (List Nat × Text) :=
  match text with
  | [] => none
  | point :: rest =>
      if point = '.' then
        match Decimal.readDigits CodePoint.asciiDecimalValue? rest with
        | ([], _) => none
        | (digits, rest) => some (digits, rest)
      else none

/-- Reads the digits of a whole number; a nought stands alone. -/
def readWhole (text : Text) : List Nat × Text :=
  match Decimal.readDigits CodePoint.asciiDecimalValue? text with
  | (0 :: _ :: _, _) => ([0], text.drop 1)
  | result => result

def readMinus (text : Text) : Bool × Text :=
  match after? "-" text with
  | some rest => (true, rest)
  | none => (false, text)

/-- Reads a number. A whole one may have no more digits than a limit allows. -/
def readNumber (limit : Option Nat) (text : Text) : Except ReadFault (Number × Text) :=
  let (negative, unsigned) := readMinus text
  match readWhole unsigned with
  | ([], _) => failAt .noValue text
  | (whole, afterWhole) =>
      let fraction := readFraction afterWhole
      let afterFraction := match fraction with
        | some (_, rest) => rest
        | none => afterWhole
      let exponent := Decimal.readExponent CodePoint.asciiDecimalValue? afterFraction
      match fraction, exponent with
      | none, none =>
          let value : Int := Text.digitsToNat 10 whole
          let number : Number := .int (if negative then -value else value)
          match limit with
          | none => .ok (number, afterWhole)
          | some most =>
              if most < whole.length then .error (.tooManyDigits whole.length most)
              else .ok (number, afterWhole)
      | _, _ =>
          let digits := match fraction with
            | some (digits, _) => digits
            | none => []
          let (power, rest) := exponent.getD (0, afterFraction)
          .ok (.double ((Decimal.ofDigits whole digits power).toDouble negative), rest)

def names : List (Text × Json) :=
  [("null", .null), ("true", .bool true), ("false", .bool false),
    ("NaN", .number (.double .nan)), ("Infinity", .number (.double (.infinity false))),
    ("-Infinity", .number (.double (.infinity true)))]

def readName (text : Text) : Option (Json × Text) :=
  names.findSome? fun entry => (after? entry.1 text).map fun rest => (entry.2, rest)

mutual

/-- Reads a value without blanks in front of it. The fuel exceeds twice the length of the
text, since an opening bracket needs some for the value and some for its first item. -/
def readValue (limit : Option Nat) : Nat → Text → Except ReadFault (Json × Text)
  | 0, text => failAt .noValue text
  | _ + 1, [] => failAt .noValue []
  | fuel + 1, point :: rest =>
      if point = '"' then do
        let (value, rest) ← readString (point :: rest)
        return (.string value, rest)
      else if point = '[' then
        match after? "]" (skipGaps rest) with
        | some rest => .ok (.array [], rest)
        | none => do
            let (items, rest) ← readItems limit fuel (skipGaps rest)
            return (.array items, rest)
      else if point = '{' then
        match after? "\x7d" (skipGaps rest) with
        | some rest => .ok (.object [], rest)
        | none => do
            let (members, rest) ← readMembers limit fuel (skipGaps rest)
            return (.object (Mapping.ofEntries members), rest)
      else
        match readName (point :: rest) with
        | some result => .ok result
        | none => do
            let (value, rest) ← readNumber limit (point :: rest)
            return (.number value, rest)

/-- Reads the items of an array, of which there is at least one, and its closing bracket. -/
def readItems (limit : Option Nat) : Nat → Text → Except ReadFault (List Json × Text)
  | 0, text => failAt .noValue text
  | fuel + 1, text => do
      let (item, rest) ← readValue limit fuel text
      let rest := skipGaps rest
      match after? "]" rest, after? "," rest with
      | some rest, _ => return ([item], rest)
      | none, some rest => do
          let (items, rest) ← readItems limit fuel (skipGaps rest)
          return (item :: items, rest)
      | none, none => failAt .noComma rest

def readMembers (limit : Option Nat) : Nat → Text → Except ReadFault (List (Text × Json) × Text)
  | 0, text => failAt .noName text
  | fuel + 1, text => do
      if (after? "\"" text).isNone then failAt .noName text
      else
        let (key, rest) ← readString text
        let rest := skipGaps rest
        match after? ":" rest with
        | none => failAt .noColon rest
        | some rest => do
            let (value, rest) ← readValue limit fuel (skipGaps rest)
            let rest := skipGaps rest
            match after? "\x7d" rest, after? "," rest with
            | some rest, _ => return ([(key, value)], rest)
            | none, some rest => do
                let (members, rest) ← readMembers limit fuel (skipGaps rest)
                return ((key, value) :: members, rest)
            | none, none => failAt .noComma rest

end

/-- Reads a whole text as one value with blanks around it. -/
def read (limit : Option Nat) (text : Text) : Except ReadFault Json := do
  if (after? "\ufeff" text).isSome then failAt .orderMark text
  else
    let (value, rest) ← readValue limit (2 * text.length + 2) (skipGaps text)
    let rest := skipGaps rest
    if rest.isEmpty then return value else failAt .moreData rest

def read? (text : Text) : Option Json := (read none text).toOption

end Json

end Dimming
