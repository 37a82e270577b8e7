import Dimming.Text.CodePoint

/-!
References to variables inside a value: a name between `${` and `}`, perhaps with `:-` and a
fallback behind it. The fallback, or nothing, stands in for a variable that is not there.
-/

set_option autoImplicit false

namespace Dimming

/-- A reference; the length is that of its text. -/
structure Reference where
  name : Text
  fallback : Text
  length : Nat
deriving DecidableEq

namespace Reference

/-- Reads what stands behind the opening of a reference: the name ends at a colon or at the
closing brace, the fallback at the closing brace. -/
def readBody? (body : Text) : Option Reference :=
  let name := body.takeWhile fun point => !point.is '}' && !point.is ':'
  match body.drop name.length with
  | [] => none
  | mark :: rest =>
      if mark = '}' then some ⟨name, [], name.length + 3⟩
      else
        match rest with
        | [] => none
        | dash :: rest =>
            let fallback := rest.takeWhile (!CodePoint.is '}' ·)
            if dash = '-' ∧ fallback.length < rest.length then
              some ⟨name, fallback, name.length + fallback.length + 5⟩
            else none

def read? : Text → Option Reference
  | sign :: brace :: body => if sign = '$' ∧ brace = '{' then readBody? body else none
  | _ => none

inductive Piece where
  | plain (point : CodePoint)
  | reference (reference : Reference)

def piecesAfter : Nat → Text → List Piece
  | _, [] => []
  | skipped + 1, _ :: rest => piecesAfter skipped rest
  | 0, point :: rest =>
      match read? (point :: rest) with
      | some reference => .reference reference :: piecesAfter (reference.length - 1) rest
      | none => .plain point :: piecesAfter 0 rest

def pieces (text : Text) : List Piece := piecesAfter 0 text

/-- Puts the values of variables in the places of the references to them. -/
def resolve (lookUp : Text → Option Text) (text : Text) : Text :=
  (pieces text).flatMap fun
    | .plain point => [point]
    | .reference reference => (lookUp reference.name).getD reference.fallback

def names (text : Text) : List Text :=
  (pieces text).filterMap fun
    | .plain _ => none
    | .reference reference => some reference.name

end Reference

end Dimming
