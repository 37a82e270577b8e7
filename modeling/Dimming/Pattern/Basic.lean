import Dimming.Text.CodePoint

/-!
Patterns over text and the order in which their matches are preferred. `ends` lists every
offset at which a match that begins at a given offset can end, the preferred one first: a
repetition prefers more rounds to fewer and a choice its first branch. `run` looks for the
first of these ends that a continuation accepts and stops there; `run_eq_findSome?` says
that the two agree. A round of a repetition that would match nothing is never taken.
-/

set_option autoImplicit false

namespace Dimming

inductive Pattern where
  | empty
  | one (accepts : CodePoint → Bool)
  | sequence (first second : Pattern)
  | choice (first second : Pattern)
  | repeated (body : Pattern)
  | condition (holds : Option CodePoint → Option CodePoint → Bool)

namespace Pattern

def before? (text : Array CodePoint) : Nat → Option CodePoint
  | 0 => none
  | offset + 1 => text[offset]?

/-- Ends of any number of rounds, the most rounds first. The fuel bounds their number. -/
def endsOfRounds (body : Nat → List Nat) : Nat → Nat → List Nat
  | 0, offset => [offset]
  | fuel + 1, offset =>
      ((body offset).filter (offset < ·)).flatMap (endsOfRounds body fuel) ++ [offset]

/-- Every end of a match that begins at an offset, in order of preference. -/
def ends (text : Array CodePoint) : Pattern → Nat → List Nat
  | .empty, offset => [offset]
  | .one accepts, offset =>
      match text[offset]? with
      | some point => if accepts point then [offset + 1] else []
      | none => []
  | .sequence first second, offset => (ends text first offset).flatMap (ends text second)
  | .choice first second, offset => ends text first offset ++ ends text second offset
  | .repeated body, offset => endsOfRounds (ends text body) (text.size - offset) offset
  | .condition holds, offset =>
      if holds (before? text offset) text[offset]? then [offset] else []

/-- The first of two results that is there; the second is asked for only if needed. -/
def firstOf (first : Option Nat) (second : Unit → Option Nat) : Option Nat :=
  match first with
  | some result => some result
  | none => second ()

def runRounds (body : (Nat → Option Nat) → Nat → Option Nat) (next : Nat → Option Nat) :
    Nat → Nat → Option Nat
  | 0, offset => next offset
  | fuel + 1, offset =>
      firstOf
        (body (fun stop => if offset < stop then runRounds body next fuel stop else none) offset)
        fun _ => next offset

/-- Tries the ends of a match in order of preference until the continuation accepts one. -/
def run (text : Array CodePoint) : Pattern → (Nat → Option Nat) → Nat → Option Nat
  | .empty, next, offset => next offset
  | .one accepts, next, offset =>
      match text[offset]? with
      | some point => if accepts point then next (offset + 1) else none
      | none => none
  | .sequence first second, next, offset => run text first (run text second next) offset
  | .choice first second, next, offset =>
      firstOf (run text first next offset) fun _ => run text second next offset
  | .repeated body, next, offset => runRounds (run text body) next (text.size - offset) offset
  | .condition holds, next, offset =>
      if holds (before? text offset) text[offset]? then next offset else none

def endAt? (text : Array CodePoint) (pattern : Pattern) (offset : Nat) : Option Nat :=
  run text pattern some offset

theorem firstOf_eq_or (first : Option Nat) (second : Unit → Option Nat) :
    firstOf first second = first.or (second ()) := by
  cases first <;> rfl

theorem findSome?_filter (next : Nat → Option Nat) (keep : Nat → Bool) (offsets : List Nat) :
    (offsets.filter keep).findSome? next =
      offsets.findSome? fun stop => if keep stop then next stop else none := by
  induction offsets with
  | nil => rfl
  | cons stop offsets induction =>
      by_cases kept : keep stop <;> simp [kept, induction, List.findSome?_cons]

theorem findSome?_flatMap (next : Nat → Option Nat) (expand : Nat → List Nat)
    (offsets : List Nat) :
    (offsets.flatMap expand).findSome? next =
      offsets.findSome? fun offset => (expand offset).findSome? next := by
  induction offsets with
  | nil => rfl
  | cons offset offsets induction =>
      rw [List.flatMap_cons, List.findSome?_append, List.findSome?_cons, induction]
      cases (expand offset).findSome? next <;> rfl

theorem runRounds_eq_findSome? (body : (Nat → Option Nat) → Nat → Option Nat)
    (bodyEnds : Nat → List Nat)
    (agree : ∀ next offset, body next offset = (bodyEnds offset).findSome? next)
    (next : Nat → Option Nat) (fuel offset : Nat) :
    runRounds body next fuel offset = (endsOfRounds bodyEnds fuel offset).findSome? next := by
  induction fuel generalizing offset with
  | zero => simp [runRounds, endsOfRounds]
  | succ fuel induction =>
      simp only [runRounds, endsOfRounds, firstOf_eq_or, agree, List.findSome?_append,
        findSome?_flatMap, findSome?_filter]
      simp [induction]

theorem run_eq_findSome? (text : Array CodePoint) (pattern : Pattern)
    (next : Nat → Option Nat) (offset : Nat) :
    run text pattern next offset = (ends text pattern offset).findSome? next := by
  induction pattern generalizing next offset with
  | empty => simp [run, ends]
  | one accepts =>
      simp only [run, ends]
      split
      · split <;> simp
      · simp
  | sequence first second firstAgrees secondAgrees =>
      simp only [run, ends, firstAgrees, findSome?_flatMap]
      congr 1
      funext stop
      exact secondAgrees next stop
  | choice first second firstAgrees secondAgrees =>
      simp only [run, ends, firstOf_eq_or, firstAgrees, secondAgrees, List.findSome?_append]
  | repeated body agree =>
      simp only [run, ends]
      exact runRounds_eq_findSome? _ _ agree next _ offset
  | condition holds =>
      simp only [run, ends]
      split <;> simp

theorem endAt?_eq_head? (text : Array CodePoint) (pattern : Pattern) (offset : Nat) :
    endAt? text pattern offset = (ends text pattern offset).head? := by
  rw [endAt?, run_eq_findSome?]
  cases ends text pattern offset <;> rfl

/-! Common patterns. -/

def literal (text : Text) : Pattern :=
  text.foldr (fun point rest => .sequence (.one (· = point)) rest) .empty

def oneOrMore (body : Pattern) : Pattern := .sequence body (.repeated body)

def optional (body : Pattern) : Pattern := .choice body .empty

def inOrder (patterns : List Pattern) : Pattern := patterns.foldr .sequence .empty

def anyWord : List Text → Pattern
  | [] => .condition fun _ _ => false
  | [word] => literal word
  | word :: words => .choice (literal word) (anyWord words)

def noneOf (excluded : Text) : Pattern := .one fun point => !excluded.contains point

def wordPoint : Pattern := .one CodePoint.isAsciiWord

def blanks : Pattern := .repeated (.one CodePoint.isAsciiBlank)

def isWordAt (point : Option CodePoint) : Bool := point.any CodePoint.isAsciiWord

def wordBoundary : Pattern := .condition fun before after => isWordAt before != isWordAt after

end Pattern

end Dimming
