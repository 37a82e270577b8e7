import Dimming.Proofs.Pattern.Search
import Dimming.Proofs.Position
import Dimming.Proofs.Statement.Cover

/-!
# Extent of the reported ranges

Every range that is reported is a piece of the document, and not an empty one: no shape has a way
to match nothing, the scan goes on behind what it has found, and offsets become positions in order.
-/

set_option autoImplicit false

namespace Dimming

namespace Pattern

variable {text : Array CodePoint} {pattern : Pattern}

/-- Whether every match takes up a point. A repetition may take none, and a condition never does. -/
def isSolid : Pattern → Bool
  | .empty => false
  | .one _ => true
  | .sequence first second => first.isSolid || second.isSolid
  | .choice first second => first.isSolid && second.isSolid
  | .repeated _ => false
  | .condition _ => false

theorem ends_further (solid : pattern.isSolid = true) (offset : Nat) :
    ∀ stop ∈ ends text pattern offset, offset < stop := by
  induction pattern generalizing offset with
  | empty => cases solid
  | one accepts =>
      intro stop reached
      unfold ends at reached
      split at reached
      · split at reached
        · rw [List.mem_singleton] at reached
          omega
        · cases reached
      · cases reached
  | sequence first second firstFurther secondFurther =>
      intro stop reached
      rw [ends, List.mem_flatMap] at reached
      obtain ⟨between, begun, finished⟩ := reached
      have toward := (ends_onward first offset between begun).1
      have onward := (ends_onward second between stop finished).1
      rcases Bool.or_eq_true_iff.1 solid with solid | solid
      · have further := firstFurther solid offset between begun
        omega
      · have further := secondFurther solid between stop finished
        omega
  | choice first second firstFurther secondFurther =>
      intro stop reached
      rw [ends, List.mem_append] at reached
      obtain ⟨firstSolid, secondSolid⟩ := Bool.and_eq_true_iff.1 solid
      exact reached.elim (firstFurther firstSolid offset stop) (secondFurther secondSolid offset stop)
  | repeated body => cases solid
  | condition holds => cases solid

end Pattern

namespace Statement

open Pattern

variable {text language : Text} {shape : Pattern}

theorem solid_of_searched (dialect : Dialect) :
    ∀ shape ∈ dialect.searched, shape.isSolid = true := by
  cases dialect <;> decide

theorem find_all_further (solid : shape.isSolid = true) :
    ∀ span ∈ Span.findAll text shape, span.start < span.stop := by
  intro span among
  have matched := (Span.exhausts_find_all text shape).matched span among
  rw [endAt?_eq_head?] at matched
  exact ends_further solid span.start span.stop (List.mem_of_head? matched)

def rangeOf (text : Text) (span : Span) : DisplayRange :=
  ⟨(LineIndex.ofText text).positionAt span.start, (LineIndex.ofText text).positionAt span.stop⟩

/-- A range between two offsets of a text, from the earlier to the later one. -/
structure IsPiece (text : Text) (range : DisplayRange) : Prop where
  forward : range.start.lt range.stop = true
  inside : ∃ span : Span, span.start < span.stop ∧ span.stop ≤ text.length ∧
    range = rangeOf text span

theorem piece_of_further {span : Span} (further : span.start < span.stop)
    (inside : span.stop ≤ text.length) : IsPiece text (rangeOf text span) :=
  ⟨LineIndex.position_at_lt inside further, span, further, inside, rfl⟩

theorem pieces_of_solid (solid : shape.isSolid = true) :
    ∀ span ∈ Span.findAll text shape, IsPiece text (rangeOf text span) := by
  intro span among
  apply piece_of_further
  · exact find_all_further solid span among
  · exact ((Span.exhausts_find_all text shape).bounded span among).2

theorem ranges_ordered (text : Text) (shape : Pattern) :
    ((Span.findAll text shape).map (rangeOf text)).Pairwise fun earlier later =>
      earlier.start.lt later.start = true ∧ earlier.stop.le later.start = true := by
  have scanned := Span.exhausts_find_all text shape
  apply List.pairwise_map.2
  apply scanned.ordered.imp_of_mem
  intro earlier later _ among before
  have bounds := scanned.bounded later among
  have inside : later.start ≤ text.length := Nat.le_trans bounds.1 bounds.2
  constructor
  · exact LineIndex.position_at_lt inside before.1
  · exact LineIndex.position_at_le inside before.2

/-- There is one range for each match, in the same order: first the matches of the shapes of the
language, then those of the general ones. Every range is a piece of the document from one position
to a later one. The ranges of one shape come in the order of the document and none overlaps another.
For no shape of any language is there a way to match nothing, wherever in whatever text. -/
theorem ranges_are_pieces (text language : Text) :
    ranges text language = (spans text language).map (rangeOf text) ∧
    spans text language =
      (Dialect.ofLanguage language).shapes.flatMap (Span.findAll text) ++
        general.flatMap (Span.findAll text) ∧
    (∀ range ∈ ranges text language, IsPiece text range) ∧
    (∀ shape ∈ (Dialect.ofLanguage language).searched,
      ((Span.findAll text shape).map (rangeOf text)).Pairwise fun earlier later =>
        earlier.start.lt later.start = true ∧ earlier.stop.le later.start = true) ∧
    ∀ dialect : Dialect, ∀ shape ∈ dialect.searched, ∀ (anywhere : Array CodePoint) (offset : Nat),
      ∀ stop ∈ ends anywhere shape offset, offset < stop := by
  refine ⟨rfl, ?_, ?_, ?_, ?_⟩
  · rw [spans_eq, Dialect.searched, List.flatMap_append]
  · intro range reported
    obtain ⟨span, found, rfl⟩ := List.mem_map.1 reported
    rw [spans_eq] at found
    obtain ⟨shape, known, among⟩ := List.mem_flatMap.1 found
    exact pieces_of_solid (solid_of_searched _ shape known) span among
  · intro shape _
    exact ranges_ordered text shape
  · intro dialect shape known anywhere offset
    exact ends_further (solid_of_searched dialect shape known) offset

/-- An output is found by two shapes of its language, and a call on the line behind it by another. -/
theorem overlapping_ranges_are_pieces :
    ranges "std::cout << a;\r\nlog.info(b);" "cpp" =
      [⟨⟨0, 0⟩, ⟨0, 15⟩⟩, ⟨⟨0, 5⟩, ⟨0, 15⟩⟩, ⟨⟨1, 0⟩, ⟨1, 12⟩⟩] ∧
    ∀ range ∈ ranges "std::cout << a;\r\nlog.info(b);" "cpp",
      IsPiece "std::cout << a;\r\nlog.info(b);" range := by
  constructor
  · decide +kernel
  · exact (ranges_are_pieces "std::cout << a;\r\nlog.info(b);" "cpp").2.2.1

end Statement

end Dimming
