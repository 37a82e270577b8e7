import Dimming.Proofs.Statement.Extent
import Dimming.Proofs.Surface.Drawing
import Dimming.Proofs.Text.Lines

/-!
# What is highlighted

Detection counts code points, within lines and columns; a pane counts sixteen-bit units, from the
beginning of its document. Where only line feeds end a line and no surrogate stands alone, both ways of
counting agree at every offset, so what is drawn of the statements of a document covers just them.
-/

set_option autoImplicit false

namespace Dimming

namespace Text

theorem utf16_length_cons (point : CodePoint) (rest : Text) :
    utf16Length (point :: rest) = point.utf16Units + rest.utf16Length := rfl

theorem utf16_length_append (first second : Text) :
    utf16Length (first ++ second) = first.utf16Length + second.utf16Length := by
  induction first with
  | nil => simp [utf16Length]
  | cons point first ih =>
      rw [List.cons_append, utf16_length_cons, utf16_length_cons, ih, Nat.add_assoc]

theorem utf16_length_take_le (text : Text) {first second : Nat} (upTo : first ≤ second) :
    utf16Length (text.take first) ≤ utf16Length (text.take second) := by
  obtain ⟨between, rfl⟩ := Nat.exists_eq_add_of_le upTo
  rw [List.take_add, utf16_length_append]
  exact Nat.le_add_right _ _

theorem utf16_length_ended (lines : List Text) : utf16Length (ended lines) = Pane.unitsOf lines := by
  induction lines with
  | nil => rfl
  | cons line lines ih =>
      have feed : (CodePoint.ofChar '\n').utf16Units = 1 := by decide
      rw [ended, utf16_length_append, utf16_length_cons, ih, feed, ← Nat.add_assoc]
      rfl

end Text

namespace Pane

/-- A pane shows a text of which every line ends with a line feed and every code point can be
counted. -/
structure Shows (pane : Pane) (text : Text) : Prop where
  lines : pane.lines = Text.split '\n' text
  noReturn : CodePoint.ofChar '\r' ∉ text
  noSurrogate : ∀ point ∈ text, point.isSurrogate = false

variable {pane : Pane} {text : Text}

theorem text_of_shows (shows : pane.Shows text) : pane.text = text := by
  unfold Pane.text
  rw [shows.lines]
  exact Text.join_split '\n' text

section Offsets

variable {offset line column : Nat} {content : Text}

theorem line_of_stands (shows : pane.Shows text)
    (stands : Text.StandsAt text offset line column content) :
    pane.line? (line : Nat) = some content := by
  unfold line?
  rw [if_pos (Int.natCast_nonneg line), Int.toNat_natCast, shows.lines]
  exact stands.found

theorem up_to_column (content : Text) (column : Nat) : upTo content column = content.take column := by
  unfold upTo
  rw [if_pos (Int.natCast_nonneg column), Int.toNat_natCast]

theorem place_of_stands (shows : pane.Shows text)
    (stands : Text.StandsAt text offset line column content) :
    pane.obstacleAt? ⟨(line : Nat), (column : Nat)⟩ = none ∧
      pane.placeOf ⟨(line : Nat), (column : Nat)⟩ = Text.utf16Length (text.take offset) := by
  have shown := line_of_stands shows stands
  constructor
  · have countable : (content.take column).findIdx? CodePoint.isSurrogate = none := by
      rw [List.findIdx?_eq_none_iff]
      intro point inside
      have before : point ∈ text.take offset := by
        rw [stands.before]
        exact List.mem_append_right _ inside
      simp [shows.noSurrogate point (List.mem_of_mem_take before)]
    simp only [obstacleAt?, shown, up_to_column, countable, Option.bind_eq_bind, Option.bind_some,
      Option.bind_none]
  · simp only [placeOf, shown, up_to_column, Int.toNat_natCast]
    rw [stands.before, Text.utf16_length_append, Text.utf16_length_ended, shows.lines]

end Offsets

theorem place_of_position (shows : pane.Shows text) {offset : Nat} (inside : offset ≤ text.length) :
    pane.obstacleAt? ((LineIndex.ofText text).positionAt offset) = none ∧
      pane.placeOf ((LineIndex.ofText text).positionAt offset) =
        Text.utf16Length (text.take offset) := by
  obtain ⟨line, column, content, same, stands⟩ :=
    LineIndex.stands_at_position shows.noReturn inside
  rw [same]
  exact place_of_stands shows stands

end Pane

namespace Statement

variable {text language : Text}

def unitsOf (text : Text) (span : Span) : Nat × Nat :=
  (Text.utf16Length (text.take span.start), Text.utf16Length (text.take span.stop))

theorem spans_inside :
    ∀ span ∈ spans text language, span.start < span.stop ∧ span.stop ≤ text.length := by
  intro span found
  rw [spans_eq] at found
  obtain ⟨shape, known, among⟩ := List.mem_flatMap.1 found
  constructor
  · exact find_all_further (solid_of_searched _ shape known) span among
  · exact ((Span.exhausts_find_all text shape).bounded span among).2

theorem ranges_free {pane : Pane} (shows : pane.Shows text) (language : Text) :
    pane.obstacle? (ranges text language) = none := by
  unfold Pane.obstacle?
  rw [List.findSome?_eq_none_iff]
  intro range reported
  obtain ⟨span, found, rfl⟩ := List.mem_map.1 reported
  obtain ⟨further, inside⟩ := spans_inside span found
  have start := Pane.place_of_position shows (Nat.le_trans (Nat.le_of_lt further) inside)
  have stop := Pane.place_of_position shows inside
  simp only [start.1, stop.1, Option.or_none]

theorem ranges_selected {pane : Pane} (shows : pane.Shows text) (language : Text)
    (format : TextFormat) :
    ((ranges text language).map (pane.select format)).map
        (fun selection => (selection.start, selection.stop)) =
      (spans text language).map (unitsOf text) := by
  unfold ranges rangesBy
  rw [List.map_map, List.map_map]
  apply List.map_congr_left
  intro span found
  obtain ⟨further, inside⟩ := spans_inside span found
  have upTo := Nat.le_of_lt further
  have start := Pane.place_of_position shows (Nat.le_trans upTo inside)
  have stop := Pane.place_of_position shows inside
  have ordered := Text.utf16_length_take_le text upTo
  simp [Pane.select, Selection.start, Selection.stop, unitsOf, start.2, stop.2, ordered]

end Statement

theorem Pane.spans_of_drawn (pane : Pane) (number : Nat) (selections : List Selection) :
    (pane.drawn number selections).spansOf number =
      selections.map fun selection => (selection.start, selection.stop) := by
  unfold spansOf
  rw [get_drawn, if_pos rfl]
  rfl

/-- What is drawn covers what is found. The position of every offset leads to the units in front of
that offset. So whatever the language, drawing the statements of a text in the style of a live
decoration covers, in their order, the units of every match; unless the style cannot be rendered,
which is said. -/
theorem statements_drawn_where_found {pane : Pane} {text : Text} (shows : pane.Shows text) :
    pane.text = text ∧
      (∀ offset ≤ text.length,
        pane.obstacleAt? ((LineIndex.ofText text).positionAt offset) = none ∧
        pane.placeOf ((LineIndex.ofText text).positionAt offset) =
          Text.utf16Length (text.take offset)) ∧
      ∀ (language : Text) (surface : Surface) (index number : Nat) (decoration : Decoration),
        surface.panes[index]? = some pane → surface.decoration? number = some decoration →
        decoration.disposed = false →
        match TextFormat.ofStyle decoration.style with
        | .error fault =>
            surface.decorate index number (Statement.ranges text language) = .error (.number fault)
        | .ok _ =>
            ∃ later drawn, surface.decorate index number (Statement.ranges text language) = .ok later ∧
              later.panes[index]? = some drawn ∧ drawn.lines = pane.lines ∧
              drawn.spansOf number = (Statement.spans text language).map fun span =>
                (Text.utf16Length (text.take span.start), Text.utf16Length (text.take span.stop)) := by
  refine ⟨Pane.text_of_shows shows, fun offset inside => Pane.place_of_position shows inside, ?_⟩
  intro language surface index number decoration shown found live
  cases rendered : TextFormat.ofStyle decoration.style with
  | error fault => exact Surface.decorate_of_unrendered found live rendered
  | ok format =>
      have drawn := Surface.decorate_of_rendered found live rendered shown
        (Statement.ranges_free shows language)
      let selections := (Statement.ranges text language).map (pane.select format)
      refine ⟨_, pane.drawn number selections, drawn, ?_, rfl, ?_⟩
      · unfold Surface.drawn
        rw [Surface.modified_pane, shown, Option.map_some, if_pos rfl]
      · rw [Pane.spans_of_drawn]
        exact Statement.ranges_selected shows language format

/-- A face takes two units, in front of a match on the first line and inside one on the second. -/
theorem statement_drawn_behind_face :
    let text : Text := "😀 console.log(x);\nlog.info(😀);"
    let pane : Pane := .ofLines ["😀 console.log(x);", "log.info(😀);"] "plaintext" true
    let surface := (Surface.ofPanes [pane]).create ⟨some "#80808080", none, some Style.italic⟩
    pane.text = text ∧ ∃ later drawn,
      surface.1.decorate 0 surface.2 (Statement.ranges text "javascript") = .ok later ∧
      later.panes[0]? = some drawn ∧ drawn.spansOf surface.2 = [(3, 18), (19, 32)] := by
  intro text pane surface
  have shows : pane.Shows text := by
    constructor
    · decide
    · decide
    · decide
  obtain ⟨same, -, highlights⟩ := statements_drawn_where_found shows
  have drawn := highlights "javascript" surface.1 0 surface.2 _ rfl rfl rfl
  obtain ⟨later, drawn, done, there, -, covered⟩ := drawn
  refine ⟨same, later, drawn, done, there, ?_⟩
  rw [covered]
  decide +kernel

end Dimming
