import Dimming.Proofs.Mapping
import Dimming.Proofs.Settings.Meaning
import Dimming.Surface.Observation

/-!
# What operations do to a surface

An operation that fails leaves a surface as it is, so every operation leads from one surface to
another, given here as a function of the one before. What a pane shows is looked up decoration by
decoration: drawing sets the selections of one, clearing takes them away, and nothing else touches
them.
-/

set_option autoImplicit false

namespace Dimming

namespace Pane

variable {pane : Pane} {number other : Nat} {selections : List Selection}

def drawn (pane : Pane) (number : Nat) (selections : List Selection) : Pane :=
  redraw { pane with groups := pane.groups.put number selections }

structure IsFresh (pane : Pane) : Prop where
  groups : pane.groups = []
  shown : pane.shown = []
  relays : pane.relays = 0

theorem fresh_of_lines (lines : List Text) (language : Text) (visible : Bool) :
    (ofLines lines language visible).IsFresh := ⟨rfl, rfl, rfl⟩

/-- A pane shows the selections of every decoration in turn, each decoration once. -/
structure IsNeat (pane : Pane) : Prop where
  shown : pane.shown = pane.groups.flatMap (·.2)
  distinct : (pane.groups.map Prod.fst).Nodup

theorem IsFresh.neat (fresh : pane.IsFresh) : pane.IsNeat := by
  constructor <;> simp [fresh.groups, fresh.shown]

theorem IsNeat.of_same {later : Pane} (neat : pane.IsNeat)
    (same : later.groups = pane.groups ∧ later.shown = pane.shown) : later.IsNeat where
  shown := by rw [same.1, same.2, neat.shown]
  distinct := by rw [same.1]; exact neat.distinct

theorem IsNeat.drawn (neat : pane.IsNeat) (number : Nat) (selections : List Selection) :
    (pane.drawn number selections).IsNeat where
  shown := rfl
  distinct := Mapping.nodup_put neat.distinct number selections

theorem IsNeat.cleared (neat : pane.IsNeat) (number : Nat) : (pane.clear number).IsNeat := by
  unfold clear
  split
  · exact neat
  · exact ⟨rfl, Mapping.nodup_without neat.distinct number⟩

theorem get_drawn (pane : Pane) (number other : Nat) (selections : List Selection) :
    (pane.drawn number selections).groups.get? other =
      if number = other then some selections else pane.groups.get? other := by
  by_cases same : number = other
  · subst same
    simp [drawn, redraw, Mapping.get_put_self]
  · simp [drawn, redraw, Mapping.get_put_of_ne same, same]

theorem get_clear (pane : Pane) (number other : Nat) :
    (pane.clear number).groups.get? other =
      if number = other then none else pane.groups.get? other := by
  unfold clear
  split
  next absent =>
    by_cases same : number = other
    · subst same
      simp [absent]
    · simp [same]
  next =>
    by_cases same : number = other
    · subst same
      simp [redraw, Mapping.get_without_self]
    · simp [redraw, Mapping.get_without_of_ne same, same]

end Pane

def SurfaceOperation.draws : SurfaceOperation → Bool
  | .create _ | .dispose _ | .release _ | .decorate _ _ _ | .detect _ _ | .clear _ _ => true
  | _ => false

namespace Surface

section Effects

variable (surface : Surface)

/-- The selections that drawing a decoration sets on a pane. It sets none if the decoration is
disposed of, its style cannot be rendered or a place cannot be counted. -/
def drawing? (index number : Nat) (ranges : List DisplayRange) : Option (List Selection) := do
  let decoration ← surface.decoration? number
  let format ← (TextFormat.ofStyle decoration.style).toOption
  let pane ← surface.panes[index]?
  if decoration.disposed || (pane.obstacle? ranges).isSome then none
  else some (ranges.map (pane.select format))

def drawn (index number : Nat) (selections : List Selection) : Surface :=
  surface.modifyPane index (·.drawn number selections)

/-- A decoration is drawn on a pane, as far as it can be. -/
def decorated (index number : Nat) (ranges : List DisplayRange) : Surface :=
  match surface.decorate index number ranges with
  | .ok later => later
  | .error _ => surface

def statementsOf (index : Nat) : List DisplayRange :=
  (surface.panes[index]?.map fun pane => pane.document.statements).getD []

def moved : SurfaceOperation → Surface
  | .track pane => surface.track pane
  | .untrack pane => (surface.untrack pane).1
  | .setActive pane => (surface.setActive pane).1
  | .setVisible pane visible => surface.setVisible pane visible
  | .create style => (surface.create style).1
  | .dispose number => surface.dispose number
  | .release number => surface.release number
  | .decorate pane number ranges => surface.decorated pane number ranges
  | .detect pane number => surface.decorated pane number (surface.statementsOf pane)
  | .clear pane number => surface.clear pane number
  | .edit pane lines => (surface.replaceLines pane lines).1
  | .subscribe _ _ | .unsubscribe _ => surface

def isLive (number : Nat) : Bool := (surface.decoration? number).any fun entry => !entry.disposed

def drawnOf (index number : Nat) : Option (List Selection) :=
  surface.panes[index]?.bind fun pane => pane.groups.get? number

end Effects

variable {surface : Surface} {index number : Nat} {ranges : List DisplayRange}

section Panes

variable {change other : Pane → Pane}

theorem modified_pane (surface : Surface) (index place : Nat) (change : Pane → Pane) :
    (surface.modifyPane index change).panes[place]? =
      surface.panes[place]?.map fun pane => if index = place then change pane else pane := by
  simp [modifyPane, List.getElem?_modify]

theorem forall_modified {good : Pane → Prop} (kept : ∀ pane, good pane → good (change pane))
    (all : ∀ pane ∈ surface.panes, good pane) (index : Nat) :
    ∀ pane ∈ (surface.modifyPane index change).panes, good pane := by
  intro pane among
  obtain ⟨place, found⟩ := List.mem_iff_getElem?.1 among
  rw [modified_pane] at found
  obtain ⟨former, there, rfl⟩ := Option.map_eq_some_iff.1 found
  have fine := all former (List.mem_of_getElem? there)
  by_cases here : index = place
  · simpa [here] using kept former fine
  · simpa [here] using fine

theorem modify_absent (absent : surface.panes[index]? = none) :
    surface.modifyPane index change = surface := by
  have outside : surface.panes.length ≤ index := List.getElem?_eq_none_iff.1 absent
  simp [modifyPane, List.modify_eq_self outside]

theorem modify_congr {pane : Pane} (found : surface.panes[index]? = some pane)
    (same : change pane = other pane) :
    surface.modifyPane index change = surface.modifyPane index other := by
  unfold modifyPane
  congr 1
  apply List.ext_getElem?
  intro place
  rw [List.getElem?_modify, List.getElem?_modify]
  by_cases here : index = place
  · subst here
    simp [found, same]
  · simp [here]

end Panes

section Drawing

variable {decoration : Decoration} {pane : Pane} {format : TextFormat}

theorem decorate_of_rendered (found : surface.decoration? number = some decoration)
    (live : decoration.disposed = false)
    (rendered : TextFormat.ofStyle decoration.style = .ok format)
    (shown : surface.panes[index]? = some pane) (free : pane.obstacle? ranges = none) :
    surface.decorate index number ranges =
      .ok (surface.drawn index number (ranges.map (pane.select format))) := by
  simp only [decorate, found, live, rendered, shown, free, Option.bind_some, Bool.false_eq_true,
    if_false, Except.ok.injEq]
  exact modify_congr shown rfl

theorem decorate_of_unrendered {fault : NumberFault}
    (found : surface.decoration? number = some decoration) (live : decoration.disposed = false)
    (unrendered : TextFormat.ofStyle decoration.style = .error fault) :
    surface.decorate index number ranges = .error (.number fault) := by
  simp [decorate, found, live, unrendered]

theorem decorated_eq (surface : Surface) (index number : Nat) (ranges : List DisplayRange) :
    surface.decorated index number ranges =
      match surface.drawing? index number ranges with
      | some selections => surface.drawn index number selections
      | none => surface := by
  cases found : surface.decoration? number with
  | none => simp [decorated, decorate, drawing?, found]
  | some decoration =>
      cases disposed : decoration.disposed with
      | true => simp [decorated, decorate, drawing?, found, disposed]
      | false =>
          cases rendered : TextFormat.ofStyle decoration.style with
          | error fault =>
              simp [decorated, decorate_of_unrendered found disposed rendered, drawing?, found,
                rendered, Except.toOption]
          | ok format =>
              cases shown : surface.panes[index]? with
              | none =>
                  simp [decorated, decorate, drawing?, found, disposed, rendered, shown,
                    modify_absent]
              | some pane =>
                  cases free : pane.obstacle? ranges with
                  | some obstacle =>
                      simp [decorated, decorate, drawing?, found, disposed, rendered, shown, free]
                  | none =>
                      simp [decorated, decorate_of_rendered found disposed rendered shown free,
                        drawing?, found, disposed, rendered, shown, free, Except.toOption]

theorem decoration_of_drawing {selections : List Selection}
    (drawing : surface.drawing? index number ranges = some selections) :
    ∃ decoration pane, surface.decoration? number = some decoration ∧ decoration.disposed = false ∧
      surface.panes[index]? = some pane := by
  simp only [drawing?, Option.bind_eq_bind, Option.bind_eq_some_iff] at drawing
  obtain ⟨decoration, found, format, -, pane, shown, set⟩ := drawing
  refine ⟨decoration, pane, found, ?_, shown⟩
  by_contra disposed
  simp [disposed] at set

end Drawing

section Drawn

variable {change : Pane → Pane}

theorem drawn_of_modified (same : ∀ pane, (change pane).groups = pane.groups) (surface : Surface)
    (place index number : Nat) :
    (surface.modifyPane place change).drawnOf index number = surface.drawnOf index number := by
  unfold drawnOf
  rw [modified_pane]
  cases surface.panes[index]? with
  | none => rfl
  | some pane => by_cases here : place = index <;> simp [here, same]

theorem drawn_of_drawn (surface : Surface) (place decoration index number : Nat)
    (selections : List Selection) {pane : Pane} (shown : surface.panes[place]? = some pane) :
    (surface.drawn place decoration selections).drawnOf index number =
      if place = index ∧ decoration = number then some selections
      else surface.drawnOf index number := by
  unfold drawnOf drawn
  rw [modified_pane]
  by_cases here : place = index
  · subst here
    simp [shown, Pane.get_drawn]
  · simp [here]

theorem drawn_of_clear (surface : Surface) (place decoration index number : Nat) :
    (surface.clear place decoration).drawnOf index number =
      if place = index ∧ decoration = number then none else surface.drawnOf index number := by
  unfold drawnOf clear
  rw [modified_pane]
  cases surface.panes[index]? with
  | none => simp
  | some pane => by_cases here : place = index <;> simp [here, Pane.get_clear]

theorem drawn_of_cleared_all (places : List Nat) (surface : Surface)
    (decoration index number : Nat) :
    (places.foldl (fun current pane => current.clear pane decoration) surface).drawnOf index number =
      if index ∈ places ∧ decoration = number then none else surface.drawnOf index number := by
  induction places generalizing surface with
  | nil => simp
  | cons place places ih =>
      simp only [List.foldl_cons, ih, drawn_of_clear, List.mem_cons]
      by_cases same : decoration = number
      · by_cases later : index ∈ places
        · simp [same, later]
        · simp [same, later, eq_comm]
      · simp [same]

theorem drawn_of_release (surface : Surface) (decoration index number : Nat) :
    (surface.release decoration).drawnOf index number =
      if index ∈ surface.tracked ∧ decoration = number then none
      else surface.drawnOf index number :=
  drawn_of_cleared_all surface.tracked { surface with live := surface.live.erase decoration }
    decoration index number

end Drawn

section Disposal

def marked (surface : Surface) (number : Nat) : Surface :=
  { surface with
    decorations := surface.decorations.modify (number - 1) fun entry =>
      { entry with disposed := true } }

theorem dispose_of_live (live : surface.isLive number = true) :
    surface.dispose number = (surface.marked number).release number := by
  unfold isLive at live
  unfold dispose marked
  cases found : surface.decoration? number with
  | none => simp [found] at live
  | some decoration =>
      have fresh : decoration.disposed = false := by simpa [found] using live
      simp [fresh]

theorem dispose_of_not_live (gone : surface.isLive number = false) :
    surface.dispose number = surface := by
  unfold isLive at gone
  unfold dispose
  cases found : surface.decoration? number with
  | none => rfl
  | some decoration =>
      have disposed : decoration.disposed = true := by simpa [found] using gone
      simp [disposed]

end Disposal

section Frame

theorem cleared_all_eq (places : List Nat) (surface : Surface) (decoration : Nat) : ∃ panes,
    places.foldl (fun current pane => current.clear pane decoration) surface =
      { surface with panes } := by
  induction places generalizing surface with
  | nil => exact ⟨surface.panes, rfl⟩
  | cons place places ih => exact ih (surface.clear place decoration)

theorem release_eq (surface : Surface) (number : Nat) : ∃ panes,
    surface.release number = { surface with live := surface.live.erase number, panes } :=
  cleared_all_eq surface.tracked { surface with live := surface.live.erase number } number

theorem track_of_tracked (tracked : index ∈ surface.tracked) : surface.track index = surface := by
  simp [track, tracked]

theorem track_of_untracked (untracked : index ∉ surface.tracked) :
    surface.track index =
      { surface with tracked := surface.tracked ++ [index] }.modifyPane index fun entry =>
        { entry with relays := entry.relays + 1 } := by
  simp [track, untracked]

theorem set_active_eq (surface : Surface) (pane : Option Nat) : ∃ active,
    (surface.setActive pane).1 = { surface with active } := by
  unfold setActive
  split
  · exact ⟨surface.active, rfl⟩
  · exact ⟨pane, rfl⟩

theorem untrack_eq (surface : Surface) (index : Nat) : ∃ active,
    (surface.untrack index).1 =
      { surface with tracked := surface.tracked.erase index, active } := by
  unfold untrack
  split
  next tracked =>
    dsimp only
    split
    · exact set_active_eq { surface with tracked := surface.tracked.erase index } none
    · exact ⟨surface.active, rfl⟩
  next untracked =>
    have absent : index ∉ surface.tracked := by simpa using untracked
    exact ⟨surface.active, by rw [List.erase_of_not_mem absent]⟩

theorem modify_id (surface : Surface) (index : Nat) : surface.modifyPane index id = surface := by
  simp [modifyPane]

/-- An operation that does not draw may change what is tracked and active, and a pane but for what
is drawn on it. -/
theorem moved_undrawn {operation : SurfaceOperation} (undrawn : operation.draws = false)
    (surface : Surface) : ∃ tracked active index change,
      (∀ pane, (change pane).groups = pane.groups ∧ (change pane).shown = pane.shown) ∧
        surface.moved operation = { surface with tracked, active }.modifyPane index change := by
  have still (tracked : List Nat) (active : Option Nat) :
      { surface with tracked, active }.modifyPane 0 id = { surface with tracked, active } :=
    modify_id _ 0
  cases operation with
  | track pane =>
      change ∃ tracked active index change, _ ∧ surface.track pane = _
      by_cases tracked : pane ∈ surface.tracked
      · rw [track_of_tracked tracked]
        exact ⟨_, _, 0, id, fun _ => ⟨rfl, rfl⟩, (still surface.tracked surface.active).symm⟩
      · rw [track_of_untracked tracked]
        refine ⟨_, surface.active, pane, _, ?_, rfl⟩
        exact fun _ => ⟨rfl, rfl⟩
  | untrack pane =>
      obtain ⟨active, untracked⟩ := surface.untrack_eq pane
      exact ⟨_, _, 0, id, fun _ => ⟨rfl, rfl⟩, untracked.trans (still _ active).symm⟩
  | setActive pane =>
      obtain ⟨active, activated⟩ := surface.set_active_eq pane
      exact ⟨_, _, 0, id, fun _ => ⟨rfl, rfl⟩, activated.trans (still _ active).symm⟩
  | setVisible pane | edit pane =>
      refine ⟨surface.tracked, surface.active, pane, _, ?_, rfl⟩
      exact fun _ => ⟨rfl, rfl⟩
  | subscribe | unsubscribe =>
      exact ⟨_, _, 0, id, fun _ => ⟨rfl, rfl⟩, (still surface.tracked surface.active).symm⟩
  | _ => cases undrawn

theorem decorated_frame (surface : Surface) (index number : Nat) (ranges : List DisplayRange) :
    ∃ panes, surface.decorated index number ranges = { surface with panes } := by
  rw [decorated_eq]
  cases surface.drawing? index number ranges with
  | none => exact ⟨surface.panes, rfl⟩
  | some selections => exact ⟨_, rfl⟩

end Frame

section Outline

def outline (surface : Surface) : List Nat × Option Nat × Nat :=
  (surface.tracked, surface.active, surface.panes.length)

theorem modified_outline (surface : Surface) (index : Nat) (change : Pane → Pane) :
    (surface.modifyPane index change).outline = surface.outline := by
  simp [outline, modifyPane]

theorem release_outline (surface : Surface) (number : Nat) :
    (surface.release number).outline = surface.outline := by
  have cleared (places : List Nat) (surface : Surface) :
      (places.foldl (fun current pane => current.clear pane number) surface).outline =
        surface.outline := by
    induction places generalizing surface with
    | nil => rfl
    | cons place places ih => exact (ih _).trans (modified_outline surface place _)
  exact cleared surface.tracked { surface with live := surface.live.erase number }

theorem dispose_outline (surface : Surface) (number : Nat) :
    (surface.dispose number).outline = surface.outline := by
  cases live : surface.isLive number with
  | false => rw [dispose_of_not_live live]
  | true =>
      rw [dispose_of_live live]
      exact release_outline (surface.marked number) number

theorem decorate_outline {drawn : Surface}
    (ok : surface.decorate index number ranges = .ok drawn) : drawn.outline = surface.outline := by
  have same : surface.decorated index number ranges = drawn := by
    unfold decorated
    rw [ok]
  rw [← same, decorated_eq]
  split
  · exact modified_outline surface index _
  · rfl

theorem track_outline (surface : Surface) (index : Nat) :
    (surface.track index).outline =
      (if index ∈ surface.tracked then surface.tracked else surface.tracked ++ [index],
        surface.active, surface.panes.length) := by
  by_cases tracked : index ∈ surface.tracked
  · rw [track_of_tracked tracked, if_pos tracked]
    rfl
  · rw [track_of_untracked tracked, if_neg tracked]
    exact modified_outline _ index _

theorem set_active_outline (surface : Surface) (pane : Option Nat) :
    (surface.setActive pane).1.outline = (surface.tracked, pane, surface.panes.length) := by
  unfold setActive
  split
  next same => rw [← same]; rfl
  next => rfl

theorem untrack_outline (surface : Surface) (index : Nat) :
    (surface.untrack index).1.outline =
      (surface.tracked.erase index,
        if index ∈ surface.tracked ∧ surface.active = some index then none else surface.active,
        surface.panes.length) := by
  unfold untrack
  by_cases tracked : index ∈ surface.tracked
  · by_cases active : surface.active = some index
    · simp [tracked, active, setActive, outline]
    · simp [tracked, active, outline]
  · simp [tracked, outline, List.erase_of_not_mem tracked]

end Outline

end Surface

namespace Observed

/-- What an operation leads to. One that fails leads nowhere. -/
def after (observed : Observed) (operation : SurfaceOperation) : Observed :=
  match observed.step operation with
  | .ok result => result.2
  | .error _ => observed

def through (observed : Observed) (operations : List SurfaceOperation) : Observed :=
  operations.foldl after observed

theorem decorated_after (observed : Observed) (index number : Nat) (ranges : List DisplayRange) :
    (match (observed.surface.decorate index number ranges).map observed.quietly with
      | .ok result => result.2
      | .error _ => observed).surface = observed.surface.decorated index number ranges := by
  unfold Surface.decorated
  cases observed.surface.decorate index number ranges <;> rfl

theorem after_surface (observed : Observed) (operation : SurfaceOperation) :
    (observed.after operation).surface = observed.surface.moved operation := by
  cases operation with
  | decorate pane number ranges => exact observed.decorated_after pane number ranges
  | detect pane number => exact observed.decorated_after pane number _
  | unsubscribe name =>
      simp only [after, step, unsubscribe]
      cases observed.names.get? name <;> rfl
  | _ => rfl

theorem through_surface (observed : Observed) (operations : List SurfaceOperation) :
    (observed.through operations).surface = operations.foldl Surface.moved observed.surface := by
  induction operations generalizing observed with
  | nil => rfl
  | cons operation operations ih =>
      rw [List.foldl_cons, ← after_surface]
      exact ih (observed.after operation)

end Observed

end Dimming
