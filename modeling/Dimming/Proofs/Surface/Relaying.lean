import Dimming.Proofs.Surface.Drawing

/-!
# Who relays changes

A pane is connected to its window each time it begins to be tracked, and the connection outlasts the
tracking. So a pane that is tracked for the first time announces a change once, and one that has
ceased to be tracked goes on announcing it, once for each time that it has.
-/

set_option autoImplicit false

namespace Dimming

/-- Whether a pane is tracked, and how often it has ceased to be. -/
structure Attendance where
  isTracked : Bool
  departures : Nat

namespace Attendance

def start : Attendance := ⟨false, 0⟩

def after (index : Nat) (attendance : Attendance) : SurfaceOperation → Attendance
  | .track pane => if pane = index then { attendance with isTracked := true } else attendance
  | .untrack pane =>
      if pane = index then ⟨false, attendance.departures + attendance.isTracked.toNat⟩
      else attendance
  | _ => attendance

/-- The attendance of a pane after operations on a window that tracked no pane before. -/
def along (index : Nat) (operations : List SurfaceOperation) : Attendance :=
  operations.foldl (after index) start

/-- How often a pane has begun to be tracked. -/
def arrivals (attendance : Attendance) : Nat :=
  attendance.departures + attendance.isTracked.toNat

end Attendance

namespace Surface

variable {surface : Surface} {index : Nat}

section Relays

/-- How often the changes of a pane are passed on. -/
def relaysOf (surface : Surface) (index : Nat) : Option Nat :=
  surface.panes[index]?.map (·.relays)

theorem relays_of_modified {change : Pane → Pane}
    (same : ∀ pane, (change pane).relays = pane.relays) (surface : Surface) (place index : Nat) :
    (surface.modifyPane place change).relaysOf index = surface.relaysOf index := by
  unfold relaysOf
  rw [modified_pane, Option.map_map]
  congr 1
  funext pane
  by_cases here : place = index <;> simp [here, same]

theorem relays_of_clear (pane : Pane) (number : Nat) : (pane.clear number).relays = pane.relays := by
  unfold Pane.clear
  split <;> rfl

theorem relays_of_cleared_all (places : List Nat) (surface : Surface) (number index : Nat) :
    (places.foldl (fun current pane => current.clear pane number) surface).relaysOf index =
      surface.relaysOf index := by
  induction places generalizing surface with
  | nil => rfl
  | cons place places ih =>
      rw [List.foldl_cons, ih]
      apply relays_of_modified
      exact fun pane => relays_of_clear pane number

theorem relays_of_decorated (surface : Surface) (place number : Nat) (ranges : List DisplayRange)
    (index : Nat) :
    (surface.decorated place number ranges).relaysOf index = surface.relaysOf index := by
  rw [decorated_eq]
  cases surface.drawing? place number ranges with
  | none => rfl
  | some selections =>
      change (surface.modifyPane place _).relaysOf index = _
      apply relays_of_modified
      exact fun _ => rfl

theorem relays_of_track (untracked : index ∉ surface.tracked) :
    (surface.track index).relaysOf index = (surface.relaysOf index).map (· + 1) := by
  rw [track_of_untracked untracked]
  unfold relaysOf
  rw [modified_pane, Option.map_map, Option.map_map]
  congr 1
  funext pane
  simp

theorem relays_of_track_other {pane : Nat} (other : pane ≠ index) :
    (surface.track pane).relaysOf index = surface.relaysOf index := by
  by_cases tracked : pane ∈ surface.tracked
  · rw [track_of_tracked tracked]
  · rw [track_of_untracked tracked]
    unfold relaysOf
    rw [modified_pane]
    simp [other]

end Relays

theorem tracked_track (surface : Surface) (index : Nat) :
    (surface.track index).tracked =
      if index ∈ surface.tracked then surface.tracked else surface.tracked ++ [index] := by
  by_cases tracked : index ∈ surface.tracked
  · rw [track_of_tracked tracked, if_pos tracked]
  · rw [track_of_untracked tracked, if_neg tracked]
    rfl

/-- A pane is tracked as its attendance says, and passes its changes on once for each arrival. -/
structure Attends (surface : Surface) (index : Nat) (attendance : Attendance) : Prop where
  distinct : surface.tracked.Nodup
  tracked : index ∈ surface.tracked ↔ attendance.isTracked = true
  relays : surface.relaysOf index = some attendance.arrivals

namespace Attends

variable {attendance : Attendance} {later : Surface}
variable (attends : surface.Attends index attendance)

include attends

theorem of_same (tracked : later.tracked = surface.tracked)
    (relays : later.relaysOf index = surface.relaysOf index) : later.Attends index attendance where
  distinct := by simpa [tracked] using attends.distinct
  tracked := by simpa [tracked] using attends.tracked
  relays := by rw [relays, attends.relays]

theorem modified {change : Pane → Pane} (same : ∀ pane, (change pane).relays = pane.relays)
    (place : Nat) : (surface.modifyPane place change).Attends index attendance :=
  attends.of_same rfl (relays_of_modified same surface place index)

theorem track (pane : Nat) :
    (surface.track pane).Attends index (attendance.after index (.track pane)) := by
  have distinct : (surface.track pane).tracked.Nodup := by
    rw [tracked_track]
    split
    next => exact attends.distinct
    next unknown =>
      rw [← List.concat_eq_append]
      exact attends.distinct.concat unknown
  by_cases here : pane = index
  · subst here
    rw [Attendance.after, if_pos rfl]
    refine ⟨distinct, ?_, ?_⟩
    · rw [tracked_track]
      by_cases tracked : pane ∈ surface.tracked <;> simp [tracked]
    · by_cases tracked : pane ∈ surface.tracked
      · have present := attends.tracked.1 tracked
        rw [track_of_tracked tracked, attends.relays]
        simp [Attendance.arrivals, present]
      · have absent : attendance.isTracked = false := by
          simpa [tracked] using attends.tracked
        rw [relays_of_track tracked, attends.relays]
        simp [Attendance.arrivals, absent]
  · rw [Attendance.after, if_neg here]
    refine ⟨distinct, ?_, ?_⟩
    · rw [tracked_track, ← attends.tracked]
      by_cases tracked : pane ∈ surface.tracked <;> simp [tracked, Ne.symm here]
    · rw [relays_of_track_other here, attends.relays]

theorem untrack (pane : Nat) :
    (surface.untrack pane).1.Attends index (attendance.after index (.untrack pane)) := by
  obtain ⟨active, untracked⟩ := surface.untrack_eq pane
  have relays : (surface.untrack pane).1.relaysOf index = some attendance.arrivals := by
    rw [untracked, ← attends.relays]
    rfl
  have tracked : (surface.untrack pane).1.tracked = surface.tracked.erase pane := by
    rw [untracked]
  have distinct : (surface.untrack pane).1.tracked.Nodup := by
    rw [tracked]
    exact attends.distinct.erase pane
  by_cases here : pane = index
  · subst here
    rw [Attendance.after, if_pos rfl]
    refine ⟨distinct, ?_, ?_⟩
    · simp [tracked, attends.distinct.mem_erase_iff]
    · simp [relays, Attendance.arrivals]
  · rw [Attendance.after, if_neg here]
    refine ⟨distinct, ?_, relays⟩
    rw [tracked, ← attends.tracked]
    exact List.mem_erase_of_ne (Ne.symm here)

theorem decorated (place number : Nat) (ranges : List DisplayRange) :
    (surface.decorated place number ranges).Attends index attendance := by
  obtain ⟨panes, framed⟩ := surface.decorated_frame place number ranges
  apply attends.of_same
  · rw [framed]
  · exact relays_of_decorated surface place number ranges index

theorem released (number : Nat) : (surface.release number).Attends index attendance := by
  obtain ⟨panes, framed⟩ := surface.release_eq number
  apply attends.of_same
  · rw [framed]
  · exact relays_of_cleared_all surface.tracked _ number index

theorem disposed (number : Nat) : (surface.dispose number).Attends index attendance := by
  cases live : surface.isLive number with
  | false =>
      rw [dispose_of_not_live live]
      exact attends
  | true =>
      have marked : (surface.marked number).Attends index attendance := attends.of_same rfl rfl
      rw [dispose_of_live live]
      exact marked.released number

theorem moved (operation : SurfaceOperation) :
    (surface.moved operation).Attends index (attendance.after index operation) := by
  cases operation with
  | track pane => exact attends.track pane
  | untrack pane => exact attends.untrack pane
  | setActive pane =>
      obtain ⟨active, activated⟩ := surface.set_active_eq pane
      change (surface.setActive pane).1.Attends index attendance
      rw [activated]
      exact attends.of_same rfl rfl
  | setVisible pane visible =>
      change (surface.modifyPane pane _).Attends index attendance
      apply attends.modified
      exact fun _ => rfl
  | create style => exact attends.of_same rfl rfl
  | dispose number => exact attends.disposed number
  | release number => exact attends.released number
  | decorate pane number ranges => exact attends.decorated pane number ranges
  | detect pane number => exact attends.decorated pane number _
  | clear pane number =>
      change (surface.modifyPane pane _).Attends index attendance
      apply attends.modified
      exact fun pane => relays_of_clear pane number
  | edit pane lines =>
      change (surface.modifyPane pane _).Attends index attendance
      apply attends.modified
      exact fun _ => rfl
  | subscribe | unsubscribe => exact attends

end Attends

theorem Attends.through {attendance : Attendance} (attends : surface.Attends index attendance)
    (operations : List SurfaceOperation) :
    (operations.foldl Surface.moved surface).Attends index
      (operations.foldl (Attendance.after index) attendance) := by
  induction operations generalizing surface attendance with
  | nil => exact attends
  | cons operation operations ih => exact ih (attends.moved operation)

theorem attends_of_panes {panes : List Pane} (fresh : ∀ pane ∈ panes, pane.IsFresh)
    (there : index < panes.length) : (ofPanes panes).Attends index .start := by
  refine ⟨List.nodup_nil, by simp [ofPanes, Attendance.start], ?_⟩
  have unheard := (fresh panes[index] (List.getElem_mem there)).relays
  simp [relaysOf, ofPanes, there, unheard, Attendance.start, Attendance.arrivals]

theorem Attends.announced {attendance : Attendance} (attends : surface.Attends index attendance)
    (lines : List Text) :
    (surface.replaceLines index lines).2 =
      List.replicate attendance.arrivals (.documentChanged index) := by
  have relays := attends.relays
  unfold relaysOf at relays
  simp [replaceLines, relays]

end Surface

/-- A change is announced once for each time that its pane has begun to be tracked. That is once if
the pane is tracked and not at all if it is not, as long as the pane has never ceased to be
tracked; and once more for each time that it has. -/
theorem change_announced_once_per_arrival {panes : List Pane}
    (fresh : ∀ pane ∈ panes, pane.IsFresh) (operations : List SurfaceOperation) {index : Nat}
    (there : index < panes.length) (lines : List Text) :
    let surface := ((Observed.ofPanes panes).through operations).surface
    let attendance := Attendance.along index operations
    let notices := (surface.replaceLines index lines).2
    (index ∈ surface.tracked ↔ attendance.isTracked = true) ∧
      notices = List.replicate (attendance.departures + attendance.isTracked.toNat)
        (.documentChanged index) ∧
      (attendance.departures = 0 ↔
        notices = if index ∈ surface.tracked then [.documentChanged index] else []) := by
  intro surface attendance notices
  have attends : surface.Attends index attendance := by
    have led : surface = operations.foldl Surface.moved (.ofPanes panes) :=
      (Observed.ofPanes panes).through_surface operations
    rw [led]
    exact (Surface.attends_of_panes fresh there).through operations
  have announced : notices = List.replicate attendance.arrivals (.documentChanged index) :=
    attends.announced lines
  refine ⟨attends.tracked, announced, ?_⟩
  have wanted : (if index ∈ surface.tracked then [Notice.documentChanged index] else []) =
      List.replicate attendance.isTracked.toNat (.documentChanged index) := by
    cases tracked : attendance.isTracked <;> simp [attends.tracked, tracked]
  rw [announced, wanted, List.replicate_left_inj, Attendance.arrivals]
  omega

/-- Tracked twice over, a pane announces a change once, and the one beside it announces none. -/
theorem change_announced_once_if_only_tracked :
    let panes : List Pane := [.ofLines ["a"] "plaintext" true, .ofLines ["b"] "plaintext" true]
    let operations : List SurfaceOperation := [.track 1, .setActive (some 1), .track 1, .untrack 0]
    let surface := ((Observed.ofPanes panes).through operations).surface
    surface.tracked = [1] ∧ (surface.replaceLines 1 ["c"]).2 = [.documentChanged 1] ∧
      (surface.replaceLines 0 ["d"]).2 = [] := by
  intro panes operations surface
  have fresh : ∀ pane ∈ panes, pane.IsFresh := by
    intro pane among
    simp only [panes, List.mem_cons, List.not_mem_nil, or_false] at among
    rcases among with rfl | rfl <;> apply Pane.fresh_of_lines
  have tracked : surface.tracked = [1] := by decide
  have first := change_announced_once_per_arrival fresh operations
    (show 1 < panes.length by decide) ["c"]
  have second := change_announced_once_per_arrival fresh operations
    (show 0 < panes.length by decide) ["d"]
  refine ⟨tracked, (first.2.2.1 (by decide)).trans (if_pos ?_),
    (second.2.2.1 (by decide)).trans (if_neg ?_)⟩
  · exact List.mem_singleton.2 rfl
  · exact fun among => absurd (List.mem_singleton.1 among) (by decide)

/-- A pane that is no longer tracked announces a change, and announces it twice when it is tracked
again. -/
theorem change_announced_after_tracking :
    let panes : List Pane := [.ofLines ["a"] "plaintext" true]
    let left := ((Observed.ofPanes panes).through [.track 0, .untrack 0]).surface
    let back := left.track 0
    left.tracked = [] ∧ (left.replaceLines 0 ["b"]).2 = [.documentChanged 0] ∧
      back.tracked = [0] ∧
      (back.replaceLines 0 ["b"]).2 = [.documentChanged 0, .documentChanged 0] := by
  decide

end Dimming
