import Dimming.Proofs.Session.Frame
import Dimming.Proofs.Text.Lines

/-!
# Scopes that a change affects

A change is compared with a scope point by point, but what decides is the segments between the dots:
a scope is affected if its segments lead those of a changed key. So a wiring builds its style anew
for the opacity and whatever may lie below it, and for nothing that merely begins with the same
letters.
-/

set_option autoImplicit false

namespace Dimming

open Dimming.Action

namespace Text

def segments (text : Text) : List Text := split '.' text

theorem segments_append_dot (one other : Text) :
    segments (one ++ CodePoint.ofChar '.' :: other) = segments one ++ segments other := by
  unfold segments
  rw [split_eq_split_on, split_eq_split_on, split_eq_split_on]
  exact List.splitOn_append_cons_self one other

theorem join_append {separator : Text} {pieces others : List Text} (some : pieces ≠ [])
    (more : others ≠ []) :
    join separator (pieces ++ others) = join separator pieces ++ separator ++ join separator others := by
  obtain ⟨other, others, rfl⟩ := List.exists_cons_of_ne_nil more
  unfold join
  induction pieces with
  | nil => exact absurd rfl some
  | cons piece pieces ih =>
      cases pieces with
      | nil => rw [List.singleton_append, List.intercalate_cons_cons, List.intercalate_singleton]
      | cons next pieces =>
          rw [List.cons_append, List.cons_append, List.intercalate_cons_cons,
            List.intercalate_cons_cons, ← List.cons_append, ih (List.cons_ne_nil _ _)]
          simp only [List.append_assoc]

/-- The segments of one text lead those of another one exactly if it is that text or goes on behind
a dot. -/
theorem segments_prefix_iff {scope key : Text} :
    segments scope <+: segments key ↔ key = scope ∨ scope ++ [CodePoint.ofChar '.'] <+: key := by
  constructor
  · rintro ⟨more, same⟩
    have joined : join ['.'] (segments scope ++ more) = key := by
      rw [same]
      exact join_split '.' key
    by_cases last : more = []
    · left
      rw [last, List.append_nil] at joined
      rw [← joined]
      exact join_split '.' scope
    · right
      obtain ⟨piece, pieces, cut⟩ := exists_split '.' scope
      have some : segments scope ≠ [] := by
        unfold segments
        rw [cut]
        exact List.cons_ne_nil piece pieces
      rw [join_append some last] at joined
      have whole : join ['.'] (segments scope) = scope := join_split '.' scope
      rw [whole] at joined
      exact ⟨_, joined⟩
  · rintro (rfl | ⟨behind, rfl⟩)
    · exact List.prefix_refl _
    · rw [List.append_assoc, List.singleton_append, segments_append_dot]
      exact List.prefix_append _ _

end Text

namespace Change

variable {keys : List Text} {scope : Text}

theorem affects_iff : (ofKeys keys).affects scope = true ↔
    ∃ key ∈ keys, fullKey key = scope ∨ (scope ++ "." : Text) <+: fullKey key := by
  simp [affects, ofKeys]

theorem affects_iff_segments : (ofKeys keys).affects scope = true ↔
    ∃ key ∈ keys, Text.segments scope <+: Text.segments (fullKey key) := by
  rw [affects_iff]
  exact exists_congr fun key => and_congr_right fun _ => Text.segments_prefix_iff.symm

/-- Every key lies in the one section, so what counts is what stands behind it. -/
theorem affects_key_iff {name : Text} : (ofKeys keys).affects (fullKey name) = true ↔
    ∃ key ∈ keys, key = name ∨ (name ++ "." : Text) <+: key := by
  rw [affects_iff]
  refine exists_congr fun key => and_congr_right fun _ => or_congr ?_ ?_
  · exact List.append_right_inj _
  · have behind : (fullKey name ++ "." : Text) = (sectionName ++ "." : Text) ++ (name ++ "." : Text) :=
      List.append_assoc _ _ _
    rw [behind]
    exact List.prefix_append_right_inj _

end Change

namespace Session

def redisplayed (dimmer : Nat) (session : Session) (style : Style) : Session :=
  (session.rebuilt dimmer style).decoratedAll dimmer (session.rebuilt dimmer style).stage.visible

theorem displaying_next_handle (dimmer handle : Nat) :
    Displaying dimmer fun session => session.nextHandle = handle where
  decorated := by
    intro session editor held
    unfold decorated
    split <;> exact held
  recorded := fun _ held => held

theorem redisplayed_next_handle {session : Session} (dimmer : Nat) (style : Style)
    (on : session.settings.enabled = true) :
    (session.redisplayed dimmer style).nextHandle = session.nextHandle + 1 := by
  have displaying := displaying_next_handle dimmer (session.nextHandle + 1)
  apply displaying.decorated_all
  unfold rebuilt
  rw [if_pos on]
  apply displaying.refreshed
  exact congrArg (· + 1) (undressed_next_handle dimmer session)

end Session

/-- A change affects exactly the scopes whose segments lead the segments of a changed key behind the
section, hence with a scope all that are wider. A wiring that is told of it builds the style of its
dimmer anew and decorates all visible editors if the opacity is among the keys or one of them lies
below it, and does nothing at all otherwise; so while dimming is on a new style is made exactly
then. -/
theorem change_affects_leading_segments (keys : List Text) :
    (∀ scope, (Change.ofKeys keys).affects scope = true ↔
      ∃ key ∈ keys, Text.segments scope <+: Text.segments (sectionName ++ "." ++ key)) ∧
    (∀ scope outer, (Change.ofKeys keys).affects scope = true →
      Text.segments outer <+: Text.segments scope → (Change.ofKeys keys).affects outer = true) ∧
    ∀ session wiring dimmer, dimmerOf? session wiring = some dimmer →
      let concerned := ∃ key ∈ keys,
        key = Settings.opacityKey ∨ (Settings.opacityKey ++ "." : Text) <+: key
      let told := configurationChanged (Change.ofKeys keys) wiring
      (concerned → ∃ style, session.settings.style = .ok style ∧
        Yields told session () (session.redisplayed dimmer style)) ∧
      (¬concerned → told.run session = (.ok (), session)) ∧
      (session.settings.enabled = true →
        ((told.run session).2.nextHandle = session.nextHandle + 1 ↔ concerned)) := by
  refine ⟨fun scope => Change.affects_iff_segments, ?_, ?_⟩
  · intro scope outer affected wider
    obtain ⟨key, changed, leading⟩ := Change.affects_iff_segments.1 affected
    exact Change.affects_iff_segments.2 ⟨key, changed, wider.trans leading⟩
  · intro session wiring dimmer owned concerned told
    have affects : (Change.ofKeys keys).affects (Change.fullKey Settings.opacityKey) = true ↔
        concerned := Change.affects_key_iff
    have restyles (yes : concerned) : ∃ style, session.settings.style = .ok style ∧
        Yields told session () (session.redisplayed dimmer style) := by
      obtain ⟨style, described⟩ := session.settings.style_exists
      exact ⟨style, described, configuration_changed_rebuilds (affects.2 yes) owned described⟩
    have idle (no : ¬concerned) : told.run session = (.ok (), session) := by
      dsimp only [told]
      unfold configurationChanged
      rw [if_neg (mt affects.1 no)]
      rfl
    refine ⟨restyles, idle, fun on => ⟨fun made => ?_, fun yes => ?_⟩⟩
    · by_contra no
      rw [idle no] at made
      exact absurd made (Nat.ne_of_lt (Nat.lt_succ_self _))
    · obtain ⟨style, -, yields⟩ := restyles yes
      obtain ⟨logs, ran⟩ := run_of_yields yields
      rw [ran]
      exact Session.redisplayed_next_handle dimmer style on

/-- A key below the opacity has a new style made, and one that goes on with other letters does not. -/
theorem key_below_opacity_restyles :
    let session := (Session.start .absent ⟨[], [], none, []⟩).through [.activate 0]
    let told (keys : List Text) := (configurationChanged (Change.ofKeys keys) 0).run session
    (Change.ofKeys ["theme", "opacity.step"]).affects "logdimmer.opacity" = true ∧
      dimmerOf? session 0 = some 0 ∧ session.settings.enabled = true ∧
      (told ["theme", "opacity.step"]).2.nextHandle = session.nextHandle + 1 ∧
      told ["opacities", ""] = (.ok (), session) := by
  intro session told
  have owned : dimmerOf? session 0 = some 0 := by decide +kernel
  have on : session.settings.enabled = true := by decide +kernel
  have below : (Settings.opacityKey ++ "." : Text) <+: Text.ofString "opacity.step" := by decide
  have affected : Text.segments "logdimmer.opacity" <+:
      Text.segments (sectionName ++ "." ++ "opacity.step") := by decide
  have lower := change_affects_leading_segments ["theme", "opacity.step"]
  have other := change_affects_leading_segments ["opacities", ""]
  refine ⟨(lower.1 _).2 ⟨_, by simp, affected⟩, owned, on, ?_, ?_⟩
  · exact ((lower.2.2 session 0 0 owned).2.2 on).2 ⟨_, by simp, Or.inr below⟩
  · exact (other.2.2 session 0 0 owned).2.1 (by decide)

end Dimming
