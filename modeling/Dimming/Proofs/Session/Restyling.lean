import Dimming.Proofs.Session.Errand

/-!
# Restyling in silence

Taking a style off, putting one on and decorating add to the history, but none of it tells the
user anything, and neither do the listeners. When an errand restyles, every visible editor is
decorated last with the statements of its document, under the handle that is worn then.
-/

set_option autoImplicit false

namespace Dimming

open Dimming.Action

namespace Event

def isTold : Event → Bool
  | .told _ => true
  | _ => false

def decorationOf? (editor : Nat) : Event → Option (Nat × List DisplayRange)
  | .decorated place handle ranges => if place = editor then some (handle, ranges) else none
  | _ => none

end Event

def lastDecoration (dimmer editor : Nat) (history : List Happening) :
    Option (Nat × List DisplayRange) :=
  history.findSome? fun happening =>
    if happening.dimmer = some dimmer then happening.event.decorationOf? editor else none

/-- A session whose history has gone on from an earlier one without a message to the user. -/
def Silent (session later : Session) : Prop :=
  ∃ doings, later.happenings = doings ++ session.happenings ∧
    ∀ happening ∈ doings, happening.event.isTold = false

namespace Silent

variable {session between later : Session}

theorem of_same (same : later.happenings = session.happenings) : Silent session later :=
  ⟨[], same, fun _ absent => absurd absent List.not_mem_nil⟩

theorem trans (first : Silent session between) (second : Silent between later) :
    Silent session later := by
  obtain ⟨older, same, quiet⟩ := first
  obtain ⟨newer, same', quiet'⟩ := second
  refine ⟨newer ++ older, by rw [same', same, List.append_assoc], fun happening inside => ?_⟩
  rcases List.mem_append.1 inside with new | old
  · exact quiet' happening new
  · exact quiet happening old

theorem of_happened {happening : Happening}
    (same : later.happenings = happening :: session.happenings)
    (quiet : happening.event.isTold = false) : Silent session later :=
  ⟨[happening], same, fun _ inside => List.mem_singleton.1 inside ▸ quiet⟩

section Doings

variable (dimmer : Nat) (session : Session)

theorem undressed : Silent session (session.undressed dimmer) := by
  unfold Session.undressed
  split
  · exact of_same rfl
  · exact of_happened rfl rfl

theorem dressed (style : Style) : Silent session (session.dressed dimmer style) :=
  of_happened rfl rfl

theorem decorated (editor : Nat) : Silent session (session.decorated dimmer editor) := by
  unfold Session.decorated
  split
  · exact of_happened rfl rfl
  · exact of_same rfl

theorem displaying : Displaying dimmer (Silent session) where
  decorated editor silent := silent.trans (decorated dimmer _ editor)
  recorded _ silent := silent.trans (of_happened rfl rfl)

theorem rebuilt (style : Style) :
    Silent (session.undressed dimmer) (session.rebuilt dimmer style) := by
  unfold Session.rebuilt
  split
  · exact (displaying dimmer _).refreshed (dressed dimmer _ style)
  · exact of_same rfl

theorem restyled (errand : Errand) (style : Style) :
    Silent (session.undressed errand.dimmer) (session.restyled errand style) := by
  have rebuilt := rebuilt errand.dimmer session style
  unfold Session.restyled
  dsimp only
  split
  · exact (displaying errand.dimmer _).decorated_all _ rebuilt
  · exact rebuilt

end Doings

section Told

/-- Who listens may restyle and decorate, but has no way to tell the user anything. -/
theorem keeps_configuration_changed (change : Change) (wiring : Nat) :
    Keeps (Silent session) (configurationChanged change wiring) := by
  refine configuration_changed_keeps (fun dimmer => ?_) (fun _ silent => silent) change wiring
  exact {
    toDisplaying := displaying dimmer session
    undressed := fun silent => silent.trans (undressed dimmer _)
    redressed := fun style silent =>
      (silent.trans (undressed dimmer _)).trans (dressed dimmer _ style) }

theorem keeps_perform (action : ListenerAction) : Keeps (Silent session) (perform action) := by
  cases action with
  | raise text => exact keeps_throw _
  | remove name => exact keeps_with_found fun definition => keeps_modify fun _ silent => silent
  | add name =>
      refine keeps_with_found fun definition => keeps_modify fun between silent => ?_
      split
      · exact silent
      · exact silent

theorem keeps_deliver (change : Change) (listener : Listener) :
    Keeps (Silent session) (deliver change listener) := by
  cases listener with
  | wiring wiring => exact keeps_configuration_changed change wiring
  | defined definition =>
      refine keeps_get_bind fun between silent => ?_
      cases between.definitions[definition]? with
      | none => exact silent
      | some listener =>
          have notified : Keeps (Silent session) (emit (.notified listener.name change.keys)) :=
            fun _ silent => silent.trans (of_happened rfl rfl)
          refine keeps_bind notified (fun _ => ?_) between silent
          exact keeps_for_each _ fun action _ => keeps_perform action

theorem keeps_notify (change : Change) : Keeps (Silent session) (notify change) :=
  keeps_get_bind fun between =>
    keeps_for_each between.listeners (fun listener _ => keeps_deliver change listener) between

end Told

end Silent

theorem notify_keeps_stage (stage : Stage) (change : Change) :
    Keeps (fun session => session.stage = stage) (notify change) := by
  have indifferent : Indifferent fun session => session.stage = stage :=
    { logged := fun _ same => same
      defined := fun _ same => same
      remarked := fun _ same => same
      heard := by
        intro session definition same
        obtain ⟨more, heard, -⟩ := Session.heard_by_eq session (.defined definition)
        rw [heard]
        exact same
      unheard := fun _ same => same }
  refine indifferent.keeps_notify fun wiring =>
    indifferent.keeps_of_yields fun session same => ?_
  obtain ⟨later, yields, surroundings⟩ := configuration_changed_yields change wiring session
  exact ⟨(), later, yields, (Session.stage_of_same_surroundings surroundings).trans same⟩

namespace Session

section Shown

variable (dimmer handle : Nat) (session : Session)

def showing? (editor : Nat) : Option Happening :=
  (session.stage.documentOf? editor).map fun document =>
    ⟨some dimmer, .decorated editor handle document.statements⟩

variable {dimmer handle session}

theorem decorated_all_happenings (worn : session.decoration? dimmer = some handle)
    (editors : List Nat) : (session.decoratedAll dimmer editors).happenings =
      (editors.filterMap (session.showing? dimmer handle)).reverse ++ session.happenings := by
  induction editors generalizing session with
  | nil => rfl
  | cons editor editors ih =>
      unfold decoratedAll decorated
      rw [worn]
      cases shown : session.stage.documentOf? editor with
      | none =>
          rw [List.filterMap_cons_none (by rw [showing?, shown]; rfl)]
          exact ih worn
      | some document =>
          dsimp only
          rw [List.filterMap_cons_some (by rw [showing?, shown]; rfl)]
          have worn : (session.after ⟨some dimmer,
              .decorated editor handle document.statements⟩).decoration? dimmer = some handle := worn
          refine (ih worn).trans ?_
          rw [List.reverse_cons, List.append_assoc]
          rfl

theorem last_decoration_of_all {editor : Nat} {document : Document} {editors : List Nat}
    (inside : editor ∈ editors) (shown : session.stage.documentOf? editor = some document)
    (older : List Happening) :
    lastDecoration dimmer editor
        ((editors.filterMap (session.showing? dimmer handle)).reverse ++ older) =
      some (handle, document.statements) := by
  unfold lastDecoration
  rw [List.findSome?_append]
  cases last : List.findSome? _ (editors.filterMap (session.showing? dimmer handle)).reverse with
  | none =>
      have happened : ⟨some dimmer, .decorated editor handle document.statements⟩ ∈
          (editors.filterMap (session.showing? dimmer handle)).reverse :=
        List.mem_reverse.2 (List.mem_filterMap.2 ⟨editor, inside, by rw [showing?, shown]; rfl⟩)
      have unseen := List.findSome?_eq_none_iff.1 last _ happened
      rw [if_pos rfl, Event.decorationOf?, if_pos rfl] at unseen
      cases unseen
  | some seen =>
      obtain ⟨happening, inside, decoration⟩ := List.exists_of_findSome?_eq_some last
      obtain ⟨place, -, happened⟩ := List.mem_filterMap.1 (List.mem_reverse.1 inside)
      obtain ⟨other, shown', rfl⟩ := Option.map_eq_some_iff.1 happened
      rw [if_pos rfl, Event.decorationOf?] at decoration
      split at decoration
      next here =>
          rw [here, shown] at shown'
          cases shown'
          exact decoration.symm
      next => cases decoration

end Shown

section Restyled

variable {errand : Errand} {style : Style} {session : Session} {dimmer count : Nat}

theorem restyled_surroundings :
    (session.restyled errand style).surroundings = session.surroundings := by
  unfold restyled
  dsimp only
  split
  · rw [decorated_all_surroundings, rebuilt_surroundings]
  · exact rebuilt_surroundings _ _ _

theorem restyled_dimmers : (session.restyled errand style).dimmers =
    (session.rebuilt errand.dimmer style).dimmers := by
  unfold restyled
  dsimp only
  split
  · exact decorated_all_dimmers _ _ _
  · rfl

theorem rebuilt_worn (tidy : Tidy count session) (known : dimmer < count) (style : Style) :
    ∃ entry, (session.rebuilt dimmer style).dimmer? dimmer = some entry ∧
      (session.settings.enabled = true →
        entry.decoration = some session.nextHandle ∧ entry.style = some style) ∧
      (session.settings.enabled = false → entry.decoration = none ∧ entry.style = none) := by
  have rebuilt := (Tidy.dressing known).rebuilt style tidy
  have inside : dimmer < (session.rebuilt dimmer style).dimmers.length := rebuilt.staffed ▸ known
  obtain ⟨entry, found⟩ : ∃ entry, (session.rebuilt dimmer style).dimmer? dimmer = some entry :=
    ⟨_, List.getElem?_eq_getElem inside⟩
  refine ⟨entry, found, fun on => ?_, fun off => ?_⟩
  · unfold Session.rebuilt dimmer? at found
    rw [if_pos on, refreshed_dimmers] at found
    obtain ⟨old, -, rfl⟩ := found_of_modify_self found
    exact ⟨congrArg some (undressed_next_handle dimmer session), rfl⟩
  · have bare : entry.decoration = none := by
      have bare := decoration_undressed_self dimmer session
      unfold Session.rebuilt at found
      rw [off] at found
      rw [decoration?, show (session.undressed dimmer).dimmer? dimmer = some entry from found] at bare
      exact bare
    exact ⟨bare, (rebuilt.paired dimmer entry found).1 bare⟩

theorem restyled_eq_decorated_all {entry : Dimmer} {handle : Nat}
    (found : (session.restyled errand style).dimmer? errand.dimmer = some entry)
    (worn : entry.decoration = some handle)
    (shows : entry.afterRebuild = .updateAll) :
    ∃ between, Silent session between ∧ between.stage = session.stage ∧
      between.decoration? errand.dimmer = some handle ∧
      session.restyled errand style = between.decoratedAll errand.dimmer session.stage.visible := by
  let rebuilt := session.rebuilt errand.dimmer style
  have stage : rebuilt.stage = session.stage :=
    stage_of_same_surroundings (rebuilt_surroundings errand.dimmer session style)
  have found' : rebuilt.dimmer? errand.dimmer = some entry := by
    unfold dimmer? at found ⊢
    rw [restyled_dimmers] at found
    exact found
  have worn' : rebuilt.decoration? errand.dimmer = some handle := by
    rw [decoration?, found']
    exact worn
  by_cases again : errand.decorates = true
  · refine ⟨rebuilt, ?_, stage, worn', ?_⟩
    · exact (Silent.undressed _ session).trans (Silent.rebuilt _ session style)
    · unfold restyled
      rw [if_pos again, ← stage]
  · let dressed := (session.undressed errand.dimmer).dressed errand.dimmer style
    have on : session.settings.enabled = true := by
      by_contra off
      unfold rebuilt Session.rebuilt at worn'
      rw [if_neg off, decoration_undressed_self] at worn'
      cases worn'
    have same : rebuilt = dressed.refreshed errand.dimmer := if_pos on
    have dressing : dressed.dimmer? errand.dimmer = some entry := by
      unfold dimmer? at found' ⊢
      rw [same, refreshed_dimmers] at found'
      exact found'
    have surroundings : dressed.surroundings = session.surroundings :=
      (dressed_surroundings _ _ style).trans (undressed_surroundings _ session)
    refine ⟨dressed, ?_, stage_of_same_surroundings surroundings, ?_, ?_⟩
    · exact (Silent.undressed _ session).trans (Silent.dressed _ _ style)
    · rw [decoration?, dressing]
      exact worn
    · unfold restyled
      rw [if_neg again, ← stage_of_same_surroundings surroundings]
      change rebuilt = _
      rw [same, refreshed, dressing]
      dsimp only
      rw [shows]

theorem restyled_shows {entry : Dimmer} {handle : Nat} {doings : List Happening}
    (later : (session.restyled errand style).happenings = doings ++ session.happenings)
    (found : (session.restyled errand style).dimmer? errand.dimmer = some entry)
    (worn : entry.decoration = some handle)
    (shows : entry.afterRebuild = .updateAll)
    {editor : Nat} {document : Document} (visible : editor ∈ session.stage.visible)
    (shown : session.stage.documentOf? editor = some document) :
    lastDecoration errand.dimmer editor doings = some (handle, document.statements) := by
  obtain ⟨between, ⟨older, before, -⟩, stage, wearing, same⟩ :=
    restyled_eq_decorated_all found worn shows
  rw [same, decorated_all_happenings wearing, before, ← List.append_assoc] at later
  rw [← stage] at shown
  rw [← List.append_cancel_right later]
  exact last_decoration_of_all visible shown older

end Restyled

end Session

end Dimming
