import Dimming.Proofs.Session.Action
import Dimming.Proofs.Settings.Meaning

/-!
# What a dimmer does to a session

Each thing a dimmer does on its own cannot fail, and leads to a session that is given here
as a function of the one before: taking the style away, putting one on, decorating, following
the window and letting go of it.
-/

set_option autoImplicit false

namespace Dimming

namespace Session

variable (dimmer : Nat) (session : Session)

def after (happening : Happening) : Session :=
  { session with happenings := happening :: session.happenings }

def undressed : Session :=
  match session.decoration? dimmer with
  | none => session
  | some handle =>
      { session with
        dimmers := session.dimmers.modify dimmer fun entry =>
          { entry with decoration := none, style := none }
        happenings := ⟨some dimmer, .disposed handle⟩ :: session.happenings }

def dressed (style : Style) : Session :=
  { session with
    dimmers := session.dimmers.modify dimmer fun entry =>
      { entry with decoration := some session.nextHandle, style := some style }
    nextHandle := session.nextHandle + 1
    happenings := ⟨some dimmer, .created session.nextHandle style⟩ :: session.happenings }

def decorated (editor : Nat) : Session :=
  match session.decoration? dimmer, session.stage.documentOf? editor with
  | some handle, some document =>
      session.after ⟨some dimmer, .decorated editor handle document.statements⟩
  | _, _ => session

def decoratedOne : Option Nat → Session
  | none => session
  | some editor => session.decorated dimmer editor

def decoratedAll : List Nat → Session → Session
  | [], session => session
  | editor :: editors, session => decoratedAll editors (session.decorated dimmer editor)

def refreshed : Session :=
  match session.dimmer? dimmer with
  | none => session
  | some entry =>
      match entry.afterRebuild with
      | .updateAll => session.decoratedAll dimmer session.stage.visible
      | .record => session.after ⟨some dimmer, .rebuilt entry.decoration⟩
      | .nothing => session

def rebuilt (style : Style) : Session :=
  if session.settings.enabled then ((session.undressed dimmer).dressed dimmer style).refreshed dimmer
  else session.undressed dimmer

def heardBy (listener : Listener) : Session :=
  if session.listeners.contains listener then session
  else { session with listeners := session.listeners ++ [listener] }

def subscribed : Session :=
  let following : Session :=
    { session with
      wirings := session.wirings ++ [⟨dimmer, true⟩]
      activeCallbacks := session.activeCallbacks ++ [session.wirings.length]
      documentCallbacks := session.documentCallbacks ++ [session.wirings.length] }
  following.heardBy (.wiring session.wirings.length)

def wiredTo (wiring : Nat) : Session :=
  { session with
    dimmers := session.dimmers.modify dimmer fun entry =>
      { entry with wiring := some wiring, lastWiring := some wiring } }

def unsubscribed (wiring : Nat) : Session :=
  if (session.wirings[wiring]?.map (·.subscribed)) = some true then
    { session with
      wirings := session.wirings.modify wiring fun entry => { entry with subscribed := false }
      activeCallbacks := session.activeCallbacks.erase wiring
      documentCallbacks := session.documentCallbacks.erase wiring
      listeners := session.listeners.erase (.wiring wiring) }
  else session

def unwired : Session :=
  match (session.dimmer? dimmer).bind (·.wiring) with
  | none => session
  | some wiring =>
      let loose := session.unsubscribed wiring
      { loose with
        dimmers := loose.dimmers.modify dimmer fun entry => { entry with wiring := none } }

/-- A dimmer puts a style on, if dimming is on, and decorates the active editor. -/
def presented (style : Style) : Session :=
  let shown :=
    if session.settings.enabled then (session.undressed dimmer).dressed dimmer style else session
  shown.decoratedOne dimmer shown.stage.active

def wired : Session := (session.subscribed dimmer).wiredTo dimmer session.wirings.length

def activated (style : Style) : Session := (session.presented dimmer style).wired dimmer

def deactivated : Session := (session.unwired dimmer).undressed dimmer

def joined : Session := { session with dimmers := session.dimmers ++ [.fresh] }

section Undressed

theorem undressed_of_none {dimmer : Nat} {session : Session}
    (bare : session.decoration? dimmer = none) : session.undressed dimmer = session := by
  unfold undressed
  rw [bare]

theorem decoration_undressed_self (dimmer : Nat) (session : Session) :
    (session.undressed dimmer).decoration? dimmer = none := by
  unfold undressed
  split
  next bare => exact bare
  next handle worn =>
      simp only [decoration?, dimmer?, List.getElem?_modify_eq]
      cases session.dimmers[dimmer]? <;> rfl

theorem undressed_settings (dimmer : Nat) (session : Session) :
    (session.undressed dimmer).settings = session.settings := by
  unfold undressed
  split <;> rfl

theorem undressed_next_handle (dimmer : Nat) (session : Session) :
    (session.undressed dimmer).nextHandle = session.nextHandle := by
  unfold undressed
  split <;> rfl

end Undressed

end Session

/-- A property that is kept when a dimmer shows something and when it records a new style. -/
structure Displaying (dimmer : Nat) (holds : Session → Prop) : Prop where
  decorated : ∀ {session} editor, holds session → holds (session.decorated dimmer editor)
  recorded : ∀ {session} handle, holds session →
    holds (session.after ⟨some dimmer, .rebuilt handle⟩)

/-- A property that is kept as well when a dimmer takes its style off and puts another one on. -/
structure Dressing (dimmer : Nat) (holds : Session → Prop) : Prop
    extends Displaying dimmer holds where
  undressed : ∀ {session}, holds session → holds (session.undressed dimmer)
  redressed : ∀ {session} style, holds session →
    holds ((session.undressed dimmer).dressed dimmer style)

section Kept

variable {dimmer : Nat} {holds : Session → Prop} {session : Session}

theorem Displaying.decorated_one (displaying : Displaying dimmer holds) (editor : Option Nat)
    (held : holds session) : holds (session.decoratedOne dimmer editor) := by
  cases editor with
  | none => exact held
  | some editor => exact displaying.decorated editor held

theorem Displaying.decorated_all (displaying : Displaying dimmer holds) (editors : List Nat)
    (held : holds session) : holds (session.decoratedAll dimmer editors) := by
  induction editors generalizing session with
  | nil => exact held
  | cons editor editors ih => exact ih (displaying.decorated editor held)

theorem Displaying.refreshed (displaying : Displaying dimmer holds) (held : holds session) :
    holds (session.refreshed dimmer) := by
  unfold Session.refreshed
  split
  · exact held
  · split
    · exact displaying.decorated_all _ held
    · exact displaying.recorded _ held
    · exact held

theorem Dressing.rebuilt (dressing : Dressing dimmer holds) (style : Style)
    (held : holds session) : holds (session.rebuilt dimmer style) := by
  unfold Session.rebuilt
  split
  · exact dressing.refreshed (dressing.redressed style held)
  · exact dressing.undressed held

theorem Dressing.presented (dressing : Dressing dimmer holds) (style : Style)
    (held : holds session) : holds (session.presented dimmer style) := by
  unfold Session.presented
  apply dressing.decorated_one
  split
  · exact dressing.redressed style held
  · exact held

end Kept

namespace Action

variable {session : Session}

theorem read_setting_yields {Value : Type} (read : Settings → Value × Option Settings.Complaint)
    (session : Session) :
    Yields (readSetting read) session (read session.settings).1 session := by
  refine yields_get_bind fun logs => ?_
  dsimp only
  cases (read session.settings).2 with
  | none => exact yields_pure _ session
  | some complaint => exact yields_bind (yields_note _ _ _ session) (yields_pure _ _)

theorem of_number_yields {Value : Type} {result : Except NumberFault Value} {value : Value}
    (fine : result = .ok value) (session : Session) :
    Yields (ofNumber result) session value session := by
  rw [fine]
  exact yields_pure value session

theorem build_style_yields {style : Style} (described : session.settings.style = .ok style) :
    Yields buildStyle session style session := by
  apply yields_bind (read_setting_yields _ session)
  apply yields_bind (read_setting_yields _ session)
  unfold Settings.style at described
  split at described
  next own => exact (if_pos own).symm ▸ of_number_yields described _
  next other => exact (if_neg other).symm ▸ of_number_yields described _

theorem dispose_style_yields (dimmer : Nat) (session : Session) :
    Yields (disposeStyle dimmer) session () (session.undressed dimmer) := by
  refine yields_get_bind fun logs => ?_
  unfold Session.undressed
  change Yields (match session.decoration? dimmer with | none => _ | some handle => _) _ _ _
  cases session.decoration? dimmer with
  | none => exact yields_pure _ session
  | some handle => exact fun _ => ⟨_, rfl⟩

theorem create_style_yields (dimmer : Nat) {style : Style}
    (described : session.settings.style = .ok style) :
    Yields (createStyle dimmer) session session.nextHandle
      ((session.undressed dimmer).dressed dimmer style) := by
  rw [← Session.undressed_settings dimmer] at described
  rw [← Session.undressed_next_handle dimmer session]
  apply yields_bind (dispose_style_yields dimmer session)
  apply yields_bind (build_style_yields described)
  exact fun _ => ⟨_, rfl⟩

theorem update_editor_yields (dimmer editor : Nat) (session : Session) :
    Yields (updateEditor dimmer editor) session () (session.decorated dimmer editor) := by
  refine yields_get_bind fun logs => ?_
  unfold Session.decorated
  change Yields
    (match session.decoration? dimmer, session.stage.documentOf? editor with
      | some handle, some document => _
      | _, _ => _) _ _ _
  cases session.decoration? dimmer <;> cases session.stage.documentOf? editor
  case some.some handle document => exact fun _ => ⟨_, rfl⟩
  all_goals exact yields_pure _ session

theorem update_each_yields (dimmer : Nat) (editors : List Nat) (session : Session) :
    Yields (editors.forM (updateEditor dimmer)) session ()
      (session.decoratedAll dimmer editors) := by
  induction editors generalizing session with
  | nil => exact yields_pure _ session
  | cons editor editors ih =>
      exact yields_bind (update_editor_yields dimmer editor session) (ih _)

theorem update_all_yields (dimmer : Nat) (session : Session) :
    Yields (updateAll dimmer) session ()
      (session.decoratedAll dimmer session.stage.visible) :=
  yields_get_bind fun _ =>
    yields_bind (yields_note _ _ _ session) (update_each_yields dimmer _ session)

theorem update_one_yields (dimmer : Nat) (editor : Option Nat) (session : Session) :
    Yields (updateOne dimmer editor) session () (session.decoratedOne dimmer editor) := by
  cases editor with
  | none => exact yields_pure _ session
  | some editor => exact update_editor_yields dimmer editor session

theorem decorate_active_yields (dimmer : Nat) (session : Session) :
    Yields (decorateActive dimmer) session ()
      (session.decoratedOne dimmer session.stage.active) :=
  yields_get_bind fun _ => update_one_yields dimmer _ session

theorem after_rebuild_yields (dimmer : Nat) (session : Session) :
    Yields (afterRebuild dimmer) session () (session.refreshed dimmer) := by
  refine yields_get_bind fun logs => ?_
  unfold Session.refreshed
  change Yields (match session.dimmer? dimmer with | none => _ | some entry => _) _ _ _
  cases session.dimmer? dimmer with
  | none => exact yields_pure _ session
  | some entry =>
      dsimp only
      cases entry.afterRebuild with
      | updateAll => exact update_all_yields dimmer session
      | record => exact fun _ => ⟨_, rfl⟩
      | nothing => exact yields_pure _ session

theorem rebuild_yields (dimmer : Nat) {style : Style}
    (described : session.settings.style = .ok style) :
    Yields (rebuild dimmer) session () (session.rebuilt dimmer style) := by
  apply yields_bind (dispose_style_yields dimmer session)
  apply yields_bind (read_setting_yields _ _)
  rw [Session.undressed_settings]
  unfold Session.rebuilt
  change Yields (if session.settings.enabled = true then _ else _) _ _ _
  split
  · rw [← Session.undressed_settings dimmer] at described
    have created := create_style_yields dimmer described
    -- The style is already off, so taking it off once more changes nothing.
    rw [Session.undressed_of_none (Session.decoration_undressed_self dimmer session)] at created
    exact yields_bind (yields_bind created (yields_pure _ _)) (after_rebuild_yields dimmer _)
  · exact yields_note _ _ _ _

theorem configuration_changed_rebuilds {change : Change} {wiring dimmer : Nat} {style : Style}
    (affects : change.affects (Change.fullKey Settings.opacityKey) = true)
    (found : dimmerOf? session wiring = some dimmer)
    (described : session.settings.style = .ok style) :
    Yields (configurationChanged change wiring) session ()
      ((session.rebuilt dimmer style).decoratedAll dimmer
        (session.rebuilt dimmer style).stage.visible) := by
  unfold configurationChanged
  rw [if_pos affects]
  refine yields_bind (yields_note _ _ _ session) (yields_get_bind fun logs => ?_)
  rw [show dimmerOf? { session with logs } wiring = some dimmer from found]
  exact yields_bind (rebuild_yields dimmer described) (update_all_yields dimmer _)

theorem configuration_changed_idle {change : Change} {wiring : Nat}
    (idle : change.affects (Change.fullKey Settings.opacityKey) = true →
      dimmerOf? session wiring = none) :
    Yields (configurationChanged change wiring) session () session := by
  unfold configurationChanged
  split
  next affects =>
      refine yields_bind (yields_note _ _ _ session) (yields_get_bind fun logs => ?_)
      rw [show dimmerOf? { session with logs } wiring = none from idle affects]
      exact yields_pure _ session
  next => exact yields_pure _ session

theorem unsubscribe_yields (wiring : Nat) (session : Session) :
    Yields (unsubscribe wiring) session () (session.unsubscribed wiring) := by
  refine yields_get_bind fun logs => ?_
  unfold Session.unsubscribed
  change Yields
    (if (session.wirings[wiring]?.map (·.subscribed)) = some true then _ else _) _ _ _
  split
  · exact fun _ => ⟨_, rfl⟩
  · exact yields_pure _ session

theorem add_listener_yields (listener : Listener) (session : Session) :
    Yields (addListener listener) session () (session.heardBy listener) := by
  intro logs
  unfold Session.heardBy
  change ∃ others, (Except.ok (), if session.listeners.contains listener then _ else _) = _
  split <;> exact ⟨_, rfl⟩

theorem subscribe_yields (dimmer : Nat) (session : Session) :
    Yields (subscribe dimmer) session session.wirings.length (session.subscribed dimmer) := by
  let wiring := session.wirings.length
  refine yields_get_bind fun _ => ?_
  have following : Yields
      (modify fun session : Session =>
        { session with
          wirings := session.wirings ++ [⟨dimmer, true⟩]
          activeCallbacks := session.activeCallbacks ++ [wiring]
          documentCallbacks := session.documentCallbacks ++ [wiring] })
      session ()
      { session with
        wirings := session.wirings ++ [⟨dimmer, true⟩]
        activeCallbacks := session.activeCallbacks ++ [wiring]
        documentCallbacks := session.documentCallbacks ++ [wiring] } :=
    fun logs => ⟨logs, rfl⟩
  refine yields_bind following ?_
  refine yields_bind (add_listener_yields _ _) ?_
  exact yields_bind (yields_note _ _ _ _) (yields_pure _ _)

theorem activate_yields {dimmer : Nat} {entry : Dimmer} {style : Style}
    (found : session.dimmer? dimmer = some entry) (idle : entry.wiring = none)
    (described : session.settings.style = .ok style) :
    Yields (activate dimmer) session () (session.activated dimmer style) := by
  refine yields_get_bind fun logs => ?_
  change Yields (match session.dimmer? dimmer with | none => _ | some entry => _) _ _ _
  rw [found]
  dsimp only
  rw [idle]
  have follow (shown : Session) :
      Yields
        (do
          decorateActive dimmer
          let wiring ← subscribe dimmer
          modifyDimmer dimmer fun entry =>
            { entry with wiring := some wiring, lastWiring := some wiring }
          note .info "extension" "Log dimming activated")
        shown () ((shown.decoratedOne dimmer shown.stage.active).wired dimmer) := by
    apply yields_bind (decorate_active_yields dimmer shown)
    apply yields_bind (subscribe_yields dimmer _)
    exact yields_bind (fun _ => ⟨_, rfl⟩) (yields_note _ _ _ _)
  apply yields_bind (read_setting_yields _ session)
  unfold Session.activated Session.presented
  change Yields (if session.settings.enabled = true then _ else _) _ _ _
  split
  · exact yields_bind (yields_bind (create_style_yields dimmer described) (yields_pure _ _))
      (follow _)
  · exact follow session

theorem activate_warns {dimmer wiring : Nat} {entry : Dimmer}
    (found : session.dimmer? dimmer = some entry) (wired : entry.wiring = some wiring) :
    (activate dimmer).run session =
      (note .warning "extension" "Log dimming already activated").run session := by
  unfold activate
  rw [run_get_bind, found]
  dsimp only
  rw [wired]
  rfl

theorem deactivate_yields (dimmer : Nat) (session : Session) :
    Yields (deactivate dimmer) session () (session.deactivated dimmer) := by
  have finish (loose : Session) :
      Yields
        (do
          disposeStyle dimmer
          note .info "extension" "Log dimming deactivated")
        loose () (loose.undressed dimmer) :=
    yields_bind (dispose_style_yields dimmer loose) (yields_note _ _ _ _)
  refine yields_get_bind fun logs => ?_
  unfold Session.deactivated Session.unwired
  change Yields (match (session.dimmer? dimmer).bind (·.wiring) with
    | none => _ | some wiring => _) _ _ _
  cases (session.dimmer? dimmer).bind (·.wiring) with
  | none => exact finish session
  | some wiring =>
      apply yields_bind (unsubscribe_yields wiring session)
      exact yields_bind (fun _ => ⟨_, rfl⟩) (finish _)

end Action

end Dimming
