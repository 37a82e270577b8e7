import Dimming.Proofs.Session.Connection

/-!
# Freshness of the active editor

While a dimmer is switched on and wears a style, the active editor shows the statements that
its document has now. The window has to tell of every change of focus and of every edit, and
the active editor has to be a visible one.
-/

set_option autoImplicit false

namespace Dimming

open Dimming.Action

namespace Event

def shownIn? (editor handle : Nat) : Event → Option (List DisplayRange)
  | .decorated place worn ranges => if place = editor ∧ worn = handle then some ranges else none
  | _ => none

def isShowing : Event → Bool
  | .decorated _ _ _ => true
  | _ => false

end Event

/-- The ranges that were last shown in an editor under a handle. -/
def lastShown (editor handle : Nat) (history : List Happening) : Option (List DisplayRange) :=
  history.findSome? (·.event.shownIn? editor handle)

/-- The active editor, if there is one, is visible. -/
def Stage.ActiveInView (stage : Stage) : Prop :=
  ∀ editor ∈ stage.active, editor ∈ stage.visible

instance (stage : Stage) : Decidable stage.ActiveInView :=
  inferInstanceAs (Decidable (∀ editor ∈ stage.active, editor ∈ stage.visible))

/-- Under the handle that a dimmer wears, the active editor shows what its document has now. -/
def UpToDate (dimmer : Nat) (session : Session) : Prop :=
  ∀ handle editor document, session.decoration? dimmer = some handle →
    session.stage.active = some editor → session.stage.documentOf? editor = some document →
    lastShown editor handle session.happenings = some document.statements

namespace Session

variable (dimmer : Nat) (session : Session)

def toldActive (editor : Option Nat) (wiring : Nat) : Session :=
  match dimmerOf? session wiring with
  | none => session
  | some dimmer => session.decoratedOne dimmer editor

def toldDocument (document wiring : Nat) : Session :=
  match dimmerOf? session wiring, session.stage.active with
  | some dimmer, some editor =>
      if session.stage.editors[editor]? = some document then session.decorated dimmer editor
      else session
  | _, _ => session

def focused (editor : Option Nat) : Session :=
  session.activeCallbacks.foldl (fun session wiring => session.toldActive editor wiring)
    { session with stage.active := editor }

def edited (editor : Nat) (text language : Option Text) : Session :=
  match session.stage.editors[editor]? with
  | none => session
  | some document =>
      session.documentCallbacks.foldl (fun session wiring => session.toldDocument document wiring)
        { session with
          stage.documents := session.stage.documents.modify document fun old =>
            ⟨text.getD old.text, language.getD old.language⟩ }

theorem told_active_surroundings (editor : Option Nat) (wiring : Nat) :
    (session.toldActive editor wiring).surroundings = session.surroundings := by
  unfold toldActive
  split
  · rfl
  · exact (dressing_surroundings _ session).decorated_one editor rfl

theorem told_document_surroundings (document wiring : Nat) :
    (session.toldDocument document wiring).surroundings = session.surroundings := by
  unfold toldDocument
  split
  · split
    · exact decorated_surroundings _ session _
    · rfl
  · rfl

end Session

namespace Action

theorem active_editor_changed_yields (editor : Option Nat) (wiring : Nat) (session : Session) :
    Yields (activeEditorChanged editor wiring) session () (session.toldActive editor wiring) := by
  refine yields_get_bind fun logs => ?_
  unfold Session.toldActive
  change Yields (match dimmerOf? session wiring with | none => _ | some dimmer => _) _ _ _
  cases dimmerOf? session wiring with
  | none => exact yields_pure _ session
  | some dimmer => exact update_one_yields dimmer editor session

theorem document_changed_yields (document wiring : Nat) (session : Session) :
    Yields (documentChanged document wiring) session ()
      (session.toldDocument document wiring) := by
  refine yields_get_bind fun logs => ?_
  unfold Session.toldDocument
  change Yields
    (match dimmerOf? session wiring, session.stage.active with
      | some dimmer, some editor =>
          if session.stage.editors[editor]? = some document then _ else _
      | _, _ => _) _ _ _
  cases dimmerOf? session wiring <;> cases session.stage.active
  case some.some dimmer editor =>
    dsimp only
    split
    · exact update_editor_yields dimmer editor session
    · exact yields_pure _ session
  all_goals exact yields_pure _ session

theorem focus_yields (editor : Option Nat) (session : Session) :
    Yields (focus editor true) session () (session.focused editor) := by
  apply yields_bind (yields_modify (fun _ _ => rfl) session)
  exact yields_get_bind fun _ =>
    yields_for_each (fun wiring session => active_editor_changed_yields editor wiring session) _ _

theorem edit_yields (editor : Nat) (text language : Option Text) (session : Session) :
    Yields (edit editor text language true) session () (session.edited editor text language) := by
  refine yields_get_bind fun logs => ?_
  unfold Session.edited
  change Yields
    (match session.stage.editors[editor]? with | none => _ | some document => _) _ _ _
  cases session.stage.editors[editor]? with
  | none => exact yields_pure _ session
  | some document =>
      apply yields_bind (yields_modify (fun _ _ => rfl) session)
      exact yields_get_bind fun _ =>
        yields_for_each (fun wiring session => document_changed_yields document wiring session) _ _

end Action

section LastShown

variable {editor handle : Nat} {author : Option Nat} {event : Event}
variable {history : List Happening}

theorem last_shown_other (quiet : event.isShowing = false) :
    lastShown editor handle (⟨author, event⟩ :: history) = lastShown editor handle history := by
  cases event with
  | decorated => cases quiet
  | _ => rfl

theorem last_shown_self {ranges : List DisplayRange} :
    lastShown editor handle (⟨author, .decorated editor handle ranges⟩ :: history) =
      some ranges := by
  unfold lastShown
  rw [List.findSome?_cons, Event.shownIn?, if_pos ⟨rfl, rfl⟩]

theorem last_shown_elsewhere {place worn : Nat} {ranges : List DisplayRange}
    (apart : ¬(place = editor ∧ worn = handle)) :
    lastShown editor handle (⟨author, .decorated place worn ranges⟩ :: history) =
      lastShown editor handle history := by
  unfold lastShown
  rw [List.findSome?_cons, Event.shownIn?, if_neg apart]

end LastShown

namespace UpToDate

variable {dimmer other : Nat} {session later : Session}

theorem of_same_wardrobe (same : later.wardrobe = session.wardrobe)
    (fresh : UpToDate dimmer session) : UpToDate dimmer later := by
  intro handle editor document worn active shown
  rw [Session.decoration_of_same_wardrobe same] at worn
  rw [Session.stage_of_same_wardrobe same] at active shown
  rw [Session.happenings_of_same_wardrobe same]
  exact fresh handle editor document worn active shown

theorem of_bare (bare : session.decoration? dimmer = none) : UpToDate dimmer session := by
  intro handle editor document worn
  rw [bare] at worn
  cases worn

theorem happened (fresh : UpToDate dimmer session) {event : Event} (author : Option Nat)
    (quiet : event.isShowing = false) : UpToDate dimmer (session.after ⟨author, event⟩) :=
  fun handle editor document worn active shown =>
    (last_shown_other quiet).trans (fresh handle editor document worn active shown)

/-- Whoever decorates shows what is there now, so nothing becomes stale by it. -/
theorem decorated (fresh : UpToDate dimmer session) (other place : Nat) :
    UpToDate dimmer (session.decorated other place) := by
  unfold Session.decorated
  split
  next worn' document' decoration found =>
    intro handle editor document worn active shown
    by_cases here : place = editor ∧ worn' = handle
    · obtain ⟨rfl, rfl⟩ := here
      have same : document' = document := Option.some.inj (found.symm.trans shown)
      exact last_shown_self.trans (congrArg (some ∘ Document.statements) same)
    · exact (last_shown_elsewhere here).trans (fresh handle editor document worn active shown)
  next => exact fresh

theorem displaying (dimmer other : Nat) : Displaying other (UpToDate dimmer) where
  decorated editor fresh := fresh.decorated other editor
  recorded _ fresh := fresh.happened _ rfl

theorem undressed (fresh : UpToDate dimmer session) (other : Nat) :
    UpToDate dimmer (session.undressed other) := by
  by_cases own : other = dimmer
  · subst own
    exact of_bare (Session.decoration_undressed_self other session)
  · unfold Session.undressed
    split
    next => exact fresh
    next worn' _ =>
      intro handle editor document worn active shown
      have worn : session.decoration? dimmer = some handle := by
        rw [← worn]
        exact (congrArg (Option.bind · (·.decoration)) (Session.found_of_modify_ne _ own)).symm
      exact (last_shown_other rfl).trans (fresh handle editor document worn active shown)

theorem dressed_of_ne (fresh : UpToDate dimmer session) (apart : other ≠ dimmer) (style : Style) :
    UpToDate dimmer (session.dressed other style) := by
  intro handle editor document worn active shown
  have worn : session.decoration? dimmer = some handle := by
    rw [← worn]
    exact (congrArg (Option.bind · (·.decoration)) (Session.found_of_modify_ne _ apart)).symm
  exact (last_shown_other rfl).trans (fresh handle editor document worn active shown)

theorem of_decorated {editor : Nat} (active : session.stage.active = some editor) :
    UpToDate dimmer (session.decorated dimmer editor) := by
  intro handle place document worn active' shown
  have stage : (session.decorated dimmer editor).stage = session.stage :=
    Session.stage_of_same_surroundings (Session.decorated_surroundings dimmer session editor)
  unfold Session.decoration? Session.dimmer? at worn
  rw [Session.decorated_dimmers] at worn
  change session.decoration? dimmer = some handle at worn
  rw [stage] at active' shown
  have here : place = editor := Option.some.inj (active'.symm.trans active)
  subst here
  unfold Session.decorated
  rw [worn, shown]
  exact last_shown_self

theorem of_decorated_active (dimmer : Nat) (session : Session) :
    UpToDate dimmer (session.decoratedOne dimmer session.stage.active) := by
  cases active : session.stage.active with
  | none =>
      intro _ _ _ _ active'
      rw [show session.stage.active = some _ from active'] at active
      cases active
  | some editor => exact of_decorated active

theorem of_decorated_all {places : List Nat}
    (inside : ∀ editor, session.stage.active = some editor → editor ∈ places) :
    UpToDate dimmer (session.decoratedAll dimmer places) := by
  induction places generalizing session with
  | nil => exact fun _ editor _ _ active => absurd (inside editor active) List.not_mem_nil
  | cons place places ih =>
      by_cases here : session.stage.active = some place
      · exact (displaying dimmer dimmer).decorated_all places (of_decorated here)
      · refine ih fun editor active => ?_
        rw [Session.stage_of_same_surroundings (Session.decorated_surroundings _ _ _)] at active
        rcases List.mem_cons.1 (inside editor active) with rfl | later
        · exact absurd active here
        · exact later

theorem told_active (fresh : UpToDate dimmer session) (editor : Option Nat) (wiring : Nat) :
    UpToDate dimmer (session.toldActive editor wiring) := by
  unfold Session.toldActive
  split
  · exact fresh
  · exact (displaying dimmer _).decorated_one editor fresh

theorem told_document (fresh : UpToDate dimmer session) (document wiring : Nat) :
    UpToDate dimmer (session.toldDocument document wiring) := by
  unfold Session.toldDocument
  split
  · split
    · exact fresh.decorated _ _
    · exact fresh
  · exact fresh

section Told

variable {tell : Session → Nat → Session}
variable (harmless : ∀ session wiring, UpToDate dimmer session →
  UpToDate dimmer (tell session wiring))

include harmless

theorem after_told (fresh : UpToDate dimmer session) (wirings : List Nat) :
    UpToDate dimmer (wirings.foldl tell session) := by
  induction wirings generalizing session with
  | nil => exact fresh
  | cons wiring wirings ih => exact ih (harmless session wiring fresh)

/-- Where one wiring brings its dimmer up to date and the others do no harm, it is up to date
when all were told. -/
theorem of_told {wiring : Nat} {wirings : List Nat}
    (frame : ∀ session wiring, (tell session wiring).surroundings = session.surroundings)
    (brings : ∀ later, later.surroundings = session.surroundings →
      UpToDate dimmer (tell later wiring))
    (inside : wiring ∈ wirings) : UpToDate dimmer (wirings.foldl tell session) := by
  induction wirings generalizing session with
  | nil => exact absurd inside List.not_mem_nil
  | cons other rest ih =>
      rcases List.mem_cons.1 inside with rfl | later
      · exact after_told harmless (brings session rfl) rest
      · exact ih (fun after same => brings after (same.trans (frame session other))) later

end Told

end UpToDate

theorem told_surroundings {tell : Session → Nat → Session}
    (frame : ∀ session wiring, (tell session wiring).surroundings = session.surroundings)
    (wirings : List Nat) (session : Session) :
    (wirings.foldl tell session).surroundings = session.surroundings := by
  induction wirings generalizing session with
  | nil => rfl
  | cons wiring wirings ih => exact (ih _).trans (frame session wiring)

/-- A session whose wired dimmers are up to date, and which keeps them so. -/
structure Fresh (count : Nat) (session : Session) : Prop extends Connected count session where
  refreshing : ∀ dimmer entry, session.dimmer? dimmer = some entry →
    entry.afterRebuild = .updateAll
  inView : session.stage.ActiveInView
  upToDate : ∀ dimmer entry, session.dimmer? dimmer = some entry → entry.wiring ≠ none →
    UpToDate dimmer session

namespace Fresh

variable {count dimmer : Nat} {session later : Session}

theorem restaged (fresh : Fresh count session) {stage : Stage}
    (same : later.surroundings = { session with stage }.surroundings)
    (inView : later.stage.ActiveInView)
    (upToDate : ∀ dimmer entry, session.dimmer? dimmer = some entry → entry.wiring ≠ none →
      UpToDate dimmer later) : Fresh count later where
  toConnected := by
    have moved : Connected count { session with stage } :=
      fresh.toConnected.of_same rfl rfl rfl rfl fun _ => id
    exact moved.of_same_surroundings same
  refreshing := by
    intro dimmer entry found
    obtain ⟨old, known, -, after⟩ := Session.found_of_same_surroundings same found
    exact after.trans (fresh.refreshing dimmer old known)
  inView := inView
  upToDate := by
    intro dimmer entry found wired
    obtain ⟨old, known, wiring, -⟩ := Session.found_of_same_surroundings same found
    exact upToDate dimmer old known (wiring ▸ wired)

theorem of_same_surroundings (fresh : Fresh count session)
    (same : later.surroundings = session.surroundings)
    (upToDate : ∀ dimmer entry, session.dimmer? dimmer = some entry → entry.wiring ≠ none →
      UpToDate dimmer later) : Fresh count later := by
  refine fresh.restaged same ?_ upToDate
  rw [Session.stage_of_same_surroundings same]
  exact fresh.inView

theorem undressed (fresh : Fresh count session) (dimmer : Nat) :
    Fresh count (session.undressed dimmer) :=
  fresh.of_same_surroundings (Session.undressed_surroundings dimmer session)
    fun other entry found wired => (fresh.upToDate other entry found wired).undressed dimmer

theorem decorated (fresh : Fresh count session) (dimmer editor : Nat) :
    Fresh count (session.decorated dimmer editor) :=
  fresh.of_same_surroundings (Session.decorated_surroundings dimmer session editor)
    fun other entry found wired => (fresh.upToDate other entry found wired).decorated dimmer editor

theorem refreshed_up_to_date (refreshing : ∀ entry, session.dimmer? dimmer = some entry →
      entry.afterRebuild = .updateAll) (inView : session.stage.ActiveInView) :
    UpToDate dimmer (session.refreshed dimmer) := by
  unfold Session.refreshed
  split
  next missing =>
      exact UpToDate.of_bare (by rw [Session.decoration?, missing]; rfl)
  next entry found =>
      rw [refreshing entry found]
      exact UpToDate.of_decorated_all inView

theorem rebuilt (fresh : Fresh count session) (dimmer : Nat) (style : Style) :
    Fresh count (session.rebuilt dimmer style) := by
  apply fresh.of_same_surroundings (Session.rebuilt_surroundings dimmer session style)
  intro other entry found wired
  have bare := (fresh.upToDate other entry found wired).undressed dimmer
  unfold Session.rebuilt
  split
  · have same := (Session.dressed_surroundings dimmer (session.undressed dimmer) style).trans
      (Session.undressed_surroundings dimmer session)
    have refreshing : ∀ entry,
        ((session.undressed dimmer).dressed dimmer style).dimmer? dimmer = some entry →
        entry.afterRebuild = .updateAll := by
      intro entry found
      obtain ⟨old, known, -, after⟩ := Session.found_of_same_surroundings same found
      exact after.trans (fresh.refreshing dimmer old known)
    by_cases own : dimmer = other
    · subst own
      apply refreshed_up_to_date refreshing
      rw [Session.stage_of_same_surroundings same]
      exact fresh.inView
    · exact (UpToDate.displaying other dimmer).refreshed (bare.dressed_of_ne own style)
  · exact bare

theorem rewired (fresh : Fresh count session) (connected : Connected count later)
    (same : later.wardrobe = session.wardrobe)
    (kept : ∀ other entry, later.dimmer? other = some entry →
      ∃ old, session.dimmer? other = some old ∧ entry.afterRebuild = old.afterRebuild ∧
        (entry.wiring ≠ none → UpToDate other session)) : Fresh count later where
  toConnected := connected
  refreshing := by
    intro other entry found
    obtain ⟨old, known, after, -⟩ := kept other entry found
    exact after.trans (fresh.refreshing other old known)
  inView := by
    rw [Session.stage_of_same_wardrobe same]
    exact fresh.inView
  upToDate := by
    intro other entry found wired
    obtain ⟨-, -, -, upToDate⟩ := kept other entry found
    exact (upToDate wired).of_same_wardrobe same

theorem presented_up_to_date (dimmer : Nat) (session : Session) (style : Style) :
    UpToDate dimmer (session.presented dimmer style) :=
  UpToDate.of_decorated_active dimmer _

theorem presented (fresh : Fresh count session) (dimmer : Nat) (style : Style) :
    Fresh count (session.presented dimmer style) := by
  apply fresh.of_same_surroundings (Session.presented_surroundings dimmer session style)
  intro other entry found wired
  by_cases own : dimmer = other
  · subst own
    exact presented_up_to_date dimmer session style
  · have upToDate := fresh.upToDate other entry found wired
    unfold Session.presented
    apply (UpToDate.displaying other dimmer).decorated_one
    split
    · exact (upToDate.undressed dimmer).dressed_of_ne own style
    · exact upToDate

theorem activated (fresh : Fresh count session) {entry : Dimmer}
    (found : session.dimmer? dimmer = some entry) (style : Style) :
    Fresh count (session.activated dimmer style) := by
  have ready := fresh.presented dimmer style
  have known := fresh.toStaffed.known found
  apply ready.rewired (ready.toConnected.wired known) (Session.wired_wardrobe dimmer _)
  intro other entry found
  obtain ⟨old, known, after, wiring⟩ := Session.found_of_wired found
  refine ⟨old, known, after, fun wired => ?_⟩
  by_cases own : dimmer = other
  · subst own
    exact presented_up_to_date dimmer session style
  · exact ready.upToDate other old known (wiring own ▸ wired)

theorem deactivated (fresh : Fresh count session) (dimmer : Nat) :
    Fresh count (session.deactivated dimmer) := by
  have loose : Fresh count (session.unwired dimmer) := by
    refine fresh.rewired (fresh.toConnected.unwired dimmer)
      (Session.unwired_wardrobe dimmer session) fun other entry found => ?_
    obtain ⟨old, known, after, wiring⟩ := Session.found_of_unwired found
    refine ⟨old, known, after, fun wired => ?_⟩
    exact fresh.upToDate other old known (wiring wired ▸ wired)
  exact loose.undressed dimmer

theorem happened (fresh : Fresh count session) {event : Event} (quiet : event.isShowing = false) :
    Fresh count (session.after ⟨none, event⟩) :=
  fresh.of_same_surroundings rfl fun other entry found wired =>
    (fresh.upToDate other entry found wired).happened none quiet

theorem of_same (fresh : Fresh count session) (connected : Connected count later)
    (dimmers : later.dimmers = session.dimmers) (stage : later.stage = session.stage)
    (happenings : later.happenings = session.happenings) : Fresh count later where
  toConnected := connected
  refreshing := by
    unfold Session.dimmer?
    rw [dimmers]
    exact fresh.refreshing
  inView := by
    rw [stage]
    exact fresh.inView
  upToDate := by
    unfold UpToDate Session.decoration? Session.dimmer?
    rw [dimmers, stage, happenings]
    exact fresh.upToDate

theorem lasting (count : Nat) : Lasting count (Fresh count) where
  logged := fun _ fresh =>
    fresh.of_same (fresh.toConnected.of_same rfl rfl rfl rfl fun _ => id) rfl rfl rfl
  stored := fun _ fresh =>
    fresh.of_same (fresh.toConnected.of_same rfl rfl rfl rfl fun _ => id) rfl rfl rfl
  resettled := fun _ fresh =>
    fresh.of_same (fresh.toConnected.of_same rfl rfl rfl rfl fun _ => id) rfl rfl rfl
  defined := fun _ fresh =>
    fresh.of_same (fresh.toConnected.of_same rfl rfl rfl rfl fun _ => id) rfl rfl rfl
  remarked := by
    intro session event remark fresh
    cases event with
    | decorated => cases remark
    | _ => exact fresh.happened rfl
  heard := by
    intro session definition fresh
    have connected := fresh.toConnected.heard (.defined definition)
    obtain ⟨more, same, -⟩ := Session.heard_by_eq session (.defined definition)
    rw [same] at connected ⊢
    exact fresh.of_same connected rfl rfl rfl
  unheard := fun definition fresh =>
    fresh.of_same (fresh.toConnected.unheard definition) rfl rfl rfl
  staffed := fun fresh => fresh.staffed
  founded := fun fresh => fresh.founded _ _
  decorated := fun dimmer editor fresh => fresh.decorated dimmer editor
  rebuilt := fun _ _ fresh => fresh.rebuilt _ _
  activated := fun found _ _ fresh => fresh.activated found _
  deactivated := fun _ fresh => fresh.deactivated _
  undressed := fun dimmer fresh => fresh.undressed dimmer

theorem focused (fresh : Fresh count session) (editor : Option Nat)
    (inView : (session.focused editor).stage.ActiveInView) :
    Fresh count (session.focused editor) := by
  have frame (session : Session) (wiring : Nat) :
      (session.toldActive editor wiring).surroundings = session.surroundings :=
    session.told_active_surroundings editor wiring
  refine fresh.restaged (told_surroundings frame _ _) inView fun dimmer entry found wired => ?_
  obtain ⟨wiring, wired⟩ := Option.ne_none_iff_exists'.1 wired
  have following := fresh.connected found wired
  refine UpToDate.of_told (fun _ wiring fresh => fresh.told_active editor wiring) frame
    (fun later same => ?_) following.active
  have wirings := Session.wirings_of_same_surroundings same
  have active : later.stage.active = editor := by
    rw [Session.stage_of_same_surroundings same]
  unfold Session.toldActive
  rw [following.owner_of_wirings wirings, ← active]
  exact UpToDate.of_decorated_active dimmer later

theorem edited (fresh : Fresh count session) (editor : Nat) (text language : Option Text) :
    Fresh count (session.edited editor text language) := by
  unfold Session.edited
  split
  next => exact fresh
  next document _ =>
    have frame (session : Session) (wiring : Nat) :
        (session.toldDocument document wiring).surroundings = session.surroundings :=
      session.told_document_surroundings document wiring
    have harmless (dimmer : Nat) (session : Session) (wiring : Nat)
        (fresh : UpToDate dimmer session) :
        UpToDate dimmer (session.toldDocument document wiring) :=
      fresh.told_document document wiring
    have same := told_surroundings frame session.documentCallbacks
      { session with
        stage.documents := session.stage.documents.modify document fun old =>
          ⟨text.getD old.text, language.getD old.language⟩ }
    refine fresh.restaged same ?_ fun dimmer entry found wired => ?_
    · rw [Session.stage_of_same_surroundings same]
      exact fresh.inView
    by_cases affected : ∃ place, session.stage.active = some place ∧
        session.stage.editors[place]? = some document
    · obtain ⟨place, active, shown⟩ := affected
      obtain ⟨wiring, wired⟩ := Option.ne_none_iff_exists'.1 wired
      have following := fresh.connected found wired
      refine UpToDate.of_told (harmless dimmer) frame (fun later same => ?_) following.documents
      have wirings := Session.wirings_of_same_surroundings same
      have stage := Session.stage_of_same_surroundings same
      have active : later.stage.active = some place := stage ▸ active
      have shown : later.stage.editors[place]? = some document := stage ▸ shown
      unfold Session.toldDocument
      rw [following.owner_of_wirings wirings, active]
      dsimp only
      rw [if_pos shown]
      exact UpToDate.of_decorated active
    -- The active editor shows another document, so what it was told before still holds.
    · refine UpToDate.after_told (harmless dimmer) ?_ _
      intro handle place current worn active shown
      apply fresh.upToDate dimmer entry found wired handle place current worn active
      rw [← shown]
      unfold Stage.documentOf?
      dsimp only
      cases placed : session.stage.editors[place]? with
      | none => rfl
      | some other =>
          have apart : document ≠ other := fun same =>
            affected ⟨place, active, placed.trans (congrArg some same.symm)⟩
          exact (List.getElem?_modify_ne _ _ apart).symm

theorem joined (fresh : Fresh count session) : Fresh (count + 1) session.joined where
  toConnected := fresh.toConnected.joined
  refreshing := by
    intro dimmer entry found
    rcases Session.found_of_joined found with old | rfl
    · exact fresh.refreshing dimmer entry old
    · rfl
  inView := fresh.inView
  upToDate := by
    intro dimmer entry found wired
    rcases Session.found_of_joined found with old | rfl
    · intro handle editor document worn
      apply fresh.upToDate dimmer entry old wired handle editor document
      unfold Session.decoration? at worn ⊢
      rw [old]
      rw [found] at worn
      exact worn
    · exact absurd rfl wired

theorem start (disk : Disk) {stage : Stage} (inView : stage.ActiveInView) :
    Fresh 1 (Session.start disk stage) where
  toConnected := Connected.start disk stage
  refreshing := by
    intro dimmer entry found
    rw [List.mem_singleton.1 (List.mem_of_getElem? found)]
    rfl
  inView := inView
  upToDate := by
    intro dimmer entry found wired
    rw [List.mem_singleton.1 (List.mem_of_getElem? found)] at wired
    exact absurd rfl wired

end Fresh

namespace Operation

/-- What dimmers and the window do by themselves: the window tells of what happens, and
nobody reaches into a dimmer. -/
def isRegular : Operation → Bool
  | .edit _ _ _ announced | .focus _ announced => announced
  | .createStyle _ | .setAfterRebuild _ _ | .disposeWiring _ => false
  | _ => true

end Operation

namespace Fresh

variable {count : Nat} {session : Session}

theorem step {operation : Operation} (regular : operation.isRegular = true)
    (fresh : Fresh count session)
    (inView : (Session.step operation session).2.stage.ActiveInView) :
    ∃ count', Fresh count' (Session.step operation session).2 := by
  have lasting := lasting count
  by_cases known : session.knows operation = true
  · rw [Session.step_of_knows known] at inView ⊢
    cases operation with
    | newDimmer => exact ⟨count + 1, fresh.joined⟩
    | edit editor text language announced =>
        cases regular
        obtain ⟨logs, ran⟩ := run_of_yields
          (yields_bind_pure (edit_yields editor text language session) Outcome.done)
        refine ⟨count, ?_⟩
        rw [ofOperation, ran]
        exact lasting.logged logs (fresh.edited editor text language)
    | focus editor announced =>
        cases regular
        obtain ⟨logs, ran⟩ := run_of_yields
          (yields_bind_pure (focus_yields editor session) Outcome.done)
        refine ⟨count, ?_⟩
        rw [ofOperation, ran] at inView ⊢
        exact lasting.logged logs (fresh.focused editor inView)
    | setVisible editors =>
        refine ⟨count, fresh.restaged rfl inView fun dimmer entry found wired => ?_⟩
        exact fresh.upToDate dimmer entry found wired
    | createStyle | setAfterRebuild | disposeWiring => cases regular
    | _ => exact ⟨count, lasting.keeps_ordinary rfl session fresh known⟩
  · rw [Session.step_of_not_knows known]
    exact ⟨count, fresh⟩

end Fresh

/-- Along every regular run with the active editor in view, a dimmer that is switched on and
wears a decoration shows in the active editor what its document has now, whichever of the
operations fail. -/
theorem active_editor_never_stale (disk : Disk) (stage : Stage) (operations : List Operation)
    (regular : ∀ operation ∈ operations, operation.isRegular = true)
    (inView : stage.ActiveInView)
    (staysInView : ∀ result ∈ (Session.start disk stage).run operations,
      result.2.stage.ActiveInView) :
    ∀ result ∈ (Session.start disk stage).run operations,
    ∀ dimmer entry handle editor document, result.2.dimmer? dimmer = some entry →
      entry.wiring ≠ none → entry.decoration = some handle →
      result.2.stage.active = some editor → result.2.stage.documentOf? editor = some document →
      lastShown editor handle result.2.happenings = some document.statements := by
  have advance (operation : Operation) (session : Session) (regular : operation.isRegular = true)
      (fresh : ∃ count, Fresh count session)
      (inView : (Session.step operation session).2.stage.ActiveInView) :
      ∃ count, Fresh count (Session.step operation session).2 := by
    obtain ⟨count, fresh⟩ := fresh
    exact fresh.step regular inView
  have kept := @Session.run_keeps _ (fun operation => operation.isRegular = true)
    (fun result => result.2.stage.ActiveInView) advance _ ⟨1, Fresh.start disk inView⟩
    operations regular staysInView
  intro result reached dimmer entry handle editor document found wired worn
  obtain ⟨count, fresh⟩ := kept result reached
  apply fresh.upToDate dimmer entry found wired handle editor document
  rw [Session.decoration?, found]
  exact worn

/-- Edited while it is active, an editor shows the statement that it has got. -/
theorem active_editor_fresh_when_edited :
    ∃ result ∈ (Session.start .absent ⟨[⟨[], "plaintext"⟩], [0], some 0, [0]⟩).run
        [.activate 0, .edit 0 (some "log.info(1)") none true],
      lastShown 0 1 result.2.happenings =
        some (Document.statements ⟨"log.info(1)", "plaintext"⟩) := by
  refine ⟨_, List.mem_cons_of_mem _ List.mem_cons_self, ?_⟩
  refine active_editor_never_stale .absent ⟨[⟨[], "plaintext"⟩], [0], some 0, [0]⟩
    [.activate 0, .edit 0 (some "log.info(1)") none true] (by decide) (by decide)
    (by decide +kernel) _ (List.mem_cons_of_mem _ List.mem_cons_self) 0 (Option.get _ ?_) 1 0 _
    (Option.some_get _).symm ?_ ?_ ?_ ?_
  all_goals decide +kernel

end Dimming
