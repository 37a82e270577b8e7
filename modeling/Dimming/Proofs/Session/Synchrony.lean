import Dimming.Proofs.Session.Handles

/-!
# Style and settings

With one dimmer, while it is switched on, it wears the style that the settings describe if
dimming is on, and nothing if dimming is off. A saved opacity is followed through the wiring;
the other settings are saved by commands, which build the style anew themselves.
-/

set_option autoImplicit false

namespace Dimming

open Dimming.Action

namespace Fault

def isListeners : Fault → Bool
  | .raised _ | .unknownListener _ => true
  | _ => false

end Fault

def blamesListener : Except Fault Outcome → Bool
  | .error fault => fault.isListeners
  | .ok _ => false

/-- A session whose dimmer is bare while dimming is off, and wears what the settings describe
while it is on, as long as the dimmer is wired. -/
structure InStep (session : Session) : Prop extends Connected 1 session where
  bare : session.settings.enabled = false → session.decoration? 0 = none
  dressed : ∀ entry, session.dimmer? 0 = some entry → entry.wiring ≠ none →
    session.settings.enabled = true →
    ∃ style, session.settings.style = .ok style ∧ entry.style = some style

namespace InStep

variable {session later : Session}

theorem of_same (inStep : InStep session) (connected : Connected 1 later)
    (dimmers : later.dimmers = session.dimmers) (settings : later.settings = session.settings) :
    InStep later where
  toConnected := connected
  bare := by
    unfold Session.decoration? Session.dimmer?
    rw [dimmers, settings]
    exact inStep.bare
  dressed := by
    unfold Session.dimmer?
    rw [dimmers, settings]
    exact inStep.dressed

theorem of_rebuilt (connected : Connected 1 session) {style : Style}
    (described : session.settings.style = .ok style) : InStep (session.rebuilt 0 style) := by
  have same := Session.rebuilt_surroundings 0 session style
  have settings := Session.settings_of_same_surroundings same
  refine ⟨connected.of_same_surroundings same, fun off => ?_, fun entry found _ on => ?_⟩
  · rw [settings] at off
    unfold Session.rebuilt
    rw [off]
    exact Session.decoration_undressed_self 0 session
  · rw [settings] at on ⊢
    unfold Session.rebuilt at found
    rw [on, if_pos rfl] at found
    unfold Session.dimmer? at found
    rw [Session.refreshed_dimmers] at found
    obtain ⟨old, -, rfl⟩ := Session.found_of_modify_self found
    exact ⟨style, described, rfl⟩

theorem activated {entry : Dimmer} {style : Style} (inStep : InStep session)
    (found : session.dimmer? 0 = some entry) (described : session.settings.style = .ok style) :
    InStep (session.activated 0 style) := by
  have same : (session.activated 0 style).wardrobe = (session.presented 0 style).wardrobe :=
    Session.wired_wardrobe 0 _
  have settings := Session.activated_settings 0 session style
  refine ⟨inStep.toConnected.activated found style, fun off => ?_, fun entry found _ on => ?_⟩
  · rw [settings] at off
    rw [Session.decoration_of_same_wardrobe same]
    unfold Session.presented Session.decoration? Session.dimmer?
    rw [off, Session.decorated_one_dimmers]
    exact inStep.bare off
  · rw [settings] at on ⊢
    obtain ⟨old, known, -, worn⟩ := Session.found_of_same_wardrobe same found
    unfold Session.presented Session.dimmer? at known
    rw [on, Session.decorated_one_dimmers] at known
    obtain ⟨older, -, rfl⟩ := Session.found_of_modify_self known
    exact ⟨style, described, worn⟩

theorem deactivated (inStep : InStep session) : InStep (session.deactivated 0) where
  toConnected := inStep.toConnected.deactivated 0
  bare := fun _ => Session.decoration_undressed_self 0 _
  dressed := by
    intro entry found wired
    obtain ⟨old, known, wiring, -⟩ := Session.found_of_same_surroundings
      (Session.undressed_surroundings 0 (session.unwired 0)) found
    rw [wiring] at wired
    exact absurd (Session.wiring_of_unwired known) wired

theorem closed : Closed 1 InStep where
  logged := fun _ inStep => inStep.of_same ((Connected.lasting 1).logged _ inStep.toConnected) rfl rfl
  stored := fun _ inStep => inStep.of_same ((Connected.lasting 1).stored _ inStep.toConnected) rfl rfl
  defined := fun _ inStep =>
    inStep.of_same ((Connected.lasting 1).defined _ inStep.toConnected) rfl rfl
  remarked := fun remark inStep =>
    inStep.of_same ((Connected.lasting 1).remarked remark inStep.toConnected) rfl rfl
  heard := by
    intro session definition inStep
    have connected := inStep.toConnected.heard (.defined definition)
    obtain ⟨more, same, -⟩ := Session.heard_by_eq session (.defined definition)
    rw [same] at connected ⊢
    exact inStep.of_same connected rfl rfl
  unheard := fun definition inStep =>
    inStep.of_same (inStep.toConnected.unheard definition) rfl rfl
  staffed := fun inStep => inStep.staffed
  founded := fun inStep => inStep.founded _ _
  decorated := fun dimmer editor inStep =>
    have same := Session.decorated_surroundings dimmer _ editor
    inStep.of_same (inStep.toConnected.of_same_surroundings same)
      (Session.decorated_dimmers dimmer _ editor) (Session.settings_of_same_surroundings same)
  rebuilt := by
    intro session dimmer style known described inStep
    obtain rfl := Nat.lt_one_iff.1 known
    exact of_rebuilt inStep.toConnected described
  activated := by
    intro session dimmer entry style found _ described inStep
    obtain rfl := Nat.lt_one_iff.1 (inStep.toStaffed.known found)
    exact inStep.activated found described
  deactivated := by
    intro session dimmer known inStep
    obtain rfl := Nat.lt_one_iff.1 known
    exact inStep.deactivated

end InStep

namespace Action

theorem perform_stops (action : ListenerAction) :
    Leads (fun _ => True) (perform action) (fun _ => True)
      (fun fault _ => fault.isListeners = true) := by
  intro session _
  cases action with
  | raise text => exact rfl
  | remove name | add name =>
      unfold perform
      rcases find_listener_cases name session with ⟨definition, found⟩ | missing
      · rw [run_bind_of_ok found]
        exact trivial
      · rw [run_bind_of_error missing]
        exact rfl

theorem deliver_stops (change : Change) (listener : Listener) :
    Leads (fun _ => True) (deliver change listener) (fun _ => True)
      (fun fault _ => fault.isListeners = true) := by
  intro session _
  cases listener with
  | wiring wiring =>
      obtain ⟨later, yields, -⟩ := configuration_changed_yields change wiring session
      obtain ⟨logs, ran⟩ := run_of_yields yields
      unfold deliver
      rw [ran]
      exact trivial
  | defined definition =>
      unfold deliver
      rw [run_get_bind]
      cases session.definitions[definition]? with
      | none => exact trivial
      | some listener =>
          exact leads_for_each listener.actions (fun action _ => perform_stops action) _ trivial

theorem deliver_leads {holds : Session → Prop} {change : Change} {listener : Listener}
    (kept : Keeps holds (deliver change listener)) :
    Leads holds (deliver change listener) holds (fun fault _ => fault.isListeners = true) := by
  intro session held
  have later := kept session held
  have stops := deliver_stops change listener session trivial
  revert later stops
  rcases (deliver change listener).run session with ⟨fault | value, later⟩
  · exact fun _ stops => stops
  · exact fun later _ => later

theorem notify_leads {holds : Session → Prop} {change : Change}
    (kept : ∀ listener, Keeps holds (deliver change listener)) :
    Leads holds (notify change) holds (fun fault _ => fault.isListeners = true) :=
  fun session => leads_for_each session.listeners
    (fun listener _ => deliver_leads (kept listener)) session

theorem dimmer_of_indifferent (wiring dimmer : Nat) :
    Indifferent fun session => dimmerOf? session wiring = some dimmer where
  logged := fun _ found => found
  defined := fun _ found => found
  remarked := fun _ found => found
  heard := by
    intro session definition found
    obtain ⟨more, same, -⟩ := Session.heard_by_eq session (.defined definition)
    rw [same]
    exact found
  unheard := fun _ found => found

theorem keeps_dimmer_of (change : Change) (wiring dimmer : Nat) (listener : Listener) :
    Keeps (fun session => dimmerOf? session wiring = some dimmer) (deliver change listener) := by
  refine (dimmer_of_indifferent wiring dimmer).keeps_deliver (fun told session found => ?_) listener
  obtain ⟨later, yields, same⟩ := configuration_changed_yields change told session
  obtain ⟨logs, ran⟩ := run_of_yields yields
  rw [ran]
  unfold dimmerOf? at found ⊢
  dsimp only
  rw [Session.wirings_of_same_surroundings same]
  exact found

end Action

namespace InStep

/-- Where an operation may stop: anywhere by the fault of a listener, and else in step. -/
def Stopped (fault : Fault) (session : Session) : Prop :=
  fault.isListeners = true ∨ InStep session

theorem told {change : Change} (wiring : Nat)
    (affects : change.affects (Change.fullKey Settings.opacityKey) = true) :
    Leads (fun session => Connected 1 session ∧ dimmerOf? session wiring = some 0)
      (deliver change (.wiring wiring)) InStep (fun fault _ => fault.isListeners = true) := by
  rintro session ⟨connected, owned⟩
  obtain ⟨style, described⟩ := session.settings.style_exists
  obtain ⟨logs, ran⟩ := run_of_yields (configuration_changed_rebuilds affects owned described)
  unfold deliver
  rw [ran]
  have inStep := of_rebuilt connected described
  have same := Session.decorated_all_surroundings 0 (session.rebuilt 0 style)
    (session.rebuilt 0 style).stage.visible
  exact closed.logged logs (inStep.of_same (inStep.toConnected.of_same_surroundings same)
    (Session.decorated_all_dimmers 0 _ _) (Session.settings_of_same_surroundings same))

/-- Once all listeners were told of another opacity, the dimmer is in step: if it is wired, its
wiring was among them. -/
theorem notified {change : Change}
    (affects : change.affects (Change.fullKey Settings.opacityKey) = true) :
    Leads
      (fun session => Connected 1 session ∧
        ((session.dimmer? 0).bind (·.wiring) = none → InStep session))
      (notify change) InStep (fun fault _ => fault.isListeners = true) := by
  rintro session ⟨connected, unwired⟩
  have keeps (listener : Listener) : Keeps InStep (deliver change listener) :=
    closed.keeps_deliver (closed.keeps_configuration_changed change) listener
  have connects (listener : Listener) : Keeps (Connected 1) (deliver change listener) :=
    (Connected.lasting 1).keeps_deliver
      ((Connected.lasting 1).keeps_configuration_changed change) listener
  cases wired : (session.dimmer? 0).bind (·.wiring) with
  | none => exact notify_leads keeps session (unwired wired)
  | some wiring =>
      obtain ⟨entry, found, wired⟩ := Option.bind_eq_some_iff.1 wired
      have following := connected.connected found wired
      -- The wiring is among the listeners. Those before it must not let go of it, and those after
      -- it must not spoil what it has done.
      unfold notify
      rw [run_get_bind]
      refine leads_of_one following.settings (fun listener _ => ?_) (fun listener _ => ?_)
        (told wiring affects) session ⟨connected, following.owner_of_wirings rfl⟩
      · exact deliver_leads
          (keeps_and (connects listener) (keeps_dimmer_of change wiring 0 listener))
      · exact deliver_leads (keeps listener)

theorem save_opacity_leads (value : Json) :
    Leads InStep (saveOpacity value) InStep Stopped := by
  intro session inStep
  unfold saveOpacity
  rcases save_cases Settings.opacityKey value session with
    ⟨fault, disk, -, failed⟩ | ⟨disk, logs, -, saved⟩
  · rw [failed]
    exact Or.inr (closed.stored disk inStep)
  · have affects : (Change.ofKeys [Settings.opacityKey]).affects
        (Change.fullKey Settings.opacityKey) = true := by decide
    have apart : Settings.opacityKey ≠ Settings.enabledKey := by decide
    have connected : Connected 1
        { session with disk, settings := session.settings.put Settings.opacityKey value, logs } :=
      inStep.toConnected.of_same rfl rfl rfl rfl fun _ => id
    have told := notified affects _ ⟨connected, fun unwired => ⟨connected, fun off => ?_, ?_⟩⟩
    · rw [saved]
      revert told
      rcases (notify (Change.ofKeys [Settings.opacityKey])).run _ with ⟨fault | value, later⟩
      · exact Or.inl
      · exact id
    · exact inStep.bare ((Settings.enabled_put_of_ne apart value session.settings).symm.trans off)
    · intro entry found wired
      rw [found] at unwired
      exact absurd unwired wired

theorem save_leads (key : Text) (value : Json) :
    Leads InStep (save key value) (Connected 1) Stopped := by
  intro session inStep
  rcases save_cases key value session with ⟨fault, disk, -, failed⟩ | ⟨disk, logs, -, saved⟩
  · rw [failed]
    exact Or.inr (closed.stored disk inStep)
  · have connected : Connected 1
        { session with disk, settings := session.settings.put key value, logs } :=
      inStep.toConnected.of_same rfl rfl rfl rfl fun _ => id
    have lasting := Connected.lasting 1
    have told := notify_leads
      (lasting.keeps_deliver (lasting.keeps_configuration_changed (Change.ofKeys [key]))) _ connected
    rw [saved]
    revert told
    rcases (notify (Change.ofKeys [key])).run _ with ⟨fault | value, later⟩
    · exact Or.inl
    · exact id

section Commands

theorem rebuild_leads : Leads (Connected 1) (rebuild 0) InStep Stopped := by
  intro session connected
  obtain ⟨style, described⟩ := session.settings.style_exists
  obtain ⟨logs, ran⟩ := run_of_yields (rebuild_yields 0 described)
  rw [ran]
  exact closed.logged logs (of_rebuilt connected described)

theorem leads_of_kept {Value : Type} {action : Action Value} (kept : Keeps InStep action) :
    Leads InStep action InStep Stopped :=
  leads_of_keeps kept fun _ _ => Or.inr

theorem toggle_leads : Leads InStep (toggle 0) InStep Stopped := by
  unfold toggle
  refine leads_bind (leads_of_kept (closed.keeps_read_setting _)) fun enabled => ?_
  refine leads_bind (save_leads _ _) fun _ => ?_
  refine leads_bind rebuild_leads fun _ => leads_of_kept ?_
  exact keeps_bind (closed.keeps_emit rfl) fun _ => closed.keeps_note _ _ _

theorem change_color_leads (picked : Option Choice) :
    Leads InStep (changeColor 0 picked) InStep Stopped := by
  unfold changeColor
  refine leads_bind (leads_of_kept (closed.keeps_read_setting _)) fun enabled => ?_
  split
  · refine leads_bind (leads_of_kept (closed.keeps_emit rfl)) fun _ => ?_
    dsimp only
    split
    · exact leads_of_kept (keeps_pure _)
    · have saves (value : Json) : Leads InStep (saveColor value) (Connected 1) Stopped := by
        unfold saveColor
        split
        · exact save_leads _ _
        · exact fun _ => Or.inr
      refine leads_bind (saves _) fun _ => ?_
      refine leads_bind rebuild_leads fun _ => leads_of_kept ?_
      exact keeps_bind (closed.keeps_emit rfl) fun _ => closed.keeps_note _ _ _
  · exact leads_of_kept (closed.keeps_emit rfl)

theorem change_opacity_leads (typing : Typing) :
    Leads InStep (changeOpacity 0 typing) InStep Stopped := by
  unfold changeOpacity
  refine leads_bind (leads_of_kept (closed.keeps_read_setting _)) fun current => ?_
  refine leads_bind (leads_of_kept (closed.keeps_ask _ _)) fun typed => ?_
  dsimp only
  split
  · exact leads_of_kept (keeps_pure _)
  · refine leads_bind (leads_of_kept ?_) fun opacity => ?_
    · cases Double.ofText (typed.getD []) with
      | ok number => exact keeps_pure _
      | error fault => exact keeps_throw _
    · refine leads_bind (save_leads _ _) fun _ => ?_
      refine leads_bind rebuild_leads fun _ => leads_of_kept ?_
      refine keeps_bind (closed.keeps_update_all 0) fun _ => ?_
      exact keeps_bind (closed.keeps_emit rfl) fun _ => closed.keeps_note _ _ _

end Commands

end InStep

namespace Operation

/-- What the user, the window and the settings file do. A command saves the settings, or the
opacity is saved past it, and nobody puts a style on a dimmer or takes it off by hand. -/
def isEveryday : Operation → Bool
  | .activate _ | .deactivate _ | .toggle _ | .changeOpacity _ _ | .changeColor _ _ => true
  | .saveOpacity _ | .readSettings | .buildStyle | .changeDisk _ => true
  | .edit _ _ _ _ | .editElsewhere | .focus _ _ | .setVisible _ => true
  | .updateOne _ _ | .updateAll _ | .decorateActive _ => true
  | .defineListener _ _ | .addListener _ | .removeListener _ => true
  | _ => false

end Operation

namespace InStep

variable {session : Session}

theorem step {operation : Operation} (everyday : operation.isEveryday = true)
    (inStep : InStep session)
    (unharmed : blamesListener (Session.step operation session).1 = false) :
    InStep (Session.step operation session).2 := by
  by_cases known : session.knows operation = true
  · unfold Session.step at unharmed ⊢
    rw [if_pos known] at unharmed ⊢
    have reached (leads : Leads InStep (ofOperation operation) InStep Stopped) :
        InStep ((ofOperation operation).run session).2 := by
      have later := leads session inStep
      revert later unharmed
      rcases (ofOperation operation).run session with ⟨fault | outcome, later⟩
      · intro unharmed stopped
        rcases stopped with blamed | inStep
        · cases blamed.symm.trans unharmed
        · exact inStep
      · exact fun _ inStep => inStep
    have done {act : Action Unit} (leads : Leads InStep act InStep Stopped) :
        Leads InStep (act >>= fun _ => pure Outcome.done) InStep Stopped :=
      leads_bind leads fun _ => leads_of_kept (keeps_pure _)
    have concerned {dimmer : Nat} (same : operation.dimmer? = some dimmer) : dimmer = 0 :=
      Nat.lt_one_iff.1 (closed.known_of_knows inStep same known)
    cases operation with
    | toggle dimmer =>
        obtain rfl := concerned rfl
        exact reached (done toggle_leads)
    | changeOpacity dimmer typing =>
        obtain rfl := concerned rfl
        exact reached (done (change_opacity_leads typing))
    | changeColor dimmer picked =>
        obtain rfl := concerned rfl
        exact reached (done (change_color_leads picked))
    | saveOpacity value => exact reached (done (save_opacity_leads value))
    | edit | focus | setVisible =>
        refine closed.keeps_staging (fun stage inStep => ?_) rfl session inStep
        exact inStep.of_same (inStep.toConnected.of_same rfl rfl rfl rfl fun _ => id) rfl rfl
    -- A colour or the switch that is saved by hand changes what the settings describe, and nobody
    -- builds the style anew.
    | newDimmer | saveColor | saveEnabled | readFresh | createStyle | disposeStyle => cases everyday
    | rebuild | setAfterRebuild | configurationChanged | disposeWiring => cases everyday
    | _ => exact closed.keeps_quiet rfl session inStep known
  · unfold Session.step
    rw [if_neg known]
    exact inStep

theorem start (disk : Disk) (stage : Stage) : InStep (Session.start disk stage) where
  toConnected := Connected.start disk stage
  bare := fun _ => rfl
  dressed := by
    intro entry found wired
    rw [List.mem_singleton.1 (List.mem_of_getElem? found)] at wired
    exact absurd rfl wired

end InStep

/-- Along every run of everyday operations from any settings file, as long as none stops by the
fault of a listener that others have defined, a dimmer that is switched on wears the style that
would be built now if dimming is on, and nothing at all if it is off. -/
theorem style_in_step_along_run (disk : Disk) (stage : Stage) (operations : List Operation)
    (everyday : ∀ operation ∈ operations, operation.isEveryday = true)
    (unharmed : ∀ result ∈ (Session.start disk stage).run operations,
      blamesListener result.1 = false) :
    ∀ result ∈ (Session.start disk stage).run operations,
    ∀ entry, result.2.dimmer? 0 = some entry → entry.wiring ≠ none →
      (result.2.settings.enabled = true →
        ∃ style, (buildStyle.run result.2).1 = .ok style ∧ entry.style = some style) ∧
      (result.2.settings.enabled = false → entry.style = none ∧ entry.decoration = none) := by
  -- Being in step says nothing about the style of a dimmer without a decoration. That there is
  -- none is known from the handles, so the two invariants are carried along together.
  have advance (operation : Operation) (session : Session)
      (everyday : operation.isEveryday = true)
      (held : InStep session ∧ ∃ count, Tidy count session)
      (unharmed : blamesListener (Session.step operation session).1 = false) :
      InStep (Session.step operation session).2 ∧
        ∃ count, Tidy count (Session.step operation session).2 := by
    obtain ⟨inStep, count, tidy⟩ := held
    exact ⟨inStep.step everyday unharmed, tidy.step operation⟩
  have kept := @Session.run_keeps _ (fun operation => operation.isEveryday = true)
    (fun result => blamesListener result.1 = false) advance _
    ⟨InStep.start disk stage, 1, Tidy.start disk stage⟩ operations everyday unharmed
  intro result reached entry found wired
  obtain ⟨inStep, count, tidy⟩ := kept result reached
  refine ⟨fun on => ?_, fun off => ?_⟩
  · obtain ⟨style, described, worn⟩ := inStep.dressed entry found wired on
    obtain ⟨logs, built⟩ := run_of_yields (build_style_yields described)
    exact ⟨style, congrArg Prod.fst built, worn⟩
  · have bare : entry.decoration = none := by
      have bare := inStep.bare off
      rw [Session.decoration?, found] at bare
      exact bare
    exact ⟨(tidy.paired 0 entry found).1 bare, bare⟩

/-- After a save that failed and one that went well, the dimmer wears what would be built. -/
theorem style_in_step_when_saved :
    ∃ result ∈ (Session.start .blocked ⟨[], [], none, []⟩).run
        [.activate 0, .saveOpacity (.number (.int 40)), .changeDisk .remove,
          .saveOpacity (.number (.int 70))],
      ∃ entry style, result.2.dimmer? 0 = some entry ∧ (buildStyle.run result.2).1 = .ok style ∧
        entry.style = some style := by
  have reached := List.mem_of_getElem? (l := (Session.start .blocked ⟨[], [], none, []⟩).run
    [.activate 0, .saveOpacity (.number (.int 40)), .changeDisk .remove,
      .saveOpacity (.number (.int 70))]) (i := 3) rfl
  have inStep := style_in_step_along_run .blocked ⟨[], [], none, []⟩
    [.activate 0, .saveOpacity (.number (.int 40)), .changeDisk .remove,
      .saveOpacity (.number (.int 70))]
    (by decide) (by decide +kernel) _ reached (Option.get _ (by decide +kernel))
    (Option.some_get _).symm (by decide +kernel)
  obtain ⟨style, built, worn⟩ := inStep.1 (by decide +kernel)
  exact ⟨_, reached, _, style, (Option.some_get _).symm, built, worn⟩

end Dimming
