import Dimming.Proofs.Session.Storage

/-!
# Errands of the commands

A command asks its questions first. Then it stops, or it has one setting to save; once that is
done it builds the style anew, decorates and confirms. Whatever can be refused is refused at the
latest by the save itself, so a refused command has done nothing but ask, and at most it leaves an
empty folder where there was none.
-/

set_option autoImplicit false

namespace Dimming

open Dimming.Action

namespace Event

/-- A question to the user, or what is said about an answer to it. -/
def isQuestion : Event → Bool
  | .asked _ _ | .refused _ _ | .offered _ _ => true
  | _ => false

end Event

/-- A session that differs from an earlier one in nothing but questions and log lines. -/
def OnlyAsked (session later : Session) : Prop :=
  ∃ asked logs, later = { session with happenings := asked ++ session.happenings, logs } ∧
    ∀ happening ∈ asked, happening.event.isQuestion = true

/-- What a command has to save for a dimmer, whether it decorates all editors once more when the
style has been built anew, what it tells the user at the end and what it notes down. -/
structure Errand where
  dimmer : Nat
  key : Text
  value : Json
  decorates : Bool
  message : Text
  remark : Text

namespace Errand

def ofToggle (dimmer : Nat) (enabled : Bool) : Errand :=
  let state : Text := if enabled then "enabled" else "disabled"
  { dimmer
    key := Settings.enabledKey
    value := .bool enabled
    decorates := false
    message := "Logs dimming " ++ state
    remark := "Log dimming " ++ state }

def ofOpacity (dimmer : Nat) (opacity : Double) : Errand where
  dimmer := dimmer
  key := Settings.opacityKey
  value := .number (.double opacity)
  decorates := true
  message := "Logs opacity set to " ++ Opacity.display (.double opacity) ++ "%"
  remark := "Changed log opacity to " ++ opacity.toText

def ofColor (dimmer : Nat) (color : Text) : Errand where
  dimmer := dimmer
  key := Settings.colorKey
  value := .string color
  decorates := false
  message := "Log color set to " ++ Color.label color
  remark := "Changed log color to " ++ color

def finish (errand : Errand) : Action Unit := do
  rebuild errand.dimmer
  if errand.decorates then updateAll errand.dimmer
  emit (.told errand.message)
  note .info "commands" errand.remark

def act (errand : Errand) : Action Unit := do
  save errand.key errand.value
  errand.finish

end Errand

namespace Fault

/-- What was given is no value for the setting, or there is no way to keep it. -/
def isRefusal : Fault → Bool
  | .cannotSave _ | .invalidColor _ | .number (.notDecimal _) => true
  | _ => false

theorem not_listeners_of_refusal {fault : Fault} (refusal : fault.isRefusal = true) :
    fault.isListeners = false := by
  cases fault with
  | cannotSave | invalidColor | number => rfl
  | _ => cases refusal

end Fault

/-- Whether an operation failed because of what was to be saved. -/
def wasRefused : Except Fault Outcome → Bool
  | .ok _ => false
  | .error fault => fault.isRefusal

namespace Operation

def isCommand : Operation → Bool
  | .toggle _ | .changeOpacity _ _ | .changeColor _ _ => true
  | _ => false

/-- The errand of a command; none if it has nothing to save, or nothing that can be saved. -/
def errand? (settings : Settings) : Operation → Option Errand
  | .toggle dimmer => some (.ofToggle dimmer !settings.enabled)
  | .changeOpacity dimmer typing =>
      let typed := typing.accepted.getD []
      if typed.isEmpty then none
      else match Double.ofText typed with
        | .ok opacity => some (.ofOpacity dimmer opacity)
        | .error _ => none
  | .changeColor dimmer picked =>
      let color := (picked.map (·.value)).getD []
      if settings.enabled then
        if color.isEmpty then none
        else if Color.isValidText color then some (.ofColor dimmer color)
        else none
      else none
  | _ => none

end Operation

namespace Session

variable (errand : Errand) (style : Style) (session : Session)

/-- The style of the errand's dimmer is built anew and shown. -/
def restyled : Session :=
  let rebuilt := session.rebuilt errand.dimmer style
  if errand.decorates then rebuilt.decoratedAll errand.dimmer rebuilt.stage.visible else rebuilt

def finished : Session := (session.restyled errand style).after ⟨none, .told errand.message⟩

end Session

section Asking

variable {session later : Session}

theorem OnlyAsked.refl (session : Session) (logs : List LogLine) :
    OnlyAsked session { session with logs } :=
  ⟨[], logs, rfl, fun _ absent => absurd absent List.not_mem_nil⟩

theorem OnlyAsked.happened (only : OnlyAsked session later) {event : Event}
    (question : event.isQuestion = true) : OnlyAsked session (later.after ⟨none, event⟩) := by
  obtain ⟨asked, logs, rfl, questions⟩ := only
  exact ⟨⟨none, event⟩ :: asked, logs, rfl, List.forall_mem_cons.2 ⟨question, questions⟩⟩

theorem OnlyAsked.logged (only : OnlyAsked session later) (logs : List LogLine) :
    OnlyAsked session { later with logs } := by
  obtain ⟨asked, -, rfl, questions⟩ := only
  exact ⟨asked, logs, rfl, questions⟩

theorem emit_yields (event : Event) (session : Session) :
    Yields (emit event) session () (session.after ⟨none, event⟩) :=
  fun logs => ⟨logs, rfl⟩

theorem ask_yields (typing : Typing) (prefilled : Text) (session : Session) :
    ∃ later, Yields (ask typing prefilled) session typing.accepted later ∧
      OnlyAsked session later := by
  let refuse (session : Session) (entry : Text × Opacity.Problem) : Session :=
    session.after ⟨none, .refused entry.1 entry.2⟩
  have refusing (entries : List (Text × Opacity.Problem)) (later : Session)
      (only : OnlyAsked session later) : OnlyAsked session (entries.foldl refuse later) := by
    induction entries generalizing later with
    | nil => exact only
    | cons entry entries ih => exact ih _ (only.happened rfl)
  let question : Event := .asked Prompt.opacity prefilled
  have asked : OnlyAsked session (session.after ⟨none, question⟩) :=
    (OnlyAsked.refl session session.logs).happened rfl
  refine ⟨_, ?_, refusing typing.refused _ asked⟩
  apply yields_bind (emit_yields question session)
  apply yields_bind_pure
  exact yields_for_each (fun entry session => emit_yields _ session) _ _

end Asking

section Commands

variable (dimmer : Nat) (session : Session)

theorem toggle_runs : ∃ logs, (toggle dimmer).run session =
    (Errand.ofToggle dimmer !session.settings.enabled).act.run { session with logs } := by
  obtain ⟨logs, read⟩ := run_of_yields (read_setting_yields Settings.readEnabled session)
  exact ⟨logs, run_bind_of_ok read⟩

theorem change_opacity_runs (typing : Typing) :
    ∃ asking, OnlyAsked session asking ∧ (changeOpacity dimmer typing).run session =
      (if (typing.accepted.getD []).isEmpty then pure ()
        else do
          let opacity ← ofNumber (Double.ofText (typing.accepted.getD []))
          (Errand.ofOpacity dimmer opacity).act).run asking := by
  obtain ⟨logs, read⟩ := run_of_yields (read_setting_yields Settings.readOpacity session)
  obtain ⟨later, asks, only⟩ := ask_yields typing (Opacity.display session.settings.opacity) session
  obtain ⟨others, asked⟩ := asks logs
  refine ⟨{ later with logs := others }, only.logged others, ?_⟩
  exact (run_bind_of_ok read).trans (run_bind_of_ok asked)

theorem change_color_runs (picked : Option Choice) (on : session.settings.enabled = true) :
    ∃ asking, OnlyAsked session asking ∧ (changeColor dimmer picked).run session =
      (if ((picked.map (·.value)).getD []).isEmpty then pure ()
        else if Color.isValidText ((picked.map (·.value)).getD []) then
          (Errand.ofColor dimmer ((picked.map (·.value)).getD [])).act
        else throw (.invalidColor (.string ((picked.map (·.value)).getD [])))).run asking := by
  obtain ⟨logs, read⟩ := run_of_yields (read_setting_yields Settings.readEnabled session)
  let offer : Event := .offered Prompt.color Color.palette.length
  have offered : (emit offer).run { session with logs } =
      (.ok (), Session.after { session with logs } ⟨none, offer⟩) := rfl
  refine ⟨Session.after _ ⟨none, offer⟩, (OnlyAsked.refl session logs).happened rfl, ?_⟩
  unfold changeColor
  rw [run_bind_of_ok read, if_pos (show session.settings.readEnabled.1 = true from on)]
  refine (run_bind_of_ok offered).trans ?_
  generalize (picked.map (·.value)).getD [] = color
  dsimp only
  split
  next => rfl
  next =>
    unfold saveColor Color.isValid
    dsimp only
    split
    · rfl
    · rfl

theorem change_color_idle (picked : Option Choice) (off : session.settings.enabled = false) :
    ∃ logs, (changeColor dimmer picked).run session =
      (.ok (), { session.after ⟨none, .told disabledMessage⟩ with logs }) := by
  obtain ⟨logs, read⟩ := run_of_yields (read_setting_yields Settings.readEnabled session)
  refine ⟨logs, ?_⟩
  unfold changeColor
  rw [run_bind_of_ok read, show session.settings.readEnabled.1 = false from off]
  rfl

end Commands

/-- Only commands have errands, for their own dimmer, with a sound value for a setting that the
program knows. -/
theorem errand_facts {operation : Operation} {settings : Settings} {errand : Errand}
    (found : operation.errand? settings = some errand) :
    operation.isCommand = true ∧ operation.dimmer? = some errand.dimmer ∧
      Settings.isKnown errand.key = true ∧ errand.value.isSound = true := by
  unfold Operation.errand? at found
  cases operation with
  | toggle dimmer =>
      cases found
      exact ⟨rfl, rfl, rfl, rfl⟩
  | changeOpacity dimmer typing =>
      dsimp only at found
      split at found
      next => cases found
      next =>
        split at found
        next => cases found; exact ⟨rfl, rfl, rfl, rfl⟩
        next => cases found
  | changeColor dimmer picked =>
      dsimp only at found
      split at found
      next =>
        split at found
        next => cases found
        next =>
          split at found
          next valid => cases found; exact ⟨rfl, rfl, rfl, Color.sound_of_valid valid⟩
          next => cases found
      next => cases found
  | _ => cases found

/-- How a command goes: it asks and goes about its errand, or it asks and stops there, or it does
not even ask. -/
inductive Course (operation : Operation) (session : Session) : Prop where
  | acts {errand : Errand} {asking : Session}
      (found : operation.errand? session.settings = some errand)
      (asked : OnlyAsked session asking)
      (ran : (ofOperation operation).run session =
        (errand.act >>= fun _ => pure Outcome.done).run asking)
  | stops {result : Except Fault Outcome} {later : Session}
      (idle : operation.errand? session.settings = none) (asked : OnlyAsked session later)
      (ran : (ofOperation operation).run session = (result, later))
  | declines {logs : List LogLine} (idle : operation.errand? session.settings = none)
      (ran : (ofOperation operation).run session =
        (.ok .done, { session.after ⟨none, .told disabledMessage⟩ with logs }))

theorem command_course {operation : Operation} (command : operation.isCommand = true)
    (session : Session) : Course operation session := by
  have done {act other : Action Unit} {asking : Session} (ran : act.run session = other.run asking) :
      (act >>= fun _ => pure Outcome.done).run session =
        (other >>= fun _ => pure Outcome.done).run asking := by
    rw [run_bind, run_bind, ran]
  cases operation with
  | toggle dimmer =>
      obtain ⟨logs, ran⟩ := toggle_runs dimmer session
      exact .acts rfl (OnlyAsked.refl session logs) (done ran)
  | changeOpacity dimmer typing =>
      obtain ⟨asking, asked, ran⟩ := change_opacity_runs dimmer session typing
      by_cases empty : (typing.accepted.getD []).isEmpty = true
      · rw [if_pos empty] at ran
        exact .stops (if_pos empty) asked (done ran)
      · rw [if_neg empty] at ran
        cases converted : Double.ofText (typing.accepted.getD []) with
        | ok opacity =>
            rw [converted] at ran
            exact .acts ((if_neg empty).trans (by rw [converted])) asked (done ran)
        | error fault =>
            rw [converted] at ran
            exact .stops ((if_neg empty).trans (by rw [converted])) asked (done ran)
  | changeColor dimmer picked =>
      cases enabled : session.settings.enabled with
      | false =>
          obtain ⟨logs, ran⟩ := change_color_idle dimmer session picked enabled
          exact .declines (by rw [Operation.errand?, enabled]; rfl) (run_bind_of_ok ran)
      | true =>
          obtain ⟨asking, asked, ran⟩ := change_color_runs dimmer session picked enabled
          have found : (Operation.changeColor dimmer picked).errand? session.settings =
              if ((picked.map (·.value)).getD []).isEmpty then none
              else if Color.isValidText ((picked.map (·.value)).getD []) then
                some (.ofColor dimmer ((picked.map (·.value)).getD []))
              else none := by
            rw [Operation.errand?, enabled]
            rfl
          split at found
          next empty =>
              rw [if_pos empty] at ran
              exact .stops found asked (done ran)
          next filled =>
              rw [if_neg filled] at ran
              split at found
              next valid =>
                  rw [if_pos valid] at ran
                  exact .acts found asked (done ran)
              next invalid =>
                  rw [if_neg invalid] at ran
                  exact .stops found asked (done ran)
  | _ => cases command

section Refusing

variable {session : Session}

theorem finish_yields (errand : Errand) {style : Style}
    (described : session.settings.style = .ok style) :
    Yields errand.finish session () (session.finished errand style) := by
  have confirms (shown : Session) :
      Yields
        (do
          emit (.told errand.message)
          note .info "commands" errand.remark)
        shown () (shown.after ⟨none, .told errand.message⟩) :=
    yields_bind (emit_yields _ shown) (yields_note _ _ _ _)
  apply yields_bind (rebuild_yields errand.dimmer described)
  unfold Session.finished Session.restyled
  dsimp only
  split
  · exact yields_bind (update_all_yields errand.dimmer _) (confirms _)
  · exact confirms _

/-- Saving before something else is refused and the end of it, or the value is stored and the
listeners are told before the rest. -/
theorem save_bind_cases {Value : Type} (key : Text) (value : Json) (next : Action Value)
    (session : Session) :
    (∃ fault disk, Unsaved key value session fault disk ∧
        (save key value >>= fun _ => next).run session = (.error fault, { session with disk })) ∨
      ∃ disk logs, Saved key value session disk ∧
        (save key value >>= fun _ => next).run session =
          (notify (Change.ofKeys [key]) >>= fun _ => next).run
            { session with disk, settings := session.settings.put key value, logs } := by
  rcases save_cases key value session with
    ⟨fault, disk, unsaved, failed⟩ | ⟨disk, logs, fit, saved⟩
  · exact Or.inl ⟨fault, disk, unsaved, run_bind_of_error failed⟩
  · refine Or.inr ⟨disk, logs, fit, ?_⟩
    rw [run_bind, run_bind, saved]

theorem notify_bind_leads {Value : Type} {next : Action Value} (change : Change)
    (certain : ∀ session, ∃ value later, Yields next session value later) :
    Leads (fun _ => True) (notify change >>= fun _ => next) (fun _ => True)
      (fun fault _ => fault.isListeners = true) := by
  have heard : Leads (fun _ => True) (notify change) (fun _ => True)
      (fun fault _ => fault.isListeners = true) := notify_leads fun _ _ _ => trivial
  refine leads_bind heard fun _ session _ => ?_
  obtain ⟨value, later, yields⟩ := certain session
  obtain ⟨logs, ran⟩ := run_of_yields yields
  rw [ran]
  trivial

theorem refused_before_saved {key : Text} {value : Json} {next : Action Outcome}
    (certain : ∀ session, ∃ outcome later, Yields next session outcome later)
    (refused : wasRefused ((save key value >>= fun _ => next).run session).1 = true) :
    ∃ disk, session.disk.Refuses disk ∧
      (save key value >>= fun _ => next).run session =
        (.error (.cannotSave key), { session with disk }) := by
  rcases save_bind_cases key value next session with
    ⟨fault, disk, unsaved, failed⟩ | ⟨disk, logs, -, ran⟩
  · rw [failed] at refused ⊢
    cases unsaved with
    | refused refuses => exact ⟨disk, refuses, rfl⟩
    | brokenOff => cases refused
  -- Once the value is saved, only listeners can fail, and their faults are no refusals.
  · have stopped := notify_bind_leads (Change.ofKeys [key]) certain
      { session with disk, settings := session.settings.put key value, logs } trivial
    rw [ran] at refused
    revert stopped refused
    rcases (notify (Change.ofKeys [key]) >>= fun _ => next).run _ with ⟨fault | outcome, later⟩
    · intro refused blamed
      cases (Fault.not_listeners_of_refusal refused).symm.trans blamed
    · intro refused
      cases refused

end Refusing

theorem nothing_saved_without_errand {operation : Operation} {session : Session}
    (command : operation.isCommand = true) (idle : operation.errand? session.settings = none) :
    (Session.step operation session).2.storage = session.storage := by
  unfold Session.step
  split
  next =>
      rcases command_course command session with ⟨found, -, -⟩ | ⟨-, asked, ran⟩ | ⟨-, ran⟩
      · rw [idle] at found
        cases found
      · obtain ⟨_, _, rfl, -⟩ := asked
        rw [ran]
        rfl
      · rw [ran]
        rfl
  next => rfl

section Refused

variable {operation : Operation} {session asking : Session}

/-- What a refusal leaves: questions were asked, and then the settings file could not be opened or
nothing came of the answer. -/
inductive Left (session : Session) (result : Except Fault Outcome × Session) : Prop where
  | asked : OnlyAsked session result.2 → Left session result
  | unopened {asking : Session} {key : Text} {disk : Disk} : OnlyAsked session asking →
      session.disk.Refuses disk → result = (.error (.cannotSave key), { asking with disk }) →
      Left session result

theorem left_of_refused_save {key : Text} {value : Json} {next : Action Outcome}
    (certain : ∀ session, ∃ outcome later, Yields next session outcome later)
    (asked : OnlyAsked session asking)
    (refused : wasRefused ((save key value >>= fun _ => next).run asking).1 = true) :
    Left session ((save key value >>= fun _ => next).run asking) := by
  obtain ⟨disk, refuses, ran⟩ := refused_before_saved certain refused
  have same : asking.disk = session.disk := by
    obtain ⟨_, _, rfl, -⟩ := asked
    rfl
  exact .unopened asked (same ▸ refuses) ran

theorem left_of_refused_command (command : operation.isCommand = true)
    (refused : wasRefused ((ofOperation operation).run session).1 = true) :
    Left session ((ofOperation operation).run session) := by
  have finishes {errand : Errand} (session : Session) : ∃ outcome later,
      Yields (errand.finish >>= fun _ => pure Outcome.done) session outcome later :=
    have ⟨_, described⟩ := session.settings.style_exists
    ⟨.done, _, yields_bind_pure (finish_yields errand described) _⟩
  rcases command_course command session with ⟨-, asked, ran⟩ | ⟨-, asked, ran⟩ | ⟨-, ran⟩
  · rw [ran, Errand.act, bind_assoc] at refused
    rw [ran, Errand.act, bind_assoc]
    exact left_of_refused_save finishes asked refused
  · rw [ran]
    exact .asked asked
  · rw [ran] at refused
    cases refused

theorem left_of_refused_saving (save : operation.isSave = true)
    (refused : wasRefused ((ofOperation operation).run session).1 = true) :
    Left session ((ofOperation operation).run session) := by
  have done (session : Session) : ∃ outcome later,
      Yields (pure Outcome.done : Action Outcome) session outcome later :=
    ⟨.done, session, yields_pure _ session⟩
  have unasked := OnlyAsked.refl session session.logs
  cases operation with
  | saveOpacity value => exact left_of_refused_save done unasked refused
  | saveEnabled value => exact left_of_refused_save done unasked refused
  | saveColor value =>
      unfold ofOperation saveColor at refused ⊢
      dsimp only at refused ⊢
      split at refused
      next valid =>
          rw [if_pos valid]
          exact left_of_refused_save done unasked refused
      next invalid =>
          rw [if_neg invalid]
          exact .asked unasked
  | _ => cases save

end Refused

/-- A command or a save that is refused, because the settings cannot be kept, the colour is none or
the opacity no number, leaves memory, listeners, callbacks and all dimmers as they are. Until then
nothing has happened but questions: nobody was told, no handle was given out or taken back, and no
editor was decorated. The disk is as before too, unless the folder was missing, could be made, and
the file in it could not be opened: the folder is left then, empty. -/
theorem refused_operation_changes_nothing (operation : Operation) (session : Session)
    (setting : operation.isCommand = true ∨ operation.isSave = true)
    (refused : wasRefused (Session.step operation session).1 = true) :
    ∃ disk asked logs, (Session.step operation session).2 =
        { session with disk, happenings := asked ++ session.happenings, logs } ∧
      (∀ happening ∈ asked, happening.event.isQuestion = true) ∧
      (disk = session.disk ∨
        (∃ key, (Session.step operation session).1 = .error (.cannotSave key)) ∧
          session.disk.place = .absent ∧ session.disk.access.makesFolder = true ∧
          session.disk.access.opensFile = false ∧
          disk = { session.disk with place := .present .missing }) := by
  have left : Left session (Session.step operation session) := by
    unfold Session.step at refused ⊢
    by_cases known : session.knows operation = true
    · rw [if_pos known] at refused ⊢
      rcases setting with command | save
      · exact left_of_refused_command command refused
      · exact left_of_refused_saving save refused
    · rw [if_neg known] at refused
      cases refused
  cases left with
  | asked asked =>
      obtain ⟨asked, logs, same, questions⟩ := asked
      exact ⟨session.disk, asked, logs, same, questions, Or.inl rfl⟩
  | unopened asked refuses same =>
      obtain ⟨asked, logs, rfl, questions⟩ := asked
      rw [same]
      refine ⟨_, asked, logs, rfl, questions, ?_⟩
      rcases refuses.cases with unchanged | ⟨absent, makes, opens, made⟩
      · exact Or.inl unchanged
      · exact Or.inr ⟨⟨_, rfl⟩, absent, makes, opens, made⟩

/-- With a file in place of the settings folder, an accepted opacity is refused after all, and the
style stays live. -/
theorem nothing_changed_when_blocked :
    let session := (Session.step (.activate 0) (Session.start .blocked ⟨[], [], none, []⟩)).2
    let result := Session.step (.changeOpacity 0 ⟨["x", "70"], true⟩) session
    session.decoration? 0 = some 1 ∧ wasRefused result.1 = true ∧
      ∃ asked logs,
        result.2 = { session with happenings := asked ++ session.happenings, logs } ∧
        ∀ happening ∈ asked, happening.event.isQuestion = true := by
  intro session result
  have refused : wasRefused result.1 = true := by decide +kernel
  have present : session.disk.place ≠ .absent := by decide +kernel
  obtain ⟨disk, asked, logs, same, questions, unchanged | ⟨-, absent, -⟩⟩ :=
    refused_operation_changes_nothing (.changeOpacity 0 ⟨["x", "70"], true⟩) session (Or.inl rfl)
      refused
  · subst unchanged
    exact ⟨by decide +kernel, refused, asked, logs, same, questions⟩
  · exact absurd absent present

/-- Where the folder can be made but no file opened in it, a toggle is refused and leaves a folder
that was not there. And where an answer was refused before one that cannot be kept, the user has
been shown why. -/
theorem folder_left_behind :
    let stage : Stage := ⟨[], [], none, []⟩
    let locked := Session.start ⟨.absent, ⟨true, false⟩⟩ stage
    let toggled := Session.step (.toggle 0) locked
    let blocked := Session.start .blocked stage
    let typed := Session.step (.changeOpacity 0 ⟨["x", "70"], true⟩) blocked
    (wasRefused toggled.1 = true ∧ toggled.2.disk ≠ locked.disk) ∧
      wasRefused typed.1 = true ∧
        typed.2.happenings.any fun happening =>
          match happening.event with
          | .refused _ _ => true
          | _ => false := by
  decide +kernel

end Dimming
