import Dimming.Proofs.Session.Effect
import Dimming.Proofs.Settings.Storing

/-!
# What operations keep

A property of sessions that does not look at log lines, remarks or the listeners of others is
kept by whatever is made of doings of the dimmers that keep it. `Closed` collects what is to be
shown of such doings, and `Steady` what is left of it while nobody is switched on or off. A
property that does not look at the settings either is `Lasting`, or `Steadfast`: the commands
and the saves keep it too.
-/

set_option autoImplicit false

namespace Dimming

namespace Event

/-- What is said to the user or to a listener, and no doing of a dimmer. -/
def isRemark : Event → Bool
  | .asked _ _ | .refused _ _ | .offered _ _ | .told _ | .notified _ _ => true
  | _ => false

end Event

namespace Action

variable {Value : Type}

theorem find_listener_cases (name : Text) (session : Session) :
    (∃ definition, (findListener name).run session = (.ok (.defined definition), session)) ∨
      (findListener name).run session = (.error (.unknownListener name), session) := by
  unfold findListener
  rw [run_get_bind]
  cases definitionOf? session name with
  | some definition => exact Or.inl ⟨definition, rfl⟩
  | none => exact Or.inr rfl

theorem keeps_with_found {holds : Session → Prop} {name : Text} {act : Listener → Action Value}
    (kept : ∀ definition, Keeps holds (act (.defined definition))) :
    Keeps holds (findListener name >>= act) := by
  intro session held
  rcases find_listener_cases name session with ⟨definition, found⟩ | missing
  · rw [run_bind_of_ok found]
    exact kept definition session held
  · rw [run_bind_of_error missing]
    exact held

theorem last_wiring_cases (dimmer : Nat) (session : Session) :
    (∃ wiring, (session.dimmer? dimmer).bind (·.lastWiring) = some wiring ∧
        (lastWiring dimmer).run session = (.ok wiring, session)) ∨
      ((session.dimmer? dimmer).bind (·.lastWiring) = none ∧
        (lastWiring dimmer).run session = (.error (.neverActivated dimmer), session)) := by
  unfold lastWiring
  rw [run_get_bind]
  cases (session.dimmer? dimmer).bind (·.lastWiring) with
  | some wiring => exact Or.inl ⟨wiring, rfl, rfl⟩
  | none => exact Or.inr ⟨rfl, rfl⟩

theorem keeps_with_recalled {holds : Session → Prop} {dimmer : Nat} {act : Nat → Action Value}
    (kept : ∀ session wiring, (session.dimmer? dimmer).bind (·.lastWiring) = some wiring →
      holds session → holds ((act wiring).run session).2) :
    Keeps holds (lastWiring dimmer >>= act) := by
  intro session held
  rcases last_wiring_cases dimmer session with ⟨wiring, recalled, found⟩ | ⟨-, missing⟩
  · rw [run_bind_of_ok found]
    exact kept session wiring recalled held
  · rw [run_bind_of_error missing]
    exact held

theorem keeps_with_last_wiring {holds : Session → Prop} {dimmer : Nat}
    {act : Nat → Action Value} (kept : ∀ wiring, Keeps holds (act wiring)) :
    Keeps holds (lastWiring dimmer >>= act) :=
  keeps_with_recalled fun session wiring _ held => kept wiring session held

/-- The settings with a new value fit into the file, and are all that is in it. -/
structure Saved (key : Text) (value : Json) (session : Session) (disk : Disk) : Prop where
  written : disk = session.disk.holding (Settings.encode (session.settings.put key value))
  storable : Settings.isStorable (session.settings.put key value) = true

/-- How a save fails, and how it leaves the disk: the file could not be opened, or the settings with
the new value are in it by half. -/
inductive Unsaved (key : Text) (value : Json) (session : Session) : Fault → Disk → Prop where
  | refused {later : Disk} : session.disk.Refuses later →
      Unsaved key value session (.cannotSave key) later
  | brokenOff : Settings.isStorable (session.settings.put key value) = false →
      Unsaved key value session (.number .tooManyDigits)
        (session.disk.holding (Settings.encodePart (session.settings.put key value)))

theorem prepare_cases (key : Text) (step : Disk → Option Disk) (session : Session) :
    (step session.disk = none ∧
        (prepare key step).run session = (.error (.cannotSave key), session)) ∨
      ∃ disk, step session.disk = some disk ∧
        (prepare key step).run session = (.ok (), { session with disk }) := by
  unfold prepare
  rw [run_get_bind]
  cases step session.disk with
  | none => exact Or.inl ⟨rfl, rfl⟩
  | some disk => exact Or.inr ⟨disk, rfl, rfl⟩

theorem store_cases (key : Text) (value : Json) (session : Session) :
    (∃ fault disk, Unsaved key value session fault disk ∧
        (store key value).run session = (.error fault, { session with disk })) ∨
      ∃ disk logs, Saved key value session disk ∧ (store key value).run session =
        (.ok (), { session with disk, settings := session.settings.put key value, logs }) := by
  unfold store
  rw [run_get_bind]
  dsimp only
  rcases prepare_cases key Disk.withFolder? session with ⟨missing, failed⟩ | ⟨made, folder, ran⟩
  · rw [run_bind_of_error failed]
    exact Or.inl ⟨_, _, .refused (.noFolder missing), rfl⟩
  rw [run_bind_of_ok ran]
  rcases prepare_cases key Disk.opened? { session with disk := made } with
    ⟨closed, failed⟩ | ⟨opened, file, ran⟩
  · rw [run_bind_of_error failed]
    exact Or.inl ⟨_, _, .refused (.noFile folder closed), rfl⟩
  rw [run_bind_of_ok ran]
  have emptied : opened = session.disk.holding [] :=
    (Disk.eq_of_opened file).trans (Disk.holding_of_folder folder [])
  subst emptied
  cases storable : Settings.isStorable (session.settings.put key value) with
  | true => exact Or.inr ⟨_, _, ⟨rfl, storable⟩, rfl⟩
  | false => exact Or.inl ⟨_, _, .brokenOff storable, rfl⟩

theorem save_cases (key : Text) (value : Json) (session : Session) :
    (∃ fault disk, Unsaved key value session fault disk ∧
        (save key value).run session = (.error fault, { session with disk })) ∨
      ∃ disk logs, Saved key value session disk ∧ (save key value).run session =
        (notify (Change.ofKeys [key])).run
          { session with disk, settings := session.settings.put key value, logs } := by
  unfold save
  rcases store_cases key value session with
    ⟨fault, disk, unsaved, failed⟩ | ⟨disk, logs, fit, stored⟩
  · exact Or.inl ⟨fault, disk, unsaved, run_bind_of_error failed⟩
  · exact Or.inr ⟨disk, logs, fit, run_bind_of_ok stored⟩

end Action

open Dimming.Action

/-- A property that does not look at log lines, remarks or others' listeners. -/
structure Indifferent (holds : Session → Prop) : Prop where
  logged : ∀ {session} logs, holds session → holds { session with logs }
  defined : ∀ {session} definitions, holds session → holds { session with definitions }
  remarked : ∀ {session} {event : Event}, event.isRemark = true → holds session →
    holds (session.after ⟨none, event⟩)
  heard : ∀ {session} definition, holds session →
    holds (session.heardBy (.defined definition))
  unheard : ∀ {session} definition, holds session →
    holds { session with listeners := session.listeners.erase (.defined definition) }

namespace Indifferent

variable {Value : Type} {holds : Session → Prop} (indifferent : Indifferent holds)

include indifferent

theorem keeps_of_yields {action : Action Value}
    (leads : ∀ session, holds session →
      ∃ value later, Yields action session value later ∧ holds later) : Keeps holds action := by
  intro session held
  obtain ⟨value, later, yields, kept⟩ := leads session held
  obtain ⟨logs, ran⟩ := run_of_yields yields
  rw [ran]
  exact indifferent.logged logs kept

theorem keeps_note (severity : Severity) (part text : Text) :
    Keeps holds (note severity part text) :=
  fun _ held => indifferent.logged _ held

theorem keeps_emit {event : Event} (remark : event.isRemark = true) :
    Keeps holds (emit event) :=
  fun _ held => indifferent.remarked remark held

theorem keeps_read_setting (read : Settings → Value × Option Settings.Complaint) :
    Keeps holds (readSetting read) :=
  indifferent.keeps_of_yields fun session held =>
    ⟨_, session, read_setting_yields read session, held⟩

theorem keeps_build_style : Keeps holds buildStyle :=
  indifferent.keeps_of_yields fun session held =>
    have ⟨style, described⟩ := session.settings.style_exists
    ⟨style, session, build_style_yields described, held⟩

theorem keeps_read_preferences : Keeps holds readPreferences :=
  keeps_bind (indifferent.keeps_read_setting _) fun _ =>
    keeps_bind (indifferent.keeps_read_setting _) fun _ =>
      keeps_bind_pure (indifferent.keeps_read_setting _)

theorem keeps_ask (typing : Typing) (prefilled : Text) : Keeps holds (ask typing prefilled) := by
  refine keeps_bind (indifferent.keeps_emit rfl) fun _ => ?_
  refine keeps_bind_pure (keeps_for_each _ fun entry _ => ?_)
  exact indifferent.keeps_emit rfl

theorem keeps_add_listener (definition : Nat) :
    Keeps holds (addListener (.defined definition)) :=
  indifferent.keeps_of_yields fun session held =>
    ⟨(), _, add_listener_yields _ session, indifferent.heard definition held⟩

theorem keeps_remove_listener (definition : Nat) :
    Keeps holds (removeListener (.defined definition)) :=
  fun _ held => indifferent.unheard definition held

theorem keeps_perform (action : ListenerAction) : Keeps holds (perform action) := by
  cases action with
  | raise text => exact keeps_throw _
  | remove name => exact keeps_with_found indifferent.keeps_remove_listener
  | add name => exact keeps_with_found indifferent.keeps_add_listener

theorem keeps_deliver_defined (change : Change) (definition : Nat) :
    Keeps holds (deliver change (.defined definition)) := by
  refine keeps_get_bind fun session held => ?_
  cases session.definitions[definition]? with
  | none => exact held
  | some listener =>
      refine keeps_bind (indifferent.keeps_emit rfl) (fun _ => ?_) session held
      exact keeps_for_each _ fun action _ => indifferent.keeps_perform action

theorem keeps_deliver {change : Change}
    (told : ∀ wiring, Keeps holds (configurationChanged change wiring)) (listener : Listener) :
    Keeps holds (deliver change listener) := by
  cases listener with
  | wiring wiring => exact told wiring
  | defined definition => exact indifferent.keeps_deliver_defined change definition

theorem keeps_notify {change : Change}
    (told : ∀ wiring, Keeps holds (configurationChanged change wiring)) :
    Keeps holds (notify change) :=
  keeps_get_bind fun session =>
    keeps_for_each session.listeners (fun listener _ => indifferent.keeps_deliver told listener)
      session

theorem keeps_activate {dimmer : Nat}
    (activated : ∀ {session entry style}, session.dimmer? dimmer = some entry →
      entry.wiring = none → session.settings.style = .ok style → holds session →
      holds (session.activated dimmer style)) :
    Keeps holds (activate dimmer) := by
  intro session held
  cases found : session.dimmer? dimmer with
  | none =>
      have nothing : (activate dimmer).run session = (.ok (), session) := by
        unfold activate
        rw [run_get_bind, found]
        rfl
      rw [nothing]
      exact held
  | some entry =>
      cases wired : entry.wiring with
      | none =>
          obtain ⟨style, described⟩ := session.settings.style_exists
          obtain ⟨logs, ran⟩ := run_of_yields (activate_yields found wired described)
          rw [ran]
          exact indifferent.logged logs (activated found wired described held)
      | some wiring =>
          rw [activate_warns found wired]
          exact indifferent.keeps_note _ _ _ session held

end Indifferent

/-- An indifferent property that does not look at the disk either and is kept while certain
dimmers build their styles anew. The wirings that are told of changes are tended, and so are the
last ones of these dimmers; a tended wiring belongs to one of them. -/
structure Steady (concerned tended : Nat → Prop) (holds : Session → Prop) : Prop
    extends Indifferent holds where
  stored : ∀ {session} disk, holds session → holds { session with disk }
  told : ∀ {session wiring}, Listener.wiring wiring ∈ session.listeners → holds session →
    tended wiring
  recalled : ∀ {session dimmer wiring}, concerned dimmer →
    (session.dimmer? dimmer).bind (·.lastWiring) = some wiring → holds session → tended wiring
  owned : ∀ {session wiring dimmer}, tended wiring → dimmerOf? session wiring = some dimmer →
    holds session → concerned dimmer
  decorated : ∀ {session} dimmer editor, holds session → holds (session.decorated dimmer editor)
  rebuilt : ∀ {session dimmer style}, concerned dimmer → session.settings.style = .ok style →
    holds session → holds (session.rebuilt dimmer style)

namespace Steady

variable {concerned tended : Nat → Prop} {holds : Session → Prop}
variable (steady : Steady concerned tended holds)

include steady

theorem keeps_update_editor (dimmer editor : Nat) : Keeps holds (updateEditor dimmer editor) :=
  steady.keeps_of_yields fun session held =>
    ⟨(), _, update_editor_yields dimmer editor session, steady.decorated dimmer editor held⟩

theorem keeps_update_one (dimmer : Nat) (editor : Option Nat) :
    Keeps holds (updateOne dimmer editor) := by
  cases editor with
  | none => exact keeps_pure _
  | some editor => exact steady.keeps_update_editor dimmer editor

theorem keeps_update_all (dimmer : Nat) : Keeps holds (updateAll dimmer) := by
  refine keeps_get_bind fun session => keeps_bind (steady.keeps_note _ _ _) (fun _ => ?_) session
  exact keeps_for_each _ fun editor _ => steady.keeps_update_editor dimmer editor

theorem keeps_rebuild {dimmer : Nat} (own : concerned dimmer) : Keeps holds (rebuild dimmer) :=
  steady.keeps_of_yields fun session held =>
    have ⟨_, described⟩ := session.settings.style_exists
    ⟨(), _, rebuild_yields dimmer described, steady.rebuilt own described held⟩

theorem keeps_configuration_changed (change : Change) {wiring : Nat} (ours : tended wiring) :
    Keeps holds (configurationChanged change wiring) := by
  unfold configurationChanged
  split
  · refine keeps_bind (steady.keeps_note _ _ _) fun _ => keeps_get_bind fun session held => ?_
    cases found : dimmerOf? session wiring with
    | none => exact held
    | some dimmer =>
        have own := steady.owned ours found held
        exact keeps_bind (steady.keeps_rebuild own) (fun _ => steady.keeps_update_all dimmer)
          session held
  · exact keeps_pure _

theorem keeps_notify (change : Change) : Keeps holds (notify change) := by
  refine keeps_get_bind fun session held => ?_
  refine keeps_for_each session.listeners (fun listener inside => ?_) session held
  cases listener with
  | wiring wiring =>
      have ours := steady.told inside held
      exact steady.keeps_configuration_changed change ours
  | defined definition => exact steady.keeps_deliver_defined change definition

theorem keeps_active_editor_changed (editor : Option Nat) (wiring : Nat) :
    Keeps holds (activeEditorChanged editor wiring) := by
  refine keeps_get_bind fun session held => ?_
  cases dimmerOf? session wiring with
  | none => exact held
  | some dimmer => exact steady.keeps_update_one dimmer editor session held

theorem keeps_document_changed (document wiring : Nat) :
    Keeps holds (documentChanged document wiring) := by
  refine keeps_get_bind fun session held => ?_
  split
  · split
    · exact steady.keeps_update_editor _ _ session held
    · exact held
  · exact held

theorem keeps_announce_active (editor : Option Nat) : Keeps holds (announceActive editor) :=
  keeps_get_bind fun session =>
    keeps_for_each _ (fun wiring _ => steady.keeps_active_editor_changed editor wiring) session

theorem keeps_announce_document (document : Nat) : Keeps holds (announceDocument document) :=
  keeps_get_bind fun session =>
    keeps_for_each _ (fun wiring _ => steady.keeps_document_changed document wiring) session

theorem keeps_edit (restaged : ∀ {session} stage, holds session → holds { session with stage })
    (editor : Nat) (text language : Option Text) (announced : Bool) :
    Keeps holds (edit editor text language announced) := by
  refine keeps_get_bind fun session held => ?_
  cases session.stage.editors[editor]? with
  | none => exact held
  | some document =>
      refine keeps_bind (keeps_modify fun _ held => restaged _ held) (fun _ => ?_) session held
      cases announced with
      | true => exact steady.keeps_announce_document document
      | false => exact keeps_pure _

theorem keeps_focus (restaged : ∀ {session} stage, holds session → holds { session with stage })
    (editor : Option Nat) (announced : Bool) : Keeps holds (focus editor announced) := by
  refine keeps_bind (keeps_modify fun _ held => restaged _ held) fun _ => ?_
  cases announced with
  | true => exact steady.keeps_announce_active editor
  | false => exact keeps_pure _

section Commands

variable {dimmer : Nat} (own : concerned dimmer)

include own

theorem keeps_toggle (saves : ∀ enabled, Keeps holds (saveEnabled (.bool enabled))) :
    Keeps holds (toggle dimmer) :=
  keeps_bind (steady.keeps_read_setting _) fun _ =>
    keeps_bind (saves _) fun _ =>
      keeps_bind (steady.keeps_rebuild own) fun _ =>
        keeps_bind (steady.keeps_emit rfl) fun _ => steady.keeps_note _ _ _

theorem keeps_change_color (saves : ∀ color, Keeps holds (saveColor (.string color)))
    (picked : Option Choice) : Keeps holds (changeColor dimmer picked) := by
  refine keeps_bind (steady.keeps_read_setting _) fun enabled => ?_
  split
  · refine keeps_bind (steady.keeps_emit rfl) fun _ => ?_
    dsimp only
    split
    · exact keeps_pure _
    · refine keeps_bind (saves _) fun _ => ?_
      refine keeps_bind (steady.keeps_rebuild own) fun _ => ?_
      exact keeps_bind (steady.keeps_emit rfl) fun _ => steady.keeps_note _ _ _
  · exact steady.keeps_emit rfl

theorem keeps_change_opacity
    (saves : ∀ opacity, Keeps holds (saveOpacity (.number (.double opacity)))) (typing : Typing) :
    Keeps holds (changeOpacity dimmer typing) := by
  refine keeps_bind (steady.keeps_read_setting _) fun current => ?_
  refine keeps_bind (steady.keeps_ask _ _) fun typed => ?_
  dsimp only
  split
  · exact keeps_pure _
  · refine keeps_bind ?_ fun opacity => ?_
    · cases Double.ofText (typed.getD []) with
      | ok number => exact keeps_pure _
      | error fault => exact keeps_throw _
    · refine keeps_bind (saves _) fun _ => ?_
      refine keeps_bind (steady.keeps_rebuild own) fun _ => ?_
      refine keeps_bind (steady.keeps_update_all dimmer) fun _ => ?_
      exact keeps_bind (steady.keeps_emit rfl) fun _ => steady.keeps_note _ _ _

end Commands

end Steady

/-- A steady property that does not look at the settings and is kept when a decoration is taken
away. -/
structure Steadfast (concerned tended : Nat → Prop) (holds : Session → Prop) : Prop
    extends Steady concerned tended holds where
  resettled : ∀ {session} settings, holds session → holds { session with settings }
  undressed : ∀ {session} dimmer, holds session → holds (session.undressed dimmer)

namespace Steadfast

variable {concerned tended : Nat → Prop} {holds : Session → Prop}
variable (steadfast : Steadfast concerned tended holds)

include steadfast

theorem keeps_read_fresh : Keeps holds readFresh := by
  refine keeps_get_bind fun session held => ?_
  have swapped : Keeps holds
      (do
        let preferences ← readPreferences
        modify fun later : Session => { later with settings := session.settings }
        return preferences) := by
    refine keeps_bind steadfast.keeps_read_preferences fun _ => ?_
    exact keeps_bind_pure (keeps_modify fun _ kept => steadfast.resettled _ kept)
  let loading := Settings.Loading.ofDisk session.disk
  exact swapped _ (steadfast.logged (loading.report.reverse ++ session.logs)
    (steadfast.resettled loading.settings held))

theorem keeps_dispose_style (dimmer : Nat) : Keeps holds (disposeStyle dimmer) :=
  steadfast.keeps_of_yields fun session held =>
    ⟨(), _, dispose_style_yields dimmer session, steadfast.undressed dimmer held⟩

theorem keeps_save (key : Text) (value : Json) : Keeps holds (save key value) := by
  intro session held
  rcases save_cases key value session with ⟨fault, disk, -, failed⟩ | ⟨disk, logs, -, saved⟩
  · rw [failed]
    exact steadfast.stored disk held
  · rw [saved]
    exact steadfast.keeps_notify _ _
      (steadfast.logged logs (steadfast.stored disk (steadfast.resettled _ held)))

theorem keeps_save_color (value : Json) : Keeps holds (saveColor value) := by
  unfold saveColor
  split
  · exact steadfast.keeps_save _ _
  · exact keeps_throw _

end Steadfast

/-- An indifferent property of sessions with a number of dimmers that does not look at the disk
either and is kept by what these do. Putting a new style on and decorating with it count as one
step. -/
structure Closed (count : Nat) (holds : Session → Prop) : Prop extends Indifferent holds where
  stored : ∀ {session} disk, holds session → holds { session with disk }
  staffed : ∀ {session}, holds session → session.dimmers.length = count
  founded : ∀ {session wiring dimmer}, holds session →
    dimmerOf? session wiring = some dimmer → dimmer < count
  decorated : ∀ {session} dimmer editor, holds session → holds (session.decorated dimmer editor)
  rebuilt : ∀ {session dimmer style}, dimmer < count → session.settings.style = .ok style →
    holds session → holds (session.rebuilt dimmer style)
  activated : ∀ {session dimmer entry style}, session.dimmer? dimmer = some entry →
    entry.wiring = none → session.settings.style = .ok style → holds session →
    holds (session.activated dimmer style)
  deactivated : ∀ {session dimmer}, dimmer < count → holds session →
    holds (session.deactivated dimmer)

namespace Closed

variable {count : Nat} {holds : Session → Prop} (closed : Closed count holds)

include closed

theorem known_of_knows {session : Session} {operation : Operation} {dimmer : Nat}
    (held : holds session) (concerned : operation.dimmer? = some dimmer)
    (knows : session.knows operation = true) : dimmer < count := by
  unfold Session.knows at knows
  rw [concerned, closed.staffed held] at knows
  simpa using knows

theorem steady : Steady (· < count) (fun _ => True) holds where
  toIndifferent := closed.toIndifferent
  stored := closed.stored
  told := fun _ _ => trivial
  recalled := fun _ _ _ => trivial
  owned := fun _ found held => closed.founded held found
  decorated := closed.decorated
  rebuilt := closed.rebuilt

theorem keeps_update_all (dimmer : Nat) : Keeps holds (updateAll dimmer) :=
  closed.steady.keeps_update_all dimmer

theorem keeps_configuration_changed (change : Change) (wiring : Nat) :
    Keeps holds (configurationChanged change wiring) :=
  closed.steady.keeps_configuration_changed change trivial

theorem keeps_notify (change : Change) : Keeps holds (notify change) :=
  closed.steady.keeps_notify change

theorem keeps_activate (dimmer : Nat) : Keeps holds (activate dimmer) :=
  closed.toIndifferent.keeps_activate closed.activated

theorem keeps_deactivate {dimmer : Nat} (known : dimmer < count) :
    Keeps holds (deactivate dimmer) :=
  closed.keeps_of_yields fun session held =>
    ⟨(), _, deactivate_yields dimmer session, closed.deactivated known held⟩

end Closed

/-- A closed property that does not look at the settings and is kept when a decoration is
taken away. -/
structure Lasting (count : Nat) (holds : Session → Prop) : Prop extends Closed count holds where
  resettled : ∀ {session} settings, holds session → holds { session with settings }
  undressed : ∀ {session} dimmer, holds session → holds (session.undressed dimmer)

namespace Lasting

variable {count : Nat} {holds : Session → Prop} (lasting : Lasting count holds)

include lasting

theorem steadfast : Steadfast (· < count) (fun _ => True) holds where
  toSteady := lasting.steady
  resettled := lasting.resettled
  undressed := lasting.undressed

end Lasting

namespace Operation

/-- What dimmers do without a look at the settings file or a change of the settings. -/
def isQuiet : Operation → Bool
  | .activate _ | .deactivate _ | .readSettings | .changeDisk _ | .editElsewhere => true
  | .updateOne _ _ | .updateAll _ | .decorateActive _ | .rebuild _ | .buildStyle => true
  | .configurationChanged _ _ => true
  | .defineListener _ _ | .addListener _ | .removeListener _ => true
  | _ => false

/-- What is made of the doings of dimmers alone. The other operations move the stage, reach
into a dimmer from outside or bring a new one. -/
def isOrdinary : Operation → Bool
  | .newDimmer | .edit _ _ _ _ | .focus _ _ | .setVisible _ => false
  | .createStyle _ | .setAfterRebuild _ _ | .disposeWiring _ => false
  | _ => true

def isStaging : Operation → Bool
  | .edit _ _ _ _ | .focus _ _ | .setVisible _ => true
  | _ => false

/-- What changes who is told of what, or brings a dimmer that may come to be told. -/
def isRewiring : Operation → Bool
  | .activate _ | .deactivate _ | .newDimmer | .disposeWiring _ => true
  | _ => false

end Operation

theorem Session.step_of_staging {operation : Operation} (staging : operation.isStaging = true)
    (session : Session) : Session.step operation session = (ofOperation operation).run session := by
  cases operation with
  | edit | focus | setVisible => rfl
  | _ => cases staging

section Operations

variable {count : Nat} {concerned tended : Nat → Prop} {holds : Session → Prop}
variable {operation : Operation}

theorem Steady.keeps_quiet (steady : Steady concerned tended holds)
    (quiet : operation.isQuiet = true) (settled : operation.isRewiring = false)
    (own : ∀ dimmer, operation.dimmer? = some dimmer → concerned dimmer) :
    ∀ session, holds session → holds ((ofOperation operation).run session).2 := by
  intro session held
  have done {Value : Type} {act : Action Value} {next : Value → Outcome} (kept : Keeps holds act) :
      holds ((act >>= fun value => pure (next value)).run session).2 :=
    keeps_bind_pure kept session held
  cases operation with
  | activate | deactivate => cases settled
  | readSettings => exact done steady.keeps_read_preferences
  | changeDisk change => exact steady.stored _ held
  | editElsewhere =>
      rw [edit_elsewhere_runs]
      exact held
  | updateOne dimmer editor => exact done (steady.keeps_update_one dimmer editor)
  | updateAll dimmer => exact done (steady.keeps_update_all dimmer)
  | decorateActive dimmer =>
      refine done (keeps_get_bind fun session => ?_)
      exact steady.keeps_update_one dimmer _ session
  | rebuild dimmer => exact done (steady.keeps_rebuild (own dimmer rfl))
  | buildStyle => exact done steady.keeps_build_style
  | configurationChanged dimmer keys =>
      refine keeps_with_recalled (fun session wiring recalled held => ?_) session held
      have ours := steady.recalled (own dimmer rfl) recalled held
      exact keeps_bind_pure (steady.keeps_configuration_changed _ ours) session held
  | defineListener name actions => exact steady.defined _ held
  | addListener name =>
      have kept (definition : Nat) := steady.keeps_add_listener definition
      exact keeps_with_found (fun definition => keeps_bind_pure (kept definition)) session held
  | removeListener name =>
      have kept (definition : Nat) := steady.keeps_remove_listener definition
      exact keeps_with_found (fun definition => keeps_bind_pure (kept definition)) session held
  | _ => cases quiet

theorem Closed.keeps_quiet (closed : Closed count holds) (quiet : operation.isQuiet = true)
    (session : Session) (held : holds session) (knows : session.knows operation = true) :
    holds ((ofOperation operation).run session).2 := by
  have own (dimmer : Nat) (concerned : operation.dimmer? = some dimmer) : dimmer < count :=
    closed.known_of_knows held concerned knows
  cases operation with
  | activate dimmer =>
      exact keeps_bind_pure (closed.keeps_activate dimmer) session held
  | deactivate dimmer =>
      exact keeps_bind_pure (closed.keeps_deactivate (own dimmer rfl)) session held
  | newDimmer | disposeWiring => cases quiet
  | _ => exact closed.steady.keeps_quiet quiet rfl own session held

theorem Steady.keeps_staging (steady : Steady concerned tended holds)
    (restaged : ∀ {session} stage, holds session → holds { session with stage })
    (staging : operation.isStaging = true) :
    ∀ session, holds session → holds ((ofOperation operation).run session).2 := by
  cases operation with
  | edit editor text language announced =>
      exact keeps_bind_pure (steady.keeps_edit restaged editor text language announced)
  | focus editor announced =>
      exact keeps_bind_pure (steady.keeps_focus restaged editor announced)
  | setVisible editors => exact fun session held => restaged _ held
  | _ => cases staging

theorem Closed.keeps_staging (closed : Closed count holds)
    (restaged : ∀ {session} stage, holds session → holds { session with stage })
    (staging : operation.isStaging = true) :
    ∀ session, holds session → holds ((ofOperation operation).run session).2 :=
  closed.steady.keeps_staging restaged staging

theorem Steadfast.keeps_ordinary (steadfast : Steadfast concerned tended holds)
    (ordinary : operation.isOrdinary = true) (settled : operation.isRewiring = false)
    (own : ∀ dimmer, operation.dimmer? = some dimmer → concerned dimmer) :
    ∀ session, holds session → holds ((ofOperation operation).run session).2 := by
  intro session held
  have done {Value : Type} {act : Action Value} {next : Value → Outcome} (kept : Keeps holds act) :
      holds ((act >>= fun value => pure (next value)).run session).2 :=
    keeps_bind_pure kept session held
  cases operation with
  | toggle dimmer =>
      exact done (steadfast.keeps_toggle (own dimmer rfl) fun _ => steadfast.keeps_save _ _)
  | changeOpacity dimmer typing =>
      exact done (steadfast.keeps_change_opacity (own dimmer rfl)
        (fun _ => steadfast.keeps_save _ _) typing)
  | changeColor dimmer picked =>
      exact done (steadfast.keeps_change_color (own dimmer rfl)
        (fun _ => steadfast.keeps_save_color _) picked)
  | saveOpacity value => exact done (steadfast.keeps_save _ value)
  | saveColor value => exact done (steadfast.keeps_save_color value)
  | saveEnabled value => exact done (steadfast.keeps_save _ value)
  | readFresh => exact done steadfast.keeps_read_fresh
  | disposeStyle dimmer => exact done (steadfast.keeps_dispose_style dimmer)
  | activate | deactivate => cases settled
  | newDimmer | edit | focus | setVisible => cases ordinary
  | createStyle | setAfterRebuild | disposeWiring => cases ordinary
  | _ => exact steadfast.keeps_quiet rfl rfl own session held

section Outside

-- What reaches into a dimmer from outside: a style is put on, or replaced is what is done after
-- a style has been rebuilt.
variable (redressed : ∀ {session dimmer} style, concerned dimmer → holds session →
  holds ((session.undressed dimmer).dressed dimmer style))
variable (resolved : ∀ {session} dimmer after, operation = .setAfterRebuild dimmer after →
  holds session → holds { session with
    dimmers := session.dimmers.modify dimmer fun entry => { entry with afterRebuild := after } })

include redressed resolved

/-- What is kept by doings from outside, too, is kept by every operation on the concerned dimmers
that rewires nothing and leaves the stage alone. -/
theorem Steadfast.keeps_indoors (steadfast : Steadfast concerned tended holds)
    (settled : operation.isRewiring = false) (indoors : operation.isStaging = false)
    (own : ∀ dimmer, operation.dimmer? = some dimmer → concerned dimmer) :
    ∀ session, holds session → holds (Session.step operation session).2 := by
  intro session held
  unfold Session.step
  split
  · cases operation with
    | createStyle dimmer =>
        have kept : Keeps holds (createStyle dimmer) :=
          steadfast.keeps_of_yields fun session held =>
            have ⟨style, described⟩ := session.settings.style_exists
            ⟨_, _, create_style_yields dimmer described, redressed style (own dimmer rfl) held⟩
        exact keeps_bind_pure kept session held
    | setAfterRebuild dimmer after => exact resolved dimmer after rfl held
    | edit | focus | setVisible => cases indoors
    | activate | deactivate | newDimmer | disposeWiring => cases settled
    | _ => exact steadfast.keeps_ordinary rfl rfl own session held
  · exact held

theorem Steadfast.keeps_settled (steadfast : Steadfast concerned tended holds)
    (restaged : ∀ {session} stage, holds session → holds { session with stage })
    (settled : operation.isRewiring = false)
    (own : ∀ dimmer, operation.dimmer? = some dimmer → concerned dimmer) :
    ∀ session, holds session → holds (Session.step operation session).2 := by
  intro session held
  cases staging : operation.isStaging with
  | true =>
      rw [Session.step_of_staging staging]
      exact steadfast.keeps_staging restaged staging session held
  | false => exact steadfast.keeps_indoors redressed resolved settled staging own session held

end Outside

theorem Lasting.keeps_ordinary (lasting : Lasting count holds)
    (ordinary : operation.isOrdinary = true)
    (session : Session) (held : holds session) (knows : session.knows operation = true) :
    holds ((ofOperation operation).run session).2 := by
  have own (dimmer : Nat) (concerned : operation.dimmer? = some dimmer) : dimmer < count :=
    lasting.known_of_knows held concerned knows
  cases operation with
  | activate | deactivate => exact lasting.keeps_quiet rfl session held knows
  | newDimmer | disposeWiring => cases ordinary
  | _ => exact lasting.steadfast.keeps_ordinary ordinary rfl own session held

section Outside

variable (lasting : Lasting count holds)
variable (redressed : ∀ {session dimmer} style, dimmer < count → holds session →
  holds ((session.undressed dimmer).dressed dimmer style))
variable (resolved : ∀ {session} dimmer after, operation = .setAfterRebuild dimmer after →
  holds session → holds { session with
    dimmers := session.dimmers.modify dimmer fun entry => { entry with afterRebuild := after } })
variable (unsubscribed : ∀ {session} wiring, holds session → holds (session.unsubscribed wiring))
variable (alone : operation ≠ .newDimmer)

include lasting redressed resolved unsubscribed alone

theorem Lasting.keeps_indoors (indoors : operation.isStaging = false) :
    ∀ session, holds session → holds (Session.step operation session).2 := by
  intro session held
  by_cases knows : session.knows operation = true
  · have own (dimmer : Nat) (concerned : operation.dimmer? = some dimmer) : dimmer < count :=
      lasting.known_of_knows held concerned knows
    cases operation with
    | newDimmer => exact absurd rfl alone
    | activate | deactivate =>
        rw [Session.step_of_knows knows]
        exact lasting.keeps_quiet rfl session held knows
    | disposeWiring dimmer =>
        have kept (wiring : Nat) : Keeps holds (unsubscribe wiring) :=
          lasting.keeps_of_yields fun session held =>
            ⟨(), _, unsubscribe_yields wiring session, unsubscribed wiring held⟩
        rw [Session.step_of_knows knows]
        exact keeps_with_last_wiring
          (fun wiring => keeps_bind_pure (kept wiring)) session held
    | _ =>
        exact lasting.steadfast.keeps_indoors redressed resolved rfl indoors own session held
  · rw [Session.step_of_not_knows knows]
    exact held

theorem Lasting.keeps_step
    (restaged : ∀ {session} stage, holds session → holds { session with stage }) :
    ∀ session, holds session → holds (Session.step operation session).2 := by
  intro session held
  cases staging : operation.isStaging with
  | true =>
      rw [Session.step_of_staging staging]
      exact lasting.keeps_staging restaged staging session held
  | false =>
      exact lasting.keeps_indoors redressed resolved unsubscribed alone staging session held

end Outside

end Operations

end Dimming
