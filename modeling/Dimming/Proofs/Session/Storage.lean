import Dimming.Proofs.Session.Synchrony
import Dimming.Proofs.Settings.Storing

/-!
# Disk and memory

Only a save changes the settings in memory, and it puts them on disk first. So right after a save
whoever reads the file anew finds the settings that are in memory, among them whatever the file
held that the program does not know.
-/

set_option autoImplicit false

namespace Dimming

open Dimming.Action

namespace Session

def storage (session : Session) : Disk × Settings := (session.disk, session.settings)

section Same

variable {session later : Session}

theorem storage_of_same_surroundings (same : later.surroundings = session.surroundings) :
    later.storage = session.storage := by
  change later.surroundings.storage = session.surroundings.storage
  rw [same]

theorem storage_of_same_wardrobe (same : later.wardrobe = session.wardrobe) :
    later.storage = session.storage := by
  change later.wardrobe.storage = session.wardrobe.storage
  rw [same]

end Same

end Session

theorem Indifferent.of_storage (fine : Disk × Settings → Prop) :
    Indifferent fun session => fine session.storage where
  logged := fun _ held => held
  defined := fun _ held => held
  remarked := fun _ held => held
  heard := by
    intro session definition held
    obtain ⟨more, same, -⟩ := Session.heard_by_eq session (.defined definition)
    rw [same]
    exact held
  unheard := fun _ held => held

namespace Action

variable {Value : Type} (fine : Disk × Settings → Prop)

theorem keeps_storage {action : Action Value}
    (leads : ∀ session, ∃ value later, Yields action session value later ∧
      later.storage = session.storage) :
    Keeps (fun session => fine session.storage) action := by
  refine (Indifferent.of_storage fine).keeps_of_yields fun session held => ?_
  obtain ⟨value, later, yields, same⟩ := leads session
  refine ⟨value, later, yields, ?_⟩
  rw [same]
  exact held

theorem notify_keeps_storage (change : Change) :
    Keeps (fun session => fine session.storage) (notify change) := by
  refine (Indifferent.of_storage fine).keeps_notify fun wiring => keeps_storage fine fun session => ?_
  obtain ⟨later, yields, same⟩ := configuration_changed_yields change wiring session
  exact ⟨(), later, yields, Session.storage_of_same_surroundings same⟩

theorem dispose_style_keeps_storage (dimmer : Nat) :
    Keeps (fun session => fine session.storage) (disposeStyle dimmer) :=
  keeps_storage fine fun session => ⟨_, _, dispose_style_yields dimmer session,
    Session.storage_of_same_surroundings (Session.undressed_surroundings dimmer session)⟩

theorem create_style_keeps_storage (dimmer : Nat) :
    Keeps (fun session => fine session.storage) (createStyle dimmer) := by
  refine keeps_storage fine fun session => ?_
  obtain ⟨style, described⟩ := session.settings.style_exists
  refine ⟨_, _, create_style_yields dimmer described, ?_⟩
  apply Session.storage_of_same_surroundings
  rw [Session.dressed_surroundings, Session.undressed_surroundings]

theorem unsubscribe_keeps_storage (wiring : Nat) :
    Keeps (fun session => fine session.storage) (unsubscribe wiring) :=
  keeps_storage fine fun session => ⟨_, _, unsubscribe_yields wiring session,
    Session.storage_of_same_wardrobe (Session.unsubscribed_wardrobe wiring session)⟩

theorem read_preferences_yields (session : Session) :
    Yields readPreferences session session.settings.preferences session :=
  yields_bind (read_setting_yields _ session) (yields_bind (read_setting_yields _ session)
    (yields_bind (read_setting_yields _ session) (yields_pure _ session)))

theorem read_fresh_yields (session : Session) :
    Yields readFresh session (Settings.Loading.ofDisk session.disk).settings.preferences session := by
  intro logs
  let loading := Settings.Loading.ofDisk session.disk
  obtain ⟨others, ran⟩ := read_preferences_yields { session with settings := loading.settings }
    (loading.report.reverse ++ logs)
  refine ⟨others, ?_⟩
  change (readPreferences >>= fun preferences => _).run
    { session with settings := loading.settings, logs := loading.report.reverse ++ logs } = _
  rw [run_bind_of_ok ran]
  rfl

end Action

theorem Closed.with_settings {count : Nat} {holds : Session → Prop} (closed : Closed count holds)
    (fine : Settings → Prop) :
    Closed count fun session => holds session ∧ fine session.settings where
  logged := fun logs held => ⟨closed.logged logs held.1, held.2⟩
  stored := fun disk held => ⟨closed.stored disk held.1, held.2⟩
  defined := fun definitions held => ⟨closed.defined definitions held.1, held.2⟩
  remarked := fun remark held => ⟨closed.remarked remark held.1, held.2⟩
  heard := fun definition held => ⟨closed.heard definition held.1,
    (Indifferent.of_storage fun storage => fine storage.2).heard definition held.2⟩
  unheard := fun definition held => ⟨closed.unheard definition held.1, held.2⟩
  staffed := fun held => closed.staffed held.1
  founded := fun held => closed.founded held.1
  decorated := by
    intro session dimmer editor held
    refine ⟨closed.decorated dimmer editor held.1, ?_⟩
    rw [Session.settings_of_same_surroundings (Session.decorated_surroundings dimmer session editor)]
    exact held.2
  rebuilt := by
    intro session dimmer style known described held
    refine ⟨closed.rebuilt known described held.1, ?_⟩
    rw [Session.settings_of_same_surroundings (Session.rebuilt_surroundings dimmer session style)]
    exact held.2
  activated := by
    intro session dimmer entry style found idle described held
    refine ⟨closed.activated found idle described held.1, ?_⟩
    rw [Session.activated_settings]
    exact held.2
  deactivated := by
    intro session dimmer known held
    refine ⟨closed.deactivated known held.1, ?_⟩
    rw [Session.deactivated_settings]
    exact held.2

namespace Operation

/-- What saves a single setting and does nothing else. -/
def isSave : Operation → Bool
  | .saveOpacity _ | .saveColor _ | .saveEnabled _ => true
  | _ => false

/-- A saved value that is no colour has to be sound; a colour always is. -/
def isSound : Operation → Bool
  | .saveOpacity value | .saveEnabled value => value.isSound
  | _ => true

end Operation

/-- What is in memory is what would be loaded from disk. -/
def Session.Stored (session : Session) : Prop :=
  Settings.Loading.ofDisk session.disk = .loaded session.settings

/-- Nothing failed, or only a listener, which is told of a setting after it was saved. -/
def wasSaved : Except Fault Outcome → Bool
  | .ok _ => true
  | .error fault => fault.isListeners

section Saving

variable {key : Text} {value : Json} {session : Session}
variable {count : Nat} {fine : Settings → Prop} (kept : Settings.KeptByPut fine)

section Keeping

include kept

theorem save_keeps (known : Settings.isKnown key = true) (sound : value.isSound = true) :
    Keeps (fun session => Tidy count session ∧ fine session.settings) (save key value) := by
  have closed := (Tidy.lasting count).toClosed.with_settings fine
  intro session held
  rcases save_cases key value session with ⟨fault, disk, -, failed⟩ | ⟨disk, logs, -, saved⟩
  · rw [failed]
    exact closed.stored disk held
  · have stored := (Tidy.lasting count).logged logs ((Tidy.lasting count).stored disk
      ((Tidy.lasting count).resettled (session.settings.put key value) held.1))
    rw [saved]
    exact closed.keeps_notify _ _ ⟨stored, kept _ key value known sound held.2⟩

theorem save_color_keeps (value : Json) :
    Keeps (fun session => Tidy count session ∧ fine session.settings) (saveColor value) := by
  unfold saveColor
  split
  next valid => exact save_keeps kept rfl (Color.sound_of_valid valid)
  next => exact keeps_throw _

theorem step_keeps {operation : Operation}
    (sound : operation.isSound = true) (tidy : Tidy count session) (held : fine session.settings) :
    fine (Session.step operation session).2.settings := by
  by_cases known : session.knows operation = true
  · rw [Session.step_of_knows known]
    have closed := (Tidy.lasting count).toClosed.with_settings fine
    have both := And.intro tidy held
    have inside {dimmer : Nat} (concerned : operation.dimmer? = some dimmer) : dimmer < count :=
      closed.known_of_knows both concerned known
    have saves (key : Text) (value : Json) (known : Settings.isKnown key = true)
        (sound : value.isSound = true) :
        Keeps (fun session => Tidy count session ∧ fine session.settings) (save key value) :=
      save_keeps kept known sound
    have done {act : Action Unit} {outcome : Outcome}
        (keeps : Keeps (fun session => Tidy count session ∧ fine session.settings) act) :
        fine ((act >>= fun _ => pure outcome).run session).2.settings :=
      (keeps_bind keeps (fun _ => keeps_pure outcome) session both).2
    let settled (storage : Disk × Settings) : Prop := fine storage.2
    have alone {Value : Type} {act : Action Value} {next : Value → Outcome}
        (keeps : Keeps (fun session => settled session.storage) act) :
        fine ((act >>= fun value => pure (next value)).run session).2.settings :=
      keeps_bind_pure keeps session held
    cases operation with
    | newDimmer | setAfterRebuild => exact held
    | edit | focus | setVisible =>
        exact (closed.keeps_staging (fun stage held => ⟨held.1.restaged stage, held.2⟩) rfl session
          both).2
    -- These reach into a dimmer from outside or read past the session, so nothing is known of them
    -- but that they leave disk and memory alone.
    | createStyle dimmer => exact alone (create_style_keeps_storage settled dimmer)
    | disposeStyle dimmer => exact alone (dispose_style_keeps_storage settled dimmer)
    | disposeWiring dimmer =>
        have keeps (wiring : Nat) : Keeps (fun session => settled session.storage)
            (unsubscribe wiring >>= fun _ => pure Outcome.done) :=
          keeps_bind_pure (unsubscribe_keeps_storage settled wiring)
        exact keeps_with_last_wiring keeps session held
    | readFresh =>
        exact alone (keeps_storage settled fun session => ⟨_, _, read_fresh_yields session, rfl⟩)
    | toggle dimmer => exact done (closed.steady.keeps_toggle (inside rfl) fun _ => saves _ _ rfl rfl)
    | changeOpacity dimmer typing =>
        exact done (closed.steady.keeps_change_opacity (inside rfl)
          (fun _ => saves _ _ rfl rfl) typing)
    | changeColor dimmer picked =>
        exact done (closed.steady.keeps_change_color (inside rfl)
          (fun color => save_color_keeps kept _) picked)
    | saveOpacity value => exact done (saves _ value rfl sound)
    | saveColor value => exact done (save_color_keeps kept value)
    | saveEnabled value => exact done (saves _ value rfl sound)
    | _ => exact (closed.keeps_quiet rfl session both known).2
  · rw [Session.step_of_not_knows known]
    exact held

end Keeping

theorem save_leads_stored (known : Settings.isKnown key = true) (sound : value.isSound = true) :
    Leads (fun session => session.settings.IsSound) (save key value) Session.Stored
      (fun fault session => fault.isListeners = true → session.Stored) := by
  intro session settings
  rcases save_cases key value session with
    ⟨fault, disk, unsaved, failed⟩ | ⟨disk, logs, fit, saved⟩
  · rw [failed]
    cases unsaved <;> exact fun blamed => by cases blamed
  · obtain ⟨rfl, storable⟩ := fit
    have later := Settings.sound_kept _ key value known sound settings
    have stored := Settings.load_written session.disk later storable
    -- Whatever the listeners do, disk and memory stay as they were saved.
    have kept := notify_keeps_storage
      (fun storage => Settings.Loading.ofDisk storage.1 = .loaded storage.2) (Change.ofKeys [key])
      { session with
        disk := session.disk.holding (Settings.encode (session.settings.put key value))
        settings := session.settings.put key value
        logs } stored
    rw [saved]
    revert kept
    rcases (notify (Change.ofKeys [key])).run _ with ⟨fault | value, later⟩
    · exact fun kept _ => kept
    · exact id

theorem save_color_leads_stored (value : Json) :
    Leads (fun session => session.settings.IsSound) (saveColor value) Session.Stored
      (fun fault session => fault.isListeners = true → session.Stored) := by
  unfold saveColor
  split
  next valid => exact save_leads_stored rfl (Color.sound_of_valid valid)
  next => exact fun _ _ blamed => by cases blamed

theorem step_stores {operation : Operation} (saves : operation.isSave = true)
    (sound : operation.isSound = true) (settings : session.settings.IsSound)
    (saved : wasSaved (Session.step operation session).1 = true) :
    (Session.step operation session).2.Stored := by
  have reached {act : Action Unit}
      (leads : Leads (fun session => session.settings.IsSound) act Session.Stored
        (fun fault session => fault.isListeners = true → session.Stored))
      (saved : wasSaved ((act >>= fun _ => pure Outcome.done).run session).1 = true) :
      ((act >>= fun _ => pure Outcome.done).run session).2.Stored := by
    have done := leads_bind leads (fun _ => leads_of_keeps (keeps_pure Outcome.done)
      fun _ _ stored _ => stored) session settings
    revert done saved
    rcases (act >>= fun _ => pure Outcome.done).run session with ⟨fault | outcome, later⟩
    · exact fun blamed stopped => stopped blamed
    · exact fun _ stored => stored
  cases operation with
  | saveOpacity value => exact reached (save_leads_stored rfl sound) saved
  | saveColor value => exact reached (save_color_leads_stored value) saved
  | saveEnabled value => exact reached (save_leads_stored rfl sound) saved
  | _ => cases saves

end Saving

theorem read_fresh_of_stored {session : Session} (stored : session.Stored) :
    (Session.step .readFresh session).1 = (Session.step .readSettings session).1 := by
  have fresh := read_fresh_yields session
  rw [stored] at fresh
  have anew : Yields (ofOperation .readFresh) session
      (.preferences session.settings.preferences) session :=
    yields_bind fresh (yields_pure _ session)
  have remembered : Yields (ofOperation .readSettings) session
      (.preferences session.settings.preferences) session :=
    yields_bind (read_preferences_yields session) (yields_pure _ session)
  obtain ⟨logs, read⟩ := run_of_yields anew
  obtain ⟨others, asked⟩ := run_of_yields remembered
  exact (congrArg Prod.fst read).trans (congrArg Prod.fst asked).symm

/-- Along every run from any settings file, right after any setting was saved the file holds what
is in memory: the same entries in the same order, among them those of the first file that the
program does not know, and the three settings read the same anew as they do in memory. -/
theorem saved_settings_read_back (disk : Disk) (stage : Stage) (operations : List Operation)
    (sound : ∀ operation ∈ operations, operation.isSound = true) :
    ∀ entry ∈ operations.zip ((Session.start disk stage).run operations),
      entry.1.isSave = true → wasSaved entry.2.1 = true →
      Settings.Loading.ofDisk entry.2.2.disk = .loaded entry.2.2.settings ∧
      entry.2.2.settings.unknown = (Settings.Loading.ofDisk disk).settings.unknown ∧
      (Session.step .readFresh entry.2.2).1 = (Session.step .readSettings entry.2.2).1 := by
  let fine (settings : Settings) : Prop :=
    settings.IsSound ∧ settings.unknown = (Settings.Loading.ofDisk disk).settings.unknown
  have keptByPut : Settings.KeptByPut fine := Settings.sound_kept.and (Settings.unknown_kept _)
  let holds (session : Session) : Prop := (∃ count, Tidy count session) ∧ fine session.settings
  let ensured (operation : Operation) (result : Except Fault Outcome × Session) : Prop :=
    operation.isSave = true → wasSaved result.1 = true →
      result.2.Stored ∧ fine result.2.settings
  have advance (operation : Operation) (session : Session) (sound : operation.isSound = true)
      (held : holds session) :
      holds (Session.step operation session).2 ∧
        ensured operation (Session.step operation session) := by
    obtain ⟨⟨count, tidy⟩, settings⟩ := held
    have kept := step_keeps keptByPut sound tidy settings
    exact ⟨⟨tidy.step operation, kept⟩,
      fun saves saved => ⟨step_stores saves sound settings.1 saved, kept⟩⟩
  have start : holds (Session.start disk stage) :=
    ⟨⟨1, Tidy.start disk stage⟩, Settings.Loading.settings_sound disk, rfl⟩
  intro entry reached saves saved
  obtain ⟨stored, -, unknown⟩ := @Session.run_ensures holds (fun operation => operation.isSound = true)
    ensured advance _ start operations sound entry reached saves saved
  exact ⟨stored, unknown, read_fresh_of_stored stored⟩

/-- An entry of the file that the program does not know is saved and loaded beside a new value. -/
theorem unknown_entry_read_back :
    ∃ entry ∈ [Operation.saveOpacity (.number (.double .nan))].zip
        ((Session.start (.present (.bytes (Utf8.encode "\x7b\"theme\": [70, null]\x7d")))
          ⟨[], [], none, []⟩).run [.saveOpacity (.number (.double .nan))]),
      entry.2.2.settings.map Prod.fst = ["theme", "opacity"] ∧
        Settings.Loading.ofDisk entry.2.2.disk = .loaded entry.2.2.settings := by
  refine ⟨_, List.mem_cons_self, by decide +kernel, ?_⟩
  exact (saved_settings_read_back
    (.present (.bytes (Utf8.encode "\x7b\"theme\": [70, null]\x7d"))) ⟨[], [], none, []⟩
    [.saveOpacity (.number (.double .nan))] (by decide) _ List.mem_cons_self (by decide)
    (by decide +kernel)).1

end Dimming
