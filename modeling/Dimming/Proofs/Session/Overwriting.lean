import Dimming.Proofs.Session.Freshness
import Dimming.Proofs.Session.Typing

/-!
# What a save writes

A save writes the settings in memory with the one value set, whatever the file holds by then. What
others have written since it was read or saved last is written over, so the other entries of the file
stay as they are exactly if memory has the same ones; and it has as long as nobody else writes. A
save that breaks off leaves a file from which nothing is loaded.
-/

set_option autoImplicit false

namespace Dimming

open Dimming.Action

namespace Operation

def isForeign : Operation → Bool
  | .changeDisk _ => true
  | _ => false

end Operation

namespace Mapping

variable {Key Value : Type} [DecidableEq Key]

theorem get_put_agrees_iff {key : Key} {value : Value} {mapping others : Mapping Key Value} :
    (∀ other, (mapping.put key value).get? other = (others.put key value).get? other) ↔
      ∀ other, other ≠ key → mapping.get? other = others.get? other := by
  apply forall_congr'
  intro other
  by_cases here : other = key
  · simp [here, get_put_self]
  · simp [here, get_put_of_ne (Ne.symm here)]

end Mapping

/-- A property of disk and memory that is kept when the settings are written with a new value, and
by what is left on disk where that fails. -/
structure KeptBySave (fine : Disk × Settings → Prop) : Prop where
  saved : ∀ {session key value disk}, Settings.isKnown key = true → value.isSound = true →
    fine session.storage → Saved key value session disk → fine (disk, session.settings.put key value)
  unsaved : ∀ {session key value fault disk}, Settings.isKnown key = true → value.isSound = true →
    fine session.storage → Unsaved key value session fault disk → fine (disk, session.settings)

/-- If settings are loaded from disk, they are the ones in memory. -/
def Alike (storage : Disk × Settings) : Prop :=
  ∀ held, Settings.Loading.ofDisk storage.1 = .loaded held → held = storage.2

theorem alike_of_stored {session : Session} (stored : session.Stored) : Alike session.storage :=
  fun _ found => Settings.Loading.loaded.inj (found.symm.trans stored)

theorem Settings.Loading.of_refused {disk later : Disk} (refuses : disk.Refuses later) :
    ofDisk later = ofDisk disk := by
  unfold ofDisk
  rw [refuses.file]

theorem alike_kept :
    KeptBySave fun storage => storage.2.IsSound ∧ Alike storage where
  saved := by
    intro session key value disk known sound held fit
    have later : Settings.IsSound (session.settings.put key value) :=
      Settings.sound_kept _ key value known sound held.1
    refine ⟨later, fun settings found => ?_⟩
    have written := Settings.load_written session.disk later fit.storable
    rw [← fit.written] at written
    exact Settings.Loading.loaded.inj (found.symm.trans written)
  unsaved := by
    intro session key value fault disk known sound held unsaved
    refine ⟨held.1, fun settings found => ?_⟩
    cases unsaved with
    | refused refuses => exact held.2 settings ((Settings.Loading.of_refused refuses).symm.trans found)
    | brokenOff unfit =>
        -- What is in the file by half is no object, so nothing is loaded from it.
        obtain ⟨text, flaw, unread⟩ :=
          Settings.load_part (Settings.sound_kept _ key value known sound held.1) unfit
        cases unread.symm.trans found

namespace Session

/-- The entry that an operation puts into the settings if it comes to save one: what a save is
given, or what a command goes about. -/
def saves? (session : Session) (operation : Operation) : Option (Text × Json) :=
  match operation with
  | .saveOpacity value => some (Settings.opacityKey, value)
  | .saveColor value => some (Settings.colorKey, value)
  | .saveEnabled value => some (Settings.enabledKey, value)
  | _ =>
      if session.knows operation then
        (operation.errand? session.settings).map fun errand => (errand.key, errand.value)
      else none

theorem errand_of_saves {session : Session} {operation : Operation} {key : Text} {value : Json}
    (command : operation.isSave = false) (entry : session.saves? operation = some (key, value)) :
    session.knows operation = true ∧ ∃ errand : Errand,
      operation.errand? session.settings = some errand ∧ errand.key = key ∧ errand.value = value := by
  have going : (if session.knows operation then
      (operation.errand? session.settings).map fun errand => (errand.key, errand.value)
      else none) = some (key, value) := by
    cases operation with
    | saveOpacity | saveColor | saveEnabled => cases command
    | _ => exact entry
  split at going
  next known =>
    obtain ⟨errand, found, same⟩ := Option.map_eq_some_iff.1 going
    cases same
    exact ⟨known, errand, found, rfl, rfl⟩
  next => cases going

theorem activated_storage (dimmer : Nat) (session : Session) (style : Style) :
    (session.activated dimmer style).storage = session.storage :=
  (storage_of_same_wardrobe (wired_wardrobe dimmer _)).trans
    (storage_of_same_surroundings (presented_surroundings dimmer session style))

theorem deactivated_storage (dimmer : Nat) (session : Session) :
    (session.deactivated dimmer).storage = session.storage :=
  (storage_of_same_surroundings (undressed_surroundings dimmer _)).trans
    (storage_of_same_wardrobe (unwired_wardrobe dimmer session))

end Session

section Steps

variable {fine : Disk × Settings → Prop} {session : Session} {operation : Operation}

section Quiet

variable (fine)

theorem surroundings_keep_storage {Value : Type} {action : Action Value}
    (leads : ∀ session, ∃ value later, Yields action session value later ∧
      later.surroundings = session.surroundings) :
    Keeps (fun session => fine session.storage) action := by
  apply keeps_storage
  intro session
  obtain ⟨value, later, yields, same⟩ := leads session
  exact ⟨value, later, yields, Session.storage_of_same_surroundings same⟩

theorem update_one_keeps_storage (dimmer : Nat) (editor : Option Nat) :
    Keeps (fun session => fine session.storage) (updateOne dimmer editor) := by
  apply surroundings_keep_storage
  exact fun session => ⟨(), _, update_one_yields dimmer editor session,
    (Session.dressing_surroundings dimmer session).decorated_one editor rfl⟩

theorem update_all_keeps_storage (dimmer : Nat) :
    Keeps (fun session => fine session.storage) (updateAll dimmer) := by
  apply surroundings_keep_storage
  exact fun session => ⟨(), _, update_all_yields dimmer session,
    Session.decorated_all_surroundings dimmer session _⟩

theorem rebuild_keeps_storage (dimmer : Nat) :
    Keeps (fun session => fine session.storage) (rebuild dimmer) := by
  apply surroundings_keep_storage
  intro session
  obtain ⟨style, described⟩ := session.settings.style_exists
  exact ⟨(), _, rebuild_yields dimmer described, Session.rebuilt_surroundings dimmer session style⟩

theorem configuration_changed_keeps_storage (change : Change) (wiring : Nat) :
    Keeps (fun session => fine session.storage) (configurationChanged change wiring) := by
  apply surroundings_keep_storage
  intro session
  obtain ⟨later, yields, same⟩ := configuration_changed_yields change wiring session
  exact ⟨(), later, yields, same⟩

theorem activate_keeps_storage (dimmer : Nat) :
    Keeps (fun session => fine session.storage) (activate dimmer) := by
  apply (Indifferent.of_storage fine).keeps_activate
  intro session entry style _ _ _ held
  rw [Session.activated_storage]
  exact held

theorem deactivate_keeps_storage (dimmer : Nat) :
    Keeps (fun session => fine session.storage) (deactivate dimmer) := by
  apply keeps_storage
  exact fun session => ⟨(), _, deactivate_yields dimmer session,
    Session.deactivated_storage dimmer session⟩

theorem edit_keeps_storage (editor : Nat) (text language : Option Text) (announced : Bool) :
    Keeps (fun session => fine session.storage) (edit editor text language announced) := by
  apply keeps_get_bind
  intro session held
  cases session.stage.editors[editor]? with
  | none => exact held
  | some document =>
      let holds (session : Session) : Prop := fine session.storage
      have told : Keeps holds (announceDocument document) := by
        refine keeps_get_bind fun session => keeps_for_each _ (fun wiring _ => ?_) session
        apply surroundings_keep_storage
        exact fun session => ⟨(), _, document_changed_yields document wiring session,
          Session.told_document_surroundings session document wiring⟩
      have changed : Keeps holds (modify fun session => { session with
          stage.documents := session.stage.documents.modify document fun old =>
            ⟨text.getD old.text, language.getD old.language⟩ }) := fun _ held => held
      refine keeps_bind changed (fun _ => ?_) session held
      cases announced with
      | false => exact keeps_pure _
      | true => exact told

theorem focus_keeps_storage (editor : Option Nat) (announced : Bool) :
    Keeps (fun session => fine session.storage) (focus editor announced) := by
  let holds (session : Session) : Prop := fine session.storage
  have told : Keeps holds (announceActive editor) := by
    refine keeps_get_bind fun session => keeps_for_each _ (fun wiring _ => ?_) session
    apply surroundings_keep_storage
    exact fun session => ⟨(), _, active_editor_changed_yields editor wiring session,
      Session.told_active_surroundings session editor wiring⟩
  have changed : Keeps holds (modify fun session => { session with stage.active := editor }) :=
    fun _ held => held
  refine keeps_bind changed fun _ => ?_
  cases announced with
  | false => exact keeps_pure _
  | true => exact told

end Quiet

section Saving

variable (kept : KeptBySave fine)

include kept

theorem save_keeps_storage {key : Text} {value : Json} (known : Settings.isKnown key = true)
    (sound : value.isSound = true) :
    Keeps (fun session => fine session.storage) (save key value) := by
  intro session held
  rcases save_cases key value session with
    ⟨fault, disk, unsaved, failed⟩ | ⟨disk, logs, fit, saved⟩
  · have left := kept.unsaved known sound held unsaved
    rw [failed]
    exact left
  · rw [saved]
    exact notify_keeps_storage fine _ _ (kept.saved known sound held fit)

theorem save_color_keeps_storage (value : Json) :
    Keeps (fun session => fine session.storage) (saveColor value) := by
  unfold saveColor
  split
  next valid => exact save_keeps_storage kept rfl (Color.sound_of_valid valid)
  next => exact keeps_throw _

theorem command_keeps_storage (command : operation.isCommand = true)
    (held : fine session.storage) : fine (Session.step operation session).2.storage := by
  by_cases known : session.knows operation = true
  · rw [Session.step_of_knows known]
    rcases command_course command session with ⟨found, asked, ran⟩ | ⟨-, asked, ran⟩ | ⟨-, ran⟩
    · obtain ⟨-, -, keyKnown, sound⟩ := errand_facts found
      obtain ⟨asked, logs, rfl, -⟩ := asked
      have asking : fine { session with
        happenings := asked ++ session.happenings, logs }.storage := held
      rw [ran]
      rcases Errand.act_saves _ { session with happenings := asked ++ session.happenings, logs } with
        ⟨fault, disk, unsaved, failed⟩ | ⟨disk, fit, storage, -⟩
      · have left := kept.unsaved keyKnown sound asking unsaved
        rw [failed]
        exact left
      · rw [storage]
        exact kept.saved keyKnown sound asking fit
    · obtain ⟨asked, logs, rfl, -⟩ := asked
      rw [ran]
      exact held
    · rw [ran]
      exact held
  · rw [Session.step_of_not_knows known]
    exact held

theorem operation_keeps_storage (own : operation.isForeign = false) (sound : operation.isSound = true)
    (alone : operation.isCommand = false) (held : fine session.storage) :
    fine ((ofOperation operation).run session).2.storage := by
  let holds (session : Session) : Prop := fine session.storage
  have indifferent : Indifferent holds := Indifferent.of_storage fine
  suffices keeps : Keeps holds (ofOperation operation) from keeps session held
  cases operation with
  | toggle | changeOpacity | changeColor => cases alone
  | changeDisk => cases own
  | activate dimmer => exact keeps_bind_pure (activate_keeps_storage fine dimmer)
  | deactivate dimmer => exact keeps_bind_pure (deactivate_keeps_storage fine dimmer)
  | saveOpacity value => exact keeps_bind_pure (save_keeps_storage kept rfl sound)
  | saveColor value => exact keeps_bind_pure (save_color_keeps_storage kept value)
  | saveEnabled value => exact keeps_bind_pure (save_keeps_storage kept rfl sound)
  | readSettings => exact keeps_bind_pure indifferent.keeps_read_preferences
  | readFresh =>
      apply keeps_bind_pure
      exact keeps_storage fine fun session => ⟨_, _, read_fresh_yields session, rfl⟩
  | edit editor text language announced =>
      exact keeps_bind_pure (edit_keeps_storage fine editor text language announced)
  | focus editor announced => exact keeps_bind_pure (focus_keeps_storage fine editor announced)
  | updateOne dimmer editor => exact keeps_bind_pure (update_one_keeps_storage fine dimmer editor)
  | updateAll dimmer => exact keeps_bind_pure (update_all_keeps_storage fine dimmer)
  | decorateActive dimmer =>
      apply keeps_bind_pure
      exact keeps_get_bind fun session => update_one_keeps_storage fine dimmer _ session
  | createStyle dimmer => exact keeps_bind_pure (create_style_keeps_storage fine dimmer)
  | disposeStyle dimmer => exact keeps_bind_pure (dispose_style_keeps_storage fine dimmer)
  | rebuild dimmer => exact keeps_bind_pure (rebuild_keeps_storage fine dimmer)
  | buildStyle => exact keeps_bind_pure indifferent.keeps_build_style
  | configurationChanged dimmer keys =>
      have keeps (wiring : Nat) := configuration_changed_keeps_storage fine (.ofKeys keys) wiring
      exact keeps_with_last_wiring (fun wiring => keeps_bind_pure (keeps wiring))
  | disposeWiring dimmer =>
      have keeps (wiring : Nat) := unsubscribe_keeps_storage fine wiring
      exact keeps_with_last_wiring (fun wiring => keeps_bind_pure (keeps wiring))
  | addListener name =>
      have keeps (definition : Nat) := indifferent.keeps_add_listener definition
      exact keeps_with_found fun definition => keeps_bind_pure (keeps definition)
  | removeListener name =>
      have keeps (definition : Nat) := indifferent.keeps_remove_listener definition
      exact keeps_with_found fun definition => keeps_bind_pure (keeps definition)
  | editElsewhere =>
      intro session held
      rw [edit_elsewhere_runs]
      exact held
  | newDimmer | setVisible | defineListener | setAfterRebuild => exact fun _ held => held

theorem step_keeps_storage (own : operation.isForeign = false) (sound : operation.isSound = true)
    (held : fine session.storage) : fine (Session.step operation session).2.storage := by
  cases command : operation.isCommand with
  | true => exact command_keeps_storage kept command held
  | false =>
      by_cases known : session.knows operation = true
      · rw [Session.step_of_knows known]
        exact operation_keeps_storage kept own sound command held
      · rw [Session.step_of_not_knows known]
        exact held

end Saving

section Saved

variable {key : Text} {value : Json}

theorem save_writes
    (saved : wasSaved ((save key value >>= fun _ => pure Outcome.done).run session).1 = true) :
    Settings.isStorable (session.settings.put key value) = true ∧
      ((save key value >>= fun _ => pure Outcome.done).run session).2.storage =
        (session.disk.holding (Settings.encode (session.settings.put key value)),
          session.settings.put key value) := by
  rcases save_bind_cases key value (pure Outcome.done) session with
    ⟨fault, disk, unsaved, failed⟩ | ⟨disk, logs, ⟨written, storable⟩, ran⟩
  · rw [failed] at saved
    cases unsaved <;> cases saved
  · let storage := (disk, session.settings.put key value)
    have keeps : Keeps (fun later => later.storage = storage)
        (notify (Change.ofKeys [key]) >>= fun _ => pure Outcome.done) :=
      keeps_bind_pure (notify_keeps_storage (· = storage) _)
    rw [ran, ← written]
    exact ⟨storable, keeps _ rfl⟩

theorem save_color_writes
    (saved : wasSaved ((saveColor value >>= fun _ => pure Outcome.done).run session).1 = true) :
    Settings.isStorable (session.settings.put Settings.colorKey value) = true ∧
      ((saveColor value >>= fun _ => pure Outcome.done).run session).2.storage =
        (session.disk.holding (Settings.encode (session.settings.put Settings.colorKey value)),
          session.settings.put Settings.colorKey value) := by
  unfold saveColor at saved ⊢
  split at saved
  next valid => simpa [valid] using save_writes saved
  next => cases saved

theorem command_writes (known : session.knows operation = true) {errand : Errand}
    (found : operation.errand? session.settings = some errand)
    (saved : wasSaved (Session.step operation session).1 = true) :
    Settings.isStorable (session.settings.put errand.key errand.value) = true ∧
      (Session.step operation session).2.storage =
        (session.disk.holding (Settings.encode (session.settings.put errand.key errand.value)),
          session.settings.put errand.key errand.value) := by
  rw [Session.step_of_knows known] at saved ⊢
  rcases command_course (errand_facts found).1 session with
    ⟨found', asked, ran⟩ | ⟨idle, -, -⟩ | ⟨idle, -⟩
  · obtain rfl := Option.some.inj (found.symm.trans found')
    obtain ⟨asked, logs, rfl, -⟩ := asked
    rw [ran] at saved ⊢
    rcases errand.act_saves { session with happenings := asked ++ session.happenings, logs } with
      ⟨fault, disk, unsaved, failed⟩ | ⟨disk, ⟨written, storable⟩, storage, -⟩
    · rw [failed] at saved
      cases unsaved <;> cases saved
    · rw [written] at storage
      exact ⟨storable, storage⟩
  · rw [found] at idle
    cases idle
  · rw [found] at idle
    cases idle

theorem step_writes (entry : session.saves? operation = some (key, value))
    (saved : wasSaved (Session.step operation session).1 = true) :
    Settings.isStorable (session.settings.put key value) = true ∧
      (Session.step operation session).2.storage =
        (session.disk.holding (Settings.encode (session.settings.put key value)),
          session.settings.put key value) := by
  cases alone : operation.isSave with
  | false =>
      obtain ⟨known, errand, found, rfl, rfl⟩ := Session.errand_of_saves alone entry
      exact command_writes known found saved
  | true =>
      cases operation with
      | saveOpacity | saveEnabled =>
          cases entry
          exact save_writes saved
      | saveColor =>
          cases entry
          exact save_color_writes saved
      | _ => cases alone

end Saved

end Steps

def Settings.Loading.isLoaded : Settings.Loading → Bool
  | .loaded _ => true
  | _ => false

namespace Session

/-- Whether settings that are loaded from the file after operations are known to be the ones in
memory, if that is known or not before. A save brings it about, and what others do puts an end to
it. -/
def keepsUp : Session → Bool → List Operation → Bool
  | _, alike, [] => alike
  | session, alike, operation :: operations =>
      let result := step operation session
      keepsUp result.2
        ((session.saves? operation).isSome && wasSaved result.1 || alike && !operation.isForeign)
        operations

variable {session : Session} {operation : Operation} {alike : Bool}

theorem step_settings_sound (sound : operation.isSound = true)
    (held : session.settings.IsSound) : (step operation session).2.settings.IsSound := by
  cases foreign : operation.isForeign with
  | true =>
      cases operation with
      | changeDisk => exact held
      | _ => cases foreign
  | false =>
      have kept : KeptBySave fun storage => storage.2.IsSound :=
        { saved := fun known fine held _ => Settings.sound_kept _ _ _ known fine held
          unsaved := fun _ _ held _ => held }
      exact step_keeps_storage kept foreign sound held

theorem stored_of_saved {key : Text} {value : Json} (sound : operation.isSound = true)
    (settings : session.settings.IsSound) (entry : session.saves? operation = some (key, value))
    (saved : wasSaved (step operation session).1 = true) : (step operation session).2.Stored := by
  obtain ⟨storable, storage⟩ := step_writes entry saved
  have file : (step operation session).2.disk = _ := congrArg Prod.fst storage
  have memory : (step operation session).2.settings = _ := congrArg Prod.snd storage
  have later := step_settings_sound sound settings
  rw [memory] at later
  rw [Stored, file, memory]
  exact Settings.load_encode later storable

theorem step_keeps_up (sound : operation.isSound = true) (settings : session.settings.IsSound)
    (held : alike = true → Alike session.storage)
    (after : ((session.saves? operation).isSome && wasSaved (step operation session).1 ||
      alike && !operation.isForeign) = true) : Alike (step operation session).2.storage := by
  rw [Bool.or_eq_true, Bool.and_eq_true, Bool.and_eq_true, Bool.not_eq_true'] at after
  rcases after with ⟨saves, saved⟩ | ⟨before, own⟩
  · obtain ⟨entry, going⟩ := Option.isSome_iff_exists.1 saves
    exact alike_of_stored (stored_of_saved sound settings going saved)
  · exact (step_keeps_storage alike_kept own sound ⟨settings, held before⟩).2

theorem alike_of_keeps_up {operations : List Operation}
    (sound : ∀ operation ∈ operations, operation.isSound = true)
    (settings : session.settings.IsSound) (held : alike = true → Alike session.storage) :
    (session.through operations).settings.IsSound ∧
      (session.keepsUp alike operations = true → Alike (session.through operations).storage) := by
  induction operations generalizing session alike with
  | nil => exact ⟨settings, held⟩
  | cons operation operations ih =>
      rw [List.forall_mem_cons] at sound
      exact ih sound.2 (step_settings_sound sound.1 settings) (step_keeps_up sound.1 settings held)

theorem stored_of_alike (alike : Alike session.storage)
    (loaded : (Settings.Loading.ofDisk session.disk).isLoaded = true) : session.Stored := by
  unfold Stored
  cases found : Settings.Loading.ofDisk session.disk with
  | loaded held => exact congrArg Settings.Loading.loaded (alike held found)
  | _ =>
      rw [found] at loaded
      cases loaded

theorem alike_at_start (disk : Disk) (stage : Stage) : Alike (start disk stage).storage := by
  intro held found
  change held = (Settings.Loading.ofDisk disk).settings
  rw [show Settings.Loading.ofDisk disk = .loaded held from found]
  rfl

theorem alike_along (disk : Disk) (stage : Stage) {operations : List Operation}
    (sound : ∀ operation ∈ operations, operation.isSound = true) :
    ((start disk stage).through operations).settings.IsSound ∧
      ((start disk stage).keepsUp (Settings.Loading.ofDisk disk).isLoaded operations = true →
        Alike ((start disk stage).through operations).storage) := by
  have settings : (start disk stage).settings.IsSound := Settings.Loading.settings_sound disk
  exact alike_of_keeps_up sound settings fun _ => alike_at_start disk stage

end Session

/-- A save writes what is in memory. Along every run, a save or command that comes to save a
setting writes the settings in memory with the one value set, whatever the file holds by then. So
of the entries that the file holds, just the saved one is changed exactly if memory has the same
other ones; and it has as long as nobody else has written since the file was loaded or a setting
was saved last. -/
theorem save_writes_memory (disk : Disk) (stage : Stage) (operations : List Operation)
    (operation : Operation) {key : Text} {value : Json} :
    let start := Session.start disk stage
    let session := start.through operations
    let result := Session.step operation session
    session.saves? operation = some (key, value) → wasSaved result.1 = true →
      result.2.disk = session.disk.holding (Settings.encode (session.settings.put key value)) ∧
      ((∀ earlier ∈ operations, earlier.isSound = true) → operation.isSound = true →
        ∃ written, Settings.Loading.ofDisk result.2.disk = .loaded written ∧
          ∀ held, Settings.Loading.ofDisk session.disk = .loaded held →
            ((∀ other, written.get? other = (held.put key value).get? other) ↔
              ∀ other, other ≠ key → session.settings.get? other = held.get? other) ∧
            (start.keepsUp (Settings.Loading.ofDisk disk).isLoaded operations = true →
              written = held.put key value)) := by
  intro start session result entry saved
  obtain ⟨-, storage⟩ := step_writes entry saved
  have file : result.2.disk =
      session.disk.holding (Settings.encode (session.settings.put key value)) :=
    congrArg Prod.fst storage
  have memory : result.2.settings = session.settings.put key value := congrArg Prod.snd storage
  refine ⟨file, fun sound fine => ?_⟩
  obtain ⟨settings, alike⟩ := Session.alike_along disk stage sound
  have written : result.2.Stored := Session.stored_of_saved fine settings entry saved
  rw [Session.Stored, memory] at written
  refine ⟨_, written, fun held found => ⟨Mapping.get_put_agrees_iff, fun up => ?_⟩⟩
  rw [alike up held found]
  rfl

/-- An entry that the program does not know is loaded at the start and outlives three saves. -/
theorem loaded_entry_outlives_saves :
    let disk : Disk := .present (.bytes (Utf8.encode "\x7b\"theme\": \"dark\"\x7d"))
    let operations : List Operation := [.saveColor (.string "#ff0000"), .toggle 0]
    let session := (Session.start disk ⟨[], [], none, []⟩).through operations
    let result := Session.step (.saveOpacity (.number (.int 20))) session
    session.settings.map Prod.fst = ["theme", "color", "enabled"] ∧ wasSaved result.1 = true ∧
      Settings.Loading.ofDisk result.2.disk =
        .loaded (session.settings.put Settings.opacityKey (.number (.int 20))) := by
  intro disk operations session result
  have saved : wasSaved result.1 = true := by decide +kernel
  have sound : ∀ earlier ∈ operations, earlier.isSound = true := by decide
  have up : (Session.start disk ⟨[], [], none, []⟩).keepsUp
      (Settings.Loading.ofDisk disk).isLoaded operations = true := by decide +kernel
  have found : Settings.Loading.ofDisk session.disk = .loaded session.settings :=
    Session.stored_of_alike ((Session.alike_along disk ⟨[], [], none, []⟩ sound).2 up)
      (by decide +kernel)
  have entry : session.saves? (.saveOpacity (.number (.int 20))) =
      some (Settings.opacityKey, .number (.int 20)) := rfl
  refine ⟨by decide +kernel, saved, ?_⟩
  obtain ⟨written, loaded, kept⟩ :=
    (save_writes_memory disk ⟨[], [], none, []⟩ operations _ entry saved).2 sound rfl
  have same := (kept session.settings found).2 up
  dsimp only [result, session]
  exact loaded.trans (congrArg Settings.Loading.loaded same)

/-- What others have written is lost: an entry put in by hand, and the colour that another session
on the same file has saved since this one began. -/
theorem entries_of_others_lost :
    let stage : Stage := ⟨[], [], none, []⟩
    let theirs := (Session.step (.saveColor (.string "#ff0000")) (Session.start .absent stage)).2
    let keysOf (disk : Disk) : List Text := (Settings.Loading.ofDisk disk).settings.map Prod.fst
    let saving (content : List UInt8) : Session × Except Fault Outcome × Session :=
      let session := (Session.start .absent stage).through [.changeDisk (.fill content)]
      (session, Session.step (.saveOpacity (.number (.int 20))) session)
    let edited := saving (Utf8.encode "\x7b\"theme\": \"dark\"\x7d")
    let shared := saving (theirs.disk.content?.getD [])
    (keysOf edited.1.disk = ["theme"] ∧ wasSaved edited.2.1 = true ∧
        keysOf edited.2.2.disk = ["opacity"]) ∧
      keysOf shared.1.disk = ["color"] ∧ wasSaved shared.2.1 = true ∧
        keysOf shared.2.2.disk = ["opacity"] := by
  decide +kernel

end Dimming
