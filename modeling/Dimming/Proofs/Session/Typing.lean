import Dimming.Proofs.Opacity.Acceptance
import Dimming.Proofs.Session.Restyling

/-!
# Opacities that are typed

What a checked prompt accepts is saved as the number that it is converted to, and is read back as
such from memory and from the file. Only if there is no number, since a blank was accepted that the
conversion stops at, does the command fail with an answer in hand.
-/

set_option autoImplicit false

namespace Dimming

open Dimming.Action

theorem Settings.read_opacity_put {opacity : Number} (inside : opacity.between 0 100 = true)
    (settings : Settings) :
    readOpacity (settings.put opacityKey (.number opacity)) = (opacity, none) := by
  unfold readOpacity
  rw [Mapping.get_put_self]
  dsimp only
  rw [if_pos inside]

namespace Errand

variable (errand : Errand)

theorem finish_keeps_storage (fine : Disk × Settings → Prop) :
    Keeps (fun session => fine session.storage) errand.finish := by
  refine keeps_storage fine fun session => ?_
  obtain ⟨style, described⟩ := session.settings.style_exists
  exact ⟨_, _, finish_yields errand described,
    Session.storage_of_same_surroundings Session.restyled_surroundings⟩

theorem act_saves (session : Session) :
    let result := (errand.act >>= fun _ => pure Outcome.done).run session
    (∃ fault disk, Unsaved errand.key errand.value session fault disk ∧
        result = (.error fault, { session with disk })) ∨
      ∃ disk, Saved errand.key errand.value session disk ∧
        result.2.storage = (disk, session.settings.put errand.key errand.value) ∧
        ∀ fault, result.1 = .error fault → fault.isListeners = true := by
  intro result
  let change := Change.ofKeys [errand.key]
  let settings : Settings := session.settings.put errand.key errand.value
  let next : Action Outcome := errand.finish >>= fun _ => pure .done
  have act : result = (save errand.key errand.value >>= fun _ => next).run session := by
    change (errand.act >>= fun _ => pure Outcome.done).run session = _
    rw [Errand.act, bind_assoc]
  rw [act]
  rcases save_bind_cases errand.key errand.value next session with
    unsaved | ⟨disk, logs, fit, ran⟩
  · exact Or.inl unsaved
  · have keeps : Keeps (fun session => session.storage = (disk, settings))
        (notify change >>= fun _ => next) :=
      keeps_bind (notify_keeps_storage (fun storage => storage = (disk, settings)) change) fun _ =>
        keeps_bind_pure (errand.finish_keeps_storage fun storage => storage = (disk, settings))
    have certain (session : Session) : ∃ value later, Yields next session value later := by
      obtain ⟨style, described⟩ := session.settings.style_exists
      exact ⟨.done, _, yields_bind_pure (finish_yields errand described) _⟩
    have kept := keeps { session with disk, settings, logs } rfl
    have stopped := notify_bind_leads change certain { session with disk, settings, logs } trivial
    rw [ran]
    refine Or.inr ⟨disk, fit, kept, fun fault failed => ?_⟩
    revert stopped failed
    rcases (notify change >>= fun _ => next).run _ with ⟨other | value, later⟩
    · rintro blamed ⟨⟩
      exact blamed
    · rintro - ⟨⟩

end Errand

section Typed

variable {session : Session} {dimmer : Nat} {typing : Typing} {answer : Text}

theorem Typing.problem_none_of_accepted (checked : typing.checked = true)
    (accepted : typing.accepted = some answer) : Opacity.problem? answer = none := by
  have fine := List.find?_some accepted
  unfold Typing.problem? at fine
  rw [checked, if_pos rfl] at fine
  exact Option.isNone_iff_eq_none.1 fine

theorem unconverted_fails {fault : NumberFault}
    (known : session.knows (.changeOpacity dimmer typing) = true)
    (accepted : typing.accepted = some answer) (given : answer ≠ [])
    (failed : Double.ofText answer = .error fault) :
    (Session.step (.changeOpacity dimmer typing) session).1 = .error (.number fault) := by
  obtain ⟨asking, -, ran⟩ := change_opacity_runs dimmer session typing
  rw [accepted, Option.getD_some, if_neg (by simpa using given), failed] at ran
  have stopped : (ofOperation (.changeOpacity dimmer typing)).run session =
      (.error (.number fault), asking) := run_bind_of_error ran
  rw [Session.step_of_knows known]
  exact congrArg Prod.fst stopped

theorem errand_of_converted {opacity : Double} (accepted : typing.accepted = some answer)
    (given : answer ≠ []) (converted : Double.ofText answer = .ok opacity) (settings : Settings) :
    (Operation.changeOpacity dimmer typing).errand? settings =
      some (Errand.ofOpacity dimmer opacity) := by
  unfold Operation.errand?
  dsimp only
  rw [accepted, Option.getD_some, if_neg (by simpa using given), converted]

theorem converted_kept {opacity : Double}
    (known : session.knows (.changeOpacity dimmer typing) = true)
    (accepted : typing.accepted = some answer) (given : answer ≠ [])
    (converted : Double.ofText answer = .ok opacity) :
    (∀ text, (Session.step (.changeOpacity dimmer typing) session).1 ≠
        .error (.number (.notDecimal text))) ∧
      (wasSaved (Session.step (.changeOpacity dimmer typing) session).1 = true →
        ∃ disk, Saved Settings.opacityKey (.number (.double opacity)) session disk ∧
          (Session.step (.changeOpacity dimmer typing) session).2.storage =
            (disk, session.settings.put Settings.opacityKey (.number (.double opacity)))) := by
  have found : (Operation.changeOpacity dimmer typing).errand? session.settings = _ :=
    errand_of_converted accepted given converted session.settings
  have command : (Operation.changeOpacity dimmer typing).isCommand = true := rfl
  rw [Session.step_of_knows known]
  rcases command_course command session with ⟨found', asked, ran⟩ | ⟨idle, -, -⟩ | ⟨idle, -⟩
  · obtain rfl := Option.some.inj (found.symm.trans found')
    obtain ⟨asked, logs, rfl, -⟩ := asked
    rw [ran]
    rcases (Errand.ofOpacity dimmer opacity).act_saves
        { session with happenings := asked ++ session.happenings, logs } with
      ⟨fault, disk, unsaved, failed⟩ | ⟨disk, fit, storage, listeners⟩
    · rw [failed]
      cases unsaved <;> exact ⟨fun _ => nofun, nofun⟩
    · refine ⟨fun text failed => ?_, fun _ => ⟨disk, ⟨fit.written, fit.storable⟩, storage⟩⟩
      cases listeners _ failed
  · rw [found] at idle
    cases idle
  · rw [found] at idle
    cases idle

end Typed

/-- What a checked prompt accepts is exactly a plain number between nought and a hundred with blanks
around it. If the conversion takes all of these for white space, the answer is converted, and once
it is saved the very number is read from memory and from the file. If not, there is no number, and
the command fails with what was typed. -/
theorem accepted_opacity_kept_or_unconverted (answer : Text) (session : Session) (dimmer : Nat)
    (typing : Typing) :
    (Opacity.problem? answer = none ↔
      ∃ plain : PlainNumber, answer.trimBlanks = plain.text ∧
        ∃ opacity, Double.ofText plain.text = .ok opacity ∧ opacity.between 0 100 = true) ∧
    (session.knows (.changeOpacity dimmer typing) = true → typing.checked = true →
      typing.accepted = some answer →
      let result := Session.step (.changeOpacity dimmer typing) session
      (answer.trimSpace = answer.trimBlanks →
        ∃ opacity, Double.ofText answer = .ok opacity ∧
          (∀ text, result.1 ≠ .error (.number (.notDecimal text))) ∧
          (wasSaved result.1 = true →
            result.2.settings.readOpacity = (.double opacity, none) ∧
            (session.settings.IsSound →
              (Settings.Loading.ofDisk result.2.disk).settings.readOpacity =
                (.double opacity, none)))) ∧
      (answer.trimSpace ≠ answer.trimBlanks →
        result.1 = .error (.number (.notDecimal answer)))) := by
  refine ⟨Opacity.accepted_iff, ?_⟩
  intro known checked accepted result
  have fine := Typing.problem_none_of_accepted checked accepted
  have converted := Opacity.of_text_accepted fine
  obtain ⟨plain, trimmed, opacity, number, inside⟩ := Opacity.accepted_iff.1 fine
  have given : answer ≠ [] := by
    rintro rfl
    cases fine
  constructor
  · intro same
    rw [if_pos same, trimmed, number] at converted
    obtain ⟨clean, kept⟩ := converted_kept known accepted given converted
    refine ⟨opacity, converted, clean, fun saved => ?_⟩
    obtain ⟨disk, fit, storage⟩ := kept saved
    have memory : result.2.settings = _ := congrArg Prod.snd storage
    have file : result.2.disk = disk := congrArg Prod.fst storage
    have inside : (Number.double opacity).between 0 100 = true := inside
    have reads := Settings.read_opacity_put inside session.settings
    rw [memory, file, fit.written]
    refine ⟨reads, fun sound => ?_⟩
    rw [Settings.load_written session.disk (Settings.sound_kept _ _ _ rfl rfl sound) fit.storable]
    exact reads
  · intro apart
    rw [if_neg apart] at converted
    exact unconverted_fails known accepted given converted

/-- Digits of another script with wide blanks around them are saved as the number that they are, and
loaded as such. -/
theorem wide_opacity_kept :
    let session := (Session.step (.activate 0) (Session.start .absent ⟨[], [], none, []⟩)).2
    let answer : Text := "\u2003\u0667.\u0665\n"
    let result := Session.step (.changeOpacity 0 ⟨["-1", answer], true⟩) session
    wasSaved result.1 = true ∧ ∃ opacity, Double.ofText answer = .ok opacity ∧
      result.2.settings.readOpacity = (.double opacity, none) ∧
      (Settings.Loading.ofDisk result.2.disk).settings.readOpacity = (.double opacity, none) := by
  intro session answer result
  have saved : wasSaved result.1 = true := by decide +kernel
  have sound : session.settings.IsSound := by
    unfold Settings.IsSound
    decide +kernel
  have both := (accepted_opacity_kept_or_unconverted answer session 0 ⟨["-1", answer], true⟩).2
    (by decide +kernel) rfl (by decide +kernel)
  obtain ⟨opacity, converted, -, kept⟩ := both.1 (by decide)
  exact ⟨saved, opacity, converted, (kept saved).1, (kept saved).2 sound⟩

/-- A separator in front of a digit is trimmed off for the check and is in the way of the
conversion. -/
theorem accepted_opacity_unconverted_behind_separator :
    let typing : Typing := ⟨["\x1c5"], true⟩
    typing.accepted = some "\x1c5" ∧
      (Session.step (.changeOpacity 0 typing) (Session.start .absent ⟨[], [], none, []⟩)).1 =
        .error (.number (.notDecimal "\x1c5")) := by
  have accepted : (Typing.mk ["\x1c5"] true).accepted = some "\x1c5" := by decide +kernel
  have failed : Double.ofText "\x1c5" = .error (.notDecimal "\x1c5") := by decide +kernel
  exact ⟨accepted, unconverted_fails rfl accepted (by decide) failed⟩

end Dimming
