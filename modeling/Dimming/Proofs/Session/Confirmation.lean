import Dimming.Proofs.Session.Restyling

/-!
# Commands that save

A command that has saved its value does the whole job in order: whatever was live before is
disposed of, the new style is worn and shown in every visible editor, and only then, once, is the
user told. In between styles may come and go, since the listeners that are told of the value build
them too.
-/

set_option autoImplicit false

namespace Dimming

open Dimming.Action

namespace Operation

def replacesFor (dimmer : Nat) : Operation → Bool
  | .setAfterRebuild other _ => other == dimmer
  | _ => false

end Operation

/-- A tidy session in which a dimmer decorates all editors when its style has been rebuilt. -/
structure Refreshing (count dimmer : Nat) (session : Session) : Prop
    extends Tidy count session where
  refreshing : ∀ entry, session.dimmer? dimmer = some entry → entry.afterRebuild = .updateAll

namespace Refreshing

variable {count dimmer other : Nat} {session later : Session}

theorem of_same_surroundings (held : Refreshing count dimmer session) (tidy : Tidy count later)
    (same : later.surroundings = session.surroundings) : Refreshing count dimmer later where
  toTidy := tidy
  refreshing := by
    intro entry found
    obtain ⟨old, known, -, after⟩ := Session.found_of_same_surroundings same found
    exact after.trans (held.refreshing old known)

theorem activated (held : Refreshing count dimmer session) (known : other < count)
    (style : Style) : Refreshing count dimmer (session.activated other style) where
  toTidy := held.toTidy.activated known style
  refreshing := by
    intro entry found
    obtain ⟨between, known, after, -⟩ := Session.found_of_wired found
    obtain ⟨old, known, -, after'⟩ := Session.found_of_same_surroundings
      (Session.presented_surroundings other session style) known
    exact (after.trans after').trans (held.refreshing old known)

theorem deactivated (held : Refreshing count dimmer session) (other : Nat) :
    Refreshing count dimmer (session.deactivated other) where
  toTidy := held.toTidy.deactivated other
  refreshing := by
    intro entry found
    obtain ⟨between, known, -, after⟩ := Session.found_of_same_surroundings
      (Session.undressed_surroundings other (session.unwired other)) found
    obtain ⟨old, known, after', -⟩ := Session.found_of_unwired known
    exact (after.trans after').trans (held.refreshing old known)

theorem joined (held : Refreshing count dimmer session) :
    Refreshing (count + 1) dimmer session.joined where
  toTidy := held.toTidy.joined
  refreshing := by
    intro entry found
    rcases Session.found_of_joined found with old | rfl
    · exact held.refreshing entry old
    · rfl

theorem start (disk : Disk) (stage : Stage) : Refreshing 1 dimmer (Session.start disk stage) where
  toTidy := Tidy.start disk stage
  refreshing := by
    intro entry found
    rw [List.mem_singleton.1 (List.mem_of_getElem? found)]
    rfl

theorem lasting (count dimmer : Nat) : Lasting count (Refreshing count dimmer) where
  logged := fun logs held => { held with toTidy := (Tidy.lasting count).logged logs held.toTidy }
  stored := fun disk held => { held with toTidy := (Tidy.lasting count).stored disk held.toTidy }
  resettled := fun _ held => { held with toTidy := (Tidy.lasting count).resettled _ held.toTidy }
  defined := fun _ held => { held with toTidy := (Tidy.lasting count).defined _ held.toTidy }
  remarked := fun remark held =>
    { held with toTidy := (Tidy.lasting count).remarked remark held.toTidy }
  heard := by
    intro session definition held
    have tidy := (Tidy.lasting count).heard definition held.toTidy
    obtain ⟨more, same, -⟩ := Session.heard_by_eq session (.defined definition)
    rw [same] at tidy ⊢
    exact { held with toTidy := tidy }
  unheard := fun definition held =>
    { held with toTidy := (Tidy.lasting count).unheard definition held.toTidy }
  staffed := fun held => held.staffed
  founded := fun held => held.founded _ _
  decorated := fun other editor held => held.of_same_surroundings
    (held.toTidy.decorated other editor) (Session.decorated_surroundings other _ editor)
  rebuilt := fun known _ held => held.of_same_surroundings ((Tidy.dressing known).rebuilt _ held.toTidy)
    (Session.rebuilt_surroundings _ _ _)
  activated := fun found _ _ held => held.activated (held.toStaffed.known found) _
  deactivated := fun _ held => held.deactivated _
  undressed := fun other held => held.of_same_surroundings (held.toTidy.undressed other)
    (Session.undressed_surroundings other _)

theorem redressed (held : Refreshing count dimmer session) (known : other < count) (style : Style) :
    Refreshing count dimmer ((session.undressed other).dressed other style) :=
  held.of_same_surroundings (held.toTidy.redressed known style)
    ((Session.dressed_surroundings _ _ style).trans (Session.undressed_surroundings other session))

theorem unsubscribed (held : Refreshing count dimmer session) (wiring : Nat) :
    Refreshing count dimmer (session.unsubscribed wiring) := by
  refine ⟨held.toTidy.unsubscribed wiring, ?_⟩
  unfold Session.dimmer?
  rw [Session.unsubscribed_dimmers]
  exact held.refreshing

theorem resolved (held : Refreshing count dimmer session) (apart : (other == dimmer) = false)
    (after : AfterRebuild) :
    Refreshing count dimmer
      { session with
        dimmers := session.dimmers.modify other fun entry =>
          { entry with afterRebuild := after } } := by
  refine ⟨held.toTidy.resolved other after, fun entry found => ?_⟩
  have found : session.dimmer? dimmer = some entry :=
    (Session.found_of_modify_ne _ (by simpa using apart)).symm.trans found
  exact held.refreshing entry found

theorem step {operation : Operation} (kept : operation.replacesFor dimmer = false)
    (held : Refreshing count dimmer session) :
    ∃ count', Refreshing count' dimmer (Session.step operation session).2 := by
  by_cases alone : operation = .newDimmer
  · subst alone
    exact ⟨count + 1, held.joined⟩
  · refine ⟨count, (lasting count dimmer).keeps_step
      (fun style known held => held.redressed known style)
      (fun other after same held => held.resolved ?_ after)
      (fun wiring held => held.unsubscribed wiring) alone
      (fun stage held => { held with toTidy := held.toTidy.restaged stage }) session held⟩
    rw [same] at kept
    exact kept

end Refreshing

/-- A session that can come about, whatever is done and whatever fails on the way, as long as
nobody replaces what a dimmer does after its style has been rebuilt. -/
inductive Reachable (dimmer : Nat) : Session → Prop where
  | start (disk : Disk) (stage : Stage) : Reachable dimmer (Session.start disk stage)
  | step {operation : Operation} (kept : operation.replacesFor dimmer = false) {session : Session}
      (before : Reachable dimmer session) :
      Reachable dimmer (Session.step operation session).2

theorem Reachable.refreshing {dimmer : Nat} {session : Session}
    (reachable : Reachable dimmer session) : ∃ count, Refreshing count dimmer session := by
  induction reachable with
  | start disk stage => exact ⟨1, Refreshing.start disk stage⟩
  | step kept before ih =>
      obtain ⟨count, held⟩ := ih
      exact held.step kept

namespace Tidy

variable {count : Nat} {session : Session}

theorem asked {asked : List Happening} (tidy : Tidy count session)
    (questions : ∀ happening ∈ asked, happening.event.isQuestion = true) :
    Tidy count { session with happenings := asked ++ session.happenings } := by
  induction asked with
  | nil => exact tidy
  | cons happening asked ih =>
      obtain ⟨question, questions⟩ := List.forall_mem_cons.1 questions
      have before := ih questions
      obtain ⟨author, event⟩ := happening
      cases event with
      | asked | refused | offered => exact before.happened author rfl rfl
      | _ => cases question

theorem disposed_between {dimmer handle : Nat} {later : Session} {since : List Happening}
    (tidy : Tidy count session) (tidy' : Tidy count later)
    (worn : session.decoration? dimmer = some handle) (bare : later.decoration? dimmer = none)
    (happened : later.happenings = since ++ session.happenings) :
    ⟨some dimmer, .disposed handle⟩ ∈ since := by
  obtain ⟨live, held, rfl⟩ := tidy.held_iff_decoration.2 worn
  have registered : ⟨some dimmer, .created live.handle live.style⟩ ∈ later.happenings := by
    rw [happened]
    exact List.mem_append_right since (tidy.orderly.created_of_held held)
  rcases tidy'.orderly.held_or_disposed registered with holding | gone
  · rw [tidy'.worn, Session.live_of_bare bare] at holding
    cases holding
  · rw [happened] at gone
    refine (List.mem_append.1 gone).resolve_right fun old => ?_
    exact tidy.orderly.not_disposed_of_held held (List.mem_filterMap.2 ⟨_, old, rfl⟩)

end Tidy

theorem Refreshing.asked {count dimmer : Nat} {session : Session} {asked : List Happening}
    (held : Refreshing count dimmer session)
    (questions : ∀ happening ∈ asked, happening.event.isQuestion = true) :
    Refreshing count dimmer { session with happenings := asked ++ session.happenings } :=
  { held with toTidy := held.toTidy.asked questions }

/-- The happenings of an errand: what was asked before the value was saved, and what was done from
then on until the user was told. -/
structure InOrder (errand : Errand) (session later : Session) (asked doings : List Happening) :
    Prop where
  history : later.happenings =
    ⟨none, .told errand.message⟩ :: (doings ++ (asked ++ session.happenings))
  questions : ∀ happening ∈ asked, happening.event.isQuestion = true
  saved_first : ∃ logs,
    (notify (Change.ofKeys [errand.key]) >>= fun _ => errand.finish).run
      { session with
        disk := later.disk
        settings := later.settings
        happenings := asked ++ session.happenings
        logs } = (.ok (), later)
  told_last : ∀ happening ∈ doings, happening.event.isTold = false
  disposed : ∀ handle, session.decoration? errand.dimmer = some handle →
    ⟨some errand.dimmer, .disposed handle⟩ ∈ doings
  shown : ∀ handle, later.decoration? errand.dimmer = some handle →
    ∀ editor ∈ later.stage.visible, ∀ document, later.stage.documentOf? editor = some document →
    lastDecoration errand.dimmer editor doings = some (handle, document.statements)

/-- A dimmer wears the style that would be built now if dimming is on, and nothing if it is off. -/
def WearsAsSet (dimmer : Nat) (session : Session) : Prop :=
  ∃ entry, session.dimmer? dimmer = some entry ∧
    (session.settings.enabled = true → ∃ style, (buildStyle.run session).1 = .ok style ∧
      entry.style = some style ∧ ∃ handle, entry.decoration = some handle) ∧
    (session.settings.enabled = false → entry.style = none ∧ entry.decoration = none)

/-- What has become of a session in which a command has done its errand. -/
structure Accomplished (errand : Errand) (session later : Session) : Prop where
  memory : later.settings = session.settings.put errand.key errand.value
  file : later.disk.content? = some later.settings.encode
  stored : session.settings.IsSound → later.Stored
  stage : later.stage = session.stage
  worn : WearsAsSet errand.dimmer later
  ordered : ∃ asked doings, InOrder errand session later asked doings

theorem Action.ok_of_bind {Value Other : Type} {first : Action Value} {next : Value → Action Other}
    {session later : Session} {value : Other}
    (returned : (first >>= next).run session = (.ok value, later)) :
    ∃ given between, first.run session = (.ok given, between) ∧
      (next given).run between = (.ok value, later) := by
  rw [run_bind] at returned
  revert returned
  rcases first.run session with ⟨fault | given, between⟩
  · intro returned
    cases returned
  · exact fun returned => ⟨given, between, rfl, returned⟩

section Accomplishing

variable {errand : Errand} {session later : Session} {count dimmer : Nat} {asked : List Happening}
variable {logs others : List LogLine}

theorem holds_of_run {Value : Type} {holds : Session → Prop} {action : Action Value}
    {result : Except Fault Value} (kept : Keeps holds action)
    (ran : action.run session = (result, later)) (held : holds session) : holds later := by
  have last := kept session held
  rw [ran] at last
  exact last

theorem notify_leaves {change : Change} {result : Except Fault Unit}
    (held : Refreshing count dimmer session)
    (notified : (notify change).run session = (result, later)) :
    later.storage = session.storage ∧ later.stage = session.stage ∧
      Refreshing count dimmer later ∧ Silent session later := by
  have storage := notify_keeps_storage (fun storage => storage = session.storage) change
  have lasting := Refreshing.lasting count dimmer
  exact ⟨holds_of_run storage notified rfl,
    holds_of_run (notify_keeps_stage session.stage change) notified rfl,
    holds_of_run (lasting.keeps_notify change) notified held,
    holds_of_run (Silent.keeps_notify change) notified (Silent.of_same rfl)⟩

theorem act_returns (returned : errand.act.run session = (.ok (), later)) :
    ∃ disk logs, Saved errand.key errand.value session disk ∧
      (notify (Change.ofKeys [errand.key]) >>= fun _ => errand.finish).run
        { session with
          disk
          settings := session.settings.put errand.key errand.value
          logs } = (.ok (), later) := by
  rcases save_bind_cases errand.key errand.value errand.finish session with
    ⟨fault, disk, -, failed⟩ | ⟨disk, logs, fit, ran⟩
  · cases failed.symm.trans returned
  · exact ⟨disk, logs, fit, ran.symm.trans returned⟩

theorem finished_wears (tidy : Tidy count session) (known : errand.dimmer < count) {style : Style}
    (described : session.settings.style = .ok style) (logs : List LogLine) :
    WearsAsSet errand.dimmer { session.finished errand style with logs } := by
  let later : Session := { session.finished errand style with logs }
  obtain ⟨entry, found, on, off⟩ := Session.rebuilt_worn tidy known style
  have settings : later.settings = session.settings :=
    Session.settings_of_same_surroundings Session.restyled_surroundings
  have found' : later.dimmer? errand.dimmer = some entry :=
    (congrArg (·[errand.dimmer]?) Session.restyled_dimmers).trans found
  have described' : later.settings.style = .ok style := settings.symm ▸ described
  obtain ⟨_, built⟩ := run_of_yields (build_style_yields described')
  refine ⟨entry, found', fun enabled => ?_, fun disabled => ?_⟩
  · obtain ⟨worn, dressed⟩ := on (settings ▸ enabled)
    exact ⟨style, congrArg Prod.fst built, dressed, _, worn⟩
  · exact (off (settings ▸ disabled)).symm

theorem finished_in_order {between : Session} {older : List Happening} (style : Style)
    (tidy : Tidy count session) (held : Refreshing count errand.dimmer between)
    (questions : ∀ happening ∈ asked, happening.event.isQuestion = true)
    (quiet : ∀ happening ∈ older, happening.event.isTold = false)
    (before : between.happenings = older ++ (asked ++ session.happenings))
    (ran : (notify (Change.ofKeys [errand.key]) >>= fun _ => errand.finish).run
      { session with
        disk := (between.restyled errand style).disk
        settings := (between.restyled errand style).settings
        happenings := asked ++ session.happenings
        logs } = (.ok (), { between.finished errand style with logs := others })) :
    ∃ doings, InOrder errand session { between.finished errand style with logs := others } asked
      doings := by
  obtain ⟨off, bare, quiet'⟩ := Silent.undressed errand.dimmer between
  obtain ⟨anew, restyled, quiet''⟩ := Silent.restyled between errand style
  rw [bare, ← List.append_assoc] at restyled
  refine ⟨anew ++ off ++ older, ?_, questions, ⟨logs, ran⟩, ?_, ?_, ?_⟩
  · change _ :: (between.restyled errand style).happenings = _
    rw [restyled, before, List.append_assoc (anew ++ off)]
  · intro happening inside
    rcases List.mem_append.1 inside with (inside | inside)
    · rcases List.mem_append.1 inside with (inside | inside)
      · exact quiet'' happening inside
      · exact quiet' happening inside
    · exact quiet happening inside
  · intro handle worn
    rw [before, ← List.append_assoc, ← List.append_assoc] at bare
    have gone := tidy.disposed_between (held.toTidy.undressed errand.dimmer) worn
      (Session.decoration_undressed_self errand.dimmer between) bare
    rcases List.mem_append.1 gone with done | absurdity
    · rw [List.append_assoc]
      exact List.mem_append_right anew done
    · cases questions _ absurdity
  · intro handle wearing editor visible document shown
    obtain ⟨entry, found, worn⟩ := Option.bind_eq_some_iff.1 wearing
    have surroundings : (between.restyled errand style).surroundings = between.surroundings :=
      Session.restyled_surroundings
    obtain ⟨old, known, -, after⟩ := Session.found_of_same_surroundings surroundings found
    have shows := after.trans (held.refreshing old known)
    have same := Session.stage_of_same_surroundings surroundings
    have last := Session.restyled_shows restyled found worn shows (same ▸ visible) (same ▸ shown)
    unfold lastDecoration at last ⊢
    rw [List.findSome?_append, last]
    rfl

theorem accomplished_of_act (held : Refreshing count errand.dimmer session)
    (known : errand.dimmer < count)
    (questions : ∀ happening ∈ asked, happening.event.isQuestion = true)
    (sound : session.settings.IsSound →
      Settings.IsSound (session.settings.put errand.key errand.value))
    (returned : errand.act.run
      { session with happenings := asked ++ session.happenings, logs } = (.ok (), later)) :
    Accomplished errand session later := by
  obtain ⟨disk, logs, fit, ran⟩ := act_returns returned
  obtain ⟨_, between, notified, finished⟩ := ok_of_bind ran
  let settings : Settings := session.settings.put errand.key errand.value
  have lasting := Refreshing.lasting count errand.dimmer
  obtain ⟨storage, stage, between', older, told, quiet⟩ := notify_leaves
    (lasting.logged logs (lasting.stored disk (lasting.resettled settings (held.asked questions))))
    notified
  -- The rest cannot fail and leads to a session that is known.
  obtain ⟨style, described⟩ := between.settings.style_exists
  obtain ⟨others, ended⟩ := run_of_yields (finish_yields errand described)
  obtain rfl : { between.finished errand style with logs := others } = later :=
    congrArg Prod.snd (ended.symm.trans finished)
  have same : (between.restyled errand style).surroundings = between.surroundings :=
    Session.restyled_surroundings
  have storage' : (between.restyled errand style).storage = (disk, settings) :=
    (Session.storage_of_same_surroundings same).trans storage
  have memory : (between.restyled errand style).settings = settings := congrArg Prod.snd storage'
  have written : (between.restyled errand style).disk = disk := congrArg Prod.fst storage'
  have stage' : (between.restyled errand style).stage = session.stage :=
    (Session.stage_of_same_surroundings same).trans stage
  refine ⟨memory, ?_, fun fine => ?_, stage', ?_, ?_⟩
  · change (between.restyled errand style).disk.content? =
      some (between.restyled errand style).settings.encode
    rw [written, memory, fit.written]
    rfl
  · change Settings.Loading.ofDisk (between.restyled errand style).disk =
      .loaded (between.restyled errand style).settings
    rw [written, memory, fit.written]
    exact Settings.load_written session.disk (sound fine) fit.storable
  · exact finished_wears between'.toTidy known described others
  · have ran : (notify (Change.ofKeys [errand.key]) >>= fun _ => errand.finish).run
        { session with disk, settings, happenings := asked ++ session.happenings, logs } =
          (.ok (), { between.finished errand style with logs := others }) := ran
    rw [← written, ← memory] at ran
    obtain ⟨doings, ordered⟩ := finished_in_order style held.toTidy between' questions quiet told ran
    exact ⟨asked, doings, ordered⟩

end Accomplishing

/-- In every session that can come about, a command that saves its value and returns has done the
whole job in order. Memory and file hold the old settings with the one value set. The dimmer wears
what they describe, whatever was live before is disposed of, and what every visible editor was
decorated with last, after the save, are the statements of its document under the handle that is
live now. The user is told once, at the very end. -/
theorem saved_command_does_whole_job {operation : Operation} {errand : Errand} {session : Session}
    (reachable : Reachable errand.dimmer session) (known : session.knows operation = true)
    (found : operation.errand? session.settings = some errand)
    (returned : (Session.step operation session).1.isOk = true) :
    Accomplished errand session (Session.step operation session).2 := by
  obtain ⟨command, concerned, keyKnown, sound⟩ := errand_facts found
  obtain ⟨count, held⟩ := reachable.refreshing
  have inside := (Refreshing.lasting count errand.dimmer).known_of_knows held concerned known
  unfold Session.step at returned ⊢
  rw [if_pos known] at returned ⊢
  rcases command_course command session with ⟨found', asked, ran⟩ | ⟨idle, -, -⟩ | ⟨idle, -⟩
  · obtain ⟨asked, logs, rfl, questions⟩ := asked
    obtain rfl := Option.some.inj (found.symm.trans found')
    rw [ran] at returned ⊢
    rcases ended : (errand.act >>= fun _ => pure Outcome.done).run _ with ⟨fault | outcome, later⟩
    · rw [ended] at returned
      cases returned
    · obtain ⟨_, between, acted, rest⟩ := ok_of_bind ended
      obtain rfl : between = later := congrArg Prod.snd rest
      exact accomplished_of_act held inside questions
        (Settings.sound_kept _ _ _ keyKnown sound) acted
  · rw [idle] at found
    cases found
  · rw [idle] at found
    cases found

/-- With two editors on one document, a new opacity takes the dimmer from its first handle to its
third: one style comes and goes while the listeners are told. -/
theorem whole_job_done_for_opacity :
    let stage : Stage := ⟨[⟨"log.info(1)", "plaintext"⟩], [0, 0], none, [0, 1]⟩
    let session := (Session.step (.activate 0) (Session.start .absent stage)).2
    let result := Session.step (.changeOpacity 0 ⟨["120", "70"], true⟩) session
    session.decoration? 0 = some 1 ∧ result.2.decoration? 0 = some 3 ∧
      ∃ errand : Errand, errand.message = "Logs opacity set to 70%" ∧
        Accomplished errand session result.2 := by
  intro stage session result
  refine ⟨by decide +kernel, by decide +kernel,
    ((Operation.changeOpacity 0 ⟨["120", "70"], true⟩).errand? session.settings).get
      (by decide +kernel), by decide +kernel, ?_⟩
  exact saved_command_does_whole_job (.step rfl (.start _ _)) (by decide +kernel)
    (Option.some_get _).symm (by decide +kernel)

end Dimming
