import Dimming.Proofs.Session.Connection
import Dimming.Proofs.Session.History

/-!
# Handles in a session

Along every run of a session the history is orderly, and what a dimmer wears is what it holds
by that history. So no handle is lost and none is released twice, whatever fails on the way.
-/

set_option autoImplicit false

namespace Dimming

open Dimming.Action

/-- A session whose history is orderly and whose dimmers wear what they hold. -/
structure Tidy (count : Nat) (session : Session) : Prop extends Staffed count session where
  orderly : Orderly session.happenings
  numbered : ∀ handle ∈ createdHandles session.happenings, handle < session.nextHandle
  worn : ∀ dimmer, heldBy dimmer session.happenings = session.live? dimmer
  paired : ∀ dimmer entry, session.dimmer? dimmer = some entry →
    (entry.decoration = none ↔ entry.style = none)

namespace Session

variable {dimmer : Nat} {session : Session}

theorem live_of_bare (bare : session.decoration? dimmer = none) :
    session.live? dimmer = none := by
  unfold decoration? at bare
  unfold live?
  cases found : session.dimmer? dimmer with
  | none => rfl
  | some entry =>
      rw [found] at bare
      unfold Dimmer.live
      rw [Option.bind_some, show entry.decoration = none from bare]
      rfl

end Session

namespace Tidy

variable {count dimmer : Nat} {session later : Session}

theorem of_same_wardrobe (tidy : Tidy count session) (staffed : Staffed count later)
    (same : later.wardrobe = session.wardrobe) : Tidy count later where
  toStaffed := staffed
  orderly := by
    rw [Session.happenings_of_same_wardrobe same]
    exact tidy.orderly
  numbered := by
    rw [Session.happenings_of_same_wardrobe same, Session.next_handle_of_same_wardrobe same]
    exact tidy.numbered
  worn := by
    intro dimmer
    rw [Session.happenings_of_same_wardrobe same, tidy.worn, Session.live_of_same_wardrobe same]
  paired := by
    intro dimmer entry found
    obtain ⟨old, known, decoration, style⟩ := Session.found_of_same_wardrobe same found
    rw [decoration, style]
    exact tidy.paired dimmer old known

theorem happened (tidy : Tidy count session) {event : Event} (author : Option Nat)
    (notCreated : event.createdHandle? = none) (notDisposed : event.disposedHandle? = none) :
    Tidy count (session.after ⟨author, event⟩) where
  toStaffed := ⟨tidy.staffed, tidy.founded⟩
  orderly := .other tidy.orderly notCreated notDisposed
  numbered := by
    unfold Session.after
    dsimp only
    rw [created_handles_other notCreated]
    exact tidy.numbered
  worn := fun dimmer => (held_other notCreated notDisposed).trans (tidy.worn dimmer)
  paired := tidy.paired

theorem held_of_decoration (tidy : Tidy count session) {entry : Dimmer}
    (found : session.dimmer? dimmer = some entry) {handle : Nat}
    (worn : entry.decoration = some handle) :
    ∃ style, entry.style = some style ∧
      heldBy dimmer session.happenings = some ⟨handle, style⟩ := by
  have dressed : entry.style ≠ none := fun absent => by
    rw [(tidy.paired dimmer entry found).2 absent] at worn
    cases worn
  obtain ⟨style, kept⟩ := Option.ne_none_iff_exists'.1 dressed
  refine ⟨style, kept, ?_⟩
  rw [tidy.worn, Session.live?, found, Option.bind_some, Dimmer.live, worn, kept]
  rfl

theorem undressed (tidy : Tidy count session) (dimmer : Nat) :
    Tidy count (session.undressed dimmer) := by
  have staffed := tidy.toStaffed.of_same_surroundings
    (Session.undressed_surroundings dimmer session)
  unfold Session.undressed at staffed ⊢
  split at staffed
  next => exact tidy
  next handle wearing =>
    obtain ⟨entry, found, decoration⟩ := Option.bind_eq_some_iff.1 wearing
    obtain ⟨style, -, held⟩ := tidy.held_of_decoration found decoration
    refine ⟨staffed, .disposed tidy.orderly held, tidy.numbered, fun other => ?_, ?_⟩
    · by_cases own : dimmer = other
      · subst own
        rw [held_disposed_self, Session.live?, Session.dimmer?, List.getElem?_modify_eq]
        cases session.dimmers[dimmer]? <;> rfl
      · rw [held_of_ne (Ne.symm own), tidy.worn]
        exact congrArg (Option.bind · (·.live)) (Session.found_of_modify_ne _ own).symm
    · intro other changed found
      by_cases own : dimmer = other
      · subst own
        obtain ⟨old, -, rfl⟩ := Session.found_of_modify_self found
        exact ⟨fun _ => rfl, fun _ => rfl⟩
      · exact tidy.paired other changed ((Session.found_of_modify_ne _ own).symm.trans found)

theorem dressed (tidy : Tidy count session) (known : dimmer < count)
    (bare : session.decoration? dimmer = none) (style : Style) :
    Tidy count (session.dressed dimmer style) where
  toStaffed := tidy.toStaffed.of_same_surroundings
    (Session.dressed_surroundings dimmer session style)
  orderly := by
    refine .created tidy.orderly ?_ fun taken => ?_
    · rw [tidy.worn]
      exact Session.live_of_bare bare
    · exact Nat.lt_irrefl _ (tidy.numbered _ taken)
  numbered := by
    intro handle given
    rcases mem_created_handles_cons.1 given with now | old
    · cases now
      exact Nat.lt_succ_self _
    · exact Nat.lt_succ_of_lt (tidy.numbered handle old)
  worn := by
    intro other
    by_cases own : dimmer = other
    · subst own
      rw [← tidy.staffed] at known
      unfold Session.dressed Session.live? Session.dimmer?
      dsimp only
      rw [held_created_self, List.getElem?_modify_eq, List.getElem?_eq_getElem known]
      rfl
    · unfold Session.dressed
      dsimp only
      rw [held_of_ne (Ne.symm own), tidy.worn]
      exact congrArg (Option.bind · (·.live)) (Session.found_of_modify_ne _ own).symm
  paired := by
    intro other changed found
    by_cases own : dimmer = other
    · subst own
      obtain ⟨old, -, rfl⟩ := Session.found_of_modify_self found
      constructor <;> intro absent <;> cases absent
    · exact tidy.paired other changed ((Session.found_of_modify_ne _ own).symm.trans found)

theorem decorated (tidy : Tidy count session) (dimmer editor : Nat) :
    Tidy count (session.decorated dimmer editor) := by
  unfold Session.decorated
  split
  · exact tidy.happened _ rfl rfl
  · exact tidy

theorem redressed (tidy : Tidy count session) (known : dimmer < count) (style : Style) :
    Tidy count ((session.undressed dimmer).dressed dimmer style) :=
  (tidy.undressed dimmer).dressed known (Session.decoration_undressed_self dimmer session) style

theorem dressing (known : dimmer < count) : Dressing dimmer (Tidy count) where
  decorated editor tidy := tidy.decorated dimmer editor
  recorded _ tidy := tidy.happened _ rfl rfl
  undressed tidy := tidy.undressed dimmer
  redressed style tidy := tidy.redressed known style

theorem activated (tidy : Tidy count session) (known : dimmer < count) (style : Style) :
    Tidy count (session.activated dimmer style) := by
  have presented := (dressing known).presented style tidy
  exact presented.of_same_wardrobe
    ((presented.toStaffed.subscribed known).dimmers_modified dimmer _)
    (Session.wired_wardrobe dimmer _)

theorem deactivated (tidy : Tidy count session) (dimmer : Nat) :
    Tidy count (session.deactivated dimmer) := by
  have loose := tidy.of_same_wardrobe (tidy.toStaffed.unwired dimmer)
    (Session.unwired_wardrobe dimmer session)
  exact loose.undressed dimmer

theorem lasting (count : Nat) : Lasting count (Tidy count) where
  logged := fun _ tidy => { tidy with }
  stored := fun _ tidy => { tidy with }
  resettled := fun _ tidy => { tidy with }
  defined := fun _ tidy => { tidy with }
  remarked := by
    intro session event remark tidy
    cases event with
    | created | disposed | decorated | rebuilt => cases remark
    | _ => exact tidy.happened none rfl rfl
  heard := by
    intro session definition tidy
    obtain ⟨more, same, -⟩ := Session.heard_by_eq session (.defined definition)
    rw [same]
    exact { tidy with }
  unheard := fun _ tidy => { tidy with }
  staffed := fun tidy => tidy.staffed
  founded := fun tidy => tidy.founded _ _
  decorated := fun dimmer editor tidy => tidy.decorated dimmer editor
  rebuilt := fun known _ tidy => (dressing known).rebuilt _ tidy
  activated := fun found _ _ tidy => tidy.activated (tidy.toStaffed.known found) _
  deactivated := fun _ tidy => tidy.deactivated _
  undressed := fun dimmer tidy => tidy.undressed dimmer

theorem restaged (tidy : Tidy count session) (stage : Stage) :
    Tidy count { session with stage } :=
  { tidy with }

theorem joined (tidy : Tidy count session) : Tidy (count + 1) session.joined where
  toStaffed := tidy.toStaffed.joined
  orderly := tidy.orderly
  numbered := tidy.numbered
  worn := by
    intro dimmer
    apply (tidy.worn dimmer).trans
    unfold Session.joined Session.live? Session.dimmer?
    dsimp only
    by_cases old : dimmer < session.dimmers.length
    · rw [List.getElem?_append_left old]
    · rw [List.getElem?_append_right (Nat.le_of_not_lt old),
        List.getElem?_eq_none (Nat.le_of_not_lt old)]
      cases dimmer - session.dimmers.length <;> rfl
  paired := by
    intro dimmer entry found
    rcases Session.found_of_joined found with old | rfl
    · exact tidy.paired dimmer entry old
    · exact iff_of_true rfl rfl

theorem start (disk : Disk) (stage : Stage) : Tidy 1 (Session.start disk stage) where
  staffed := rfl
  founded := fun _ _ found => by cases found
  orderly := .start
  numbered := fun _ absent => absurd absent List.not_mem_nil
  worn := fun dimmer => by cases dimmer <;> rfl
  paired := by
    intro dimmer entry found
    rw [List.mem_singleton.1 (List.mem_of_getElem? found)]
    exact iff_of_true rfl rfl

theorem resolved (tidy : Tidy count session) (dimmer : Nat) (after : AfterRebuild) :
    Tidy count
      { session with
        dimmers := session.dimmers.modify dimmer fun entry =>
          { entry with afterRebuild := after } } :=
  tidy.of_same_wardrobe (tidy.toStaffed.dimmers_modified dimmer _)
    (Session.resolved_wardrobe dimmer session after)

theorem unsubscribed (tidy : Tidy count session) (wiring : Nat) :
    Tidy count (session.unsubscribed wiring) :=
  tidy.of_same_wardrobe (tidy.toStaffed.unsubscribed wiring)
    (Session.unsubscribed_wardrobe wiring session)

theorem step (operation : Operation) (tidy : Tidy count session) :
    ∃ count', Tidy count' (Session.step operation session).2 := by
  by_cases alone : operation = .newDimmer
  · subst alone
    exact ⟨count + 1, tidy.joined⟩
  · exact ⟨count, (lasting count).keeps_step (fun style known tidy => tidy.redressed known style)
      (fun dimmer after _ tidy => tidy.resolved dimmer after)
      (fun wiring tidy => tidy.unsubscribed wiring) alone (fun stage tidy => tidy.restaged stage)
      session tidy⟩

end Tidy

/-- The handles that a session has given out and not disposed of are the decorations of its
dimmers; none is given out or disposed of twice, a dimmer gets a new one only after its earlier
ones were disposed of, and it keeps the style that its handle was created with. -/
structure HandlesAccounted (session : Session) : Prop where
  out_iff_worn : ∀ handle,
    (handle ∈ createdHandles session.happenings ∧ handle ∉ disposedHandles session.happenings) ↔
      ∃ dimmer, session.decoration? dimmer = some handle
  worn_apart : ∀ dimmer other handle, session.decoration? dimmer = some handle →
    session.decoration? other = some handle → dimmer = other
  created_once : (createdHandles session.happenings).Nodup
  disposed_once : (disposedHandles session.happenings).Nodup
  disposed_before_created : ∀ newer older dimmer handle style previous worn,
    session.happenings = newer ++ ⟨some dimmer, .created handle style⟩ :: older →
    ⟨some dimmer, .created previous worn⟩ ∈ older → ⟨some dimmer, .disposed previous⟩ ∈ older
  bare_iff : ∀ dimmer entry, session.dimmer? dimmer = some entry →
    (entry.decoration = none ↔ entry.style = none)
  worn_as_created : ∀ dimmer entry handle, session.dimmer? dimmer = some entry →
    entry.decoration = some handle → ∃ style, entry.style = some style ∧
      ⟨some dimmer, .created handle style⟩ ∈ session.happenings

namespace Tidy

variable {count dimmer handle : Nat} {session : Session}

theorem held_iff_decoration (tidy : Tidy count session) :
    (∃ live, heldBy dimmer session.happenings = some live ∧ live.handle = handle) ↔
      session.decoration? dimmer = some handle := by
  constructor
  · rintro ⟨live, held, rfl⟩
    rw [tidy.worn] at held
    obtain ⟨entry, found, wearing⟩ := Option.bind_eq_some_iff.1 held
    obtain ⟨handle, worn, rest⟩ := Option.bind_eq_some_iff.1 wearing
    obtain ⟨style, -, rfl⟩ := Option.map_eq_some_iff.1 rest
    exact Option.bind_eq_some_iff.2 ⟨entry, found, worn⟩
  · intro worn
    obtain ⟨entry, found, worn⟩ := Option.bind_eq_some_iff.1 worn
    obtain ⟨style, -, held⟩ := tidy.held_of_decoration found worn
    exact ⟨_, held, rfl⟩

theorem handles_accounted (tidy : Tidy count session) : HandlesAccounted session where
  out_iff_worn := by
    intro handle
    rw [tidy.orderly.out_iff_held]
    exact exists_congr fun dimmer => tidy.held_iff_decoration
  worn_apart := by
    intro dimmer other handle worn worn'
    obtain ⟨live, held, rfl⟩ := tidy.held_iff_decoration.2 worn
    obtain ⟨live', held', same⟩ := tidy.held_iff_decoration.2 worn'
    exact tidy.orderly.holder_unique held held' same.symm
  created_once := tidy.orderly.created_handles_nodup
  disposed_once := tidy.orderly.disposed_handles_nodup
  disposed_before_created := by
    intro newer older dimmer handle style previous worn split registered
    have orderly := tidy.orderly
    rw [split] at orderly
    exact orderly.disposed_before_created registered
  bare_iff := tidy.paired
  worn_as_created := by
    intro dimmer entry handle found worn
    obtain ⟨style, kept, held⟩ := tidy.held_of_decoration found worn
    exact ⟨style, kept, tidy.orderly.created_of_held held⟩

end Tidy

/-- Along every run of a session with any number of dimmers the handles are accounted for,
whichever of the operations fail. -/
theorem handles_accounted_along_run (disk : Disk) (stage : Stage) (operations : List Operation) :
    ∀ result ∈ (Session.start disk stage).run operations, HandlesAccounted result.2 := by
  have advance (operation : Operation) (session : Session) (_ : True)
      (tidy : ∃ count, Tidy count session) (_ : True) :
      ∃ count, Tidy count (Session.step operation session).2 := by
    obtain ⟨count, tidy⟩ := tidy
    exact tidy.step operation
  have kept := @Session.run_keeps _ (fun _ => True) (fun _ => True) advance _
    ⟨1, Tidy.start disk stage⟩ operations (fun _ _ => trivial) (fun _ _ => trivial)
  intro result reached
  obtain ⟨count, tidy⟩ := kept result reached
  exact tidy.handles_accounted

/-- Switched on and built anew, the first dimmer wears the second handle. -/
theorem handles_accounted_when_rebuilt :
    ∃ result ∈ (Session.start .absent ⟨[], [], none, []⟩).run [.activate 0, .rebuild 0],
      result.2.decoration? 0 = some 2 ∧ HandlesAccounted result.2 := by
  refine ⟨_, List.mem_cons_of_mem _ List.mem_cons_self, by decide +kernel, ?_⟩
  exact handles_accounted_along_run .absent ⟨[], [], none, []⟩ [.activate 0, .rebuild 0] _
    (List.mem_cons_of_mem _ List.mem_cons_self)

end Dimming
