import Dimming.Proofs.Session.Enrollment

/-!
# Dimmers at rest

A dimmer that was switched off is told of nothing any more. Until it is switched on, commanded or
reached into again, it creates, disposes of and decorates nothing, whatever the others do.
-/

set_option autoImplicit false

namespace Dimming

open Dimming.Action

namespace Operation

/-- Whether an operation has a certain dimmer do something, other than switching it off. -/
def wakes (dimmer : Nat) : Operation → Bool
  | .deactivate _ => false
  | operation => operation.dimmer? == some dimmer

theorem apart_of_asleep {operation : Operation} {dimmer other : Nat}
    (asleep : operation.wakes dimmer = false) (staying : ∀ leaver, operation ≠ .deactivate leaver)
    (concerned : operation.dimmer? = some other) : other ≠ dimmer := by
  intro same
  unfold wakes at asleep
  split at asleep
  next leaver => exact staying leaver rfl
  next =>
    rw [concerned, same] at asleep
    exact absurd (beq_self_eq_true _) (Bool.eq_false_iff.1 asleep)

end Operation

namespace Roster

variable {roster : Roster} {dimmer : Nat}

theorem off_when_deactivated (roster : Roster) (dimmer : Nat) :
    (roster.after (.deactivate dimmer)).isOn dimmer = false := by
  change (if roster.isOn dimmer then _ else roster).isOn dimmer = false
  split
  next => exact retired_off _ dimmer
  next off => exact Bool.eq_false_iff.2 off

theorem off_after {operation : Operation} (off : roster.isOn dimmer = false)
    (asleep : operation.wakes dimmer = false) : (roster.after operation).isOn dimmer = false := by
  cases operation with
  | activate other =>
      have apart := Operation.apart_of_asleep asleep (fun _ => Operation.noConfusion) rfl
      rcases roster.after_activate_cases other with
        ⟨-, same⟩ | ⟨-, same⟩ | ⟨post, -, -, registered⟩
      · rw [same]
        exact off
      · rw [same]
        exact off
      · rw [registered]
        unfold isOn
        rw [registered_post_of_ne apart]
        exact off
  | deactivate other =>
      change (if roster.isOn other then _ else roster).isOn dimmer = false
      split
      next =>
        by_cases own : other = dimmer
        · subst own
          exact retired_off _ other
        · unfold isOn
          rw [retired_post_of_ne own, released_posts]
          exact off
      next => exact off
  | newDimmer =>
      change roster.joined.isOn dimmer = false
      unfold isOn at *
      rcases joined_post roster dimmer with old | new
      · rw [old]
        exact off
      · rw [new]
        rfl
  | disposeWiring other =>
      change (roster.released other).isOn dimmer = false
      unfold isOn
      rw [released_posts]
      exact off
  | _ => exact off

end Roster

def doingsOf (dimmer : Nat) (history : List Happening) : List Happening :=
  history.filter fun happening => happening.dimmer = some dimmer

/-- A dimmer that wears nothing and has done so much and no more. -/
structure Resting (dimmer : Nat) (doings : List Happening) (session : Session) : Prop where
  bare : session.decoration? dimmer = none
  done : doingsOf dimmer session.happenings = doings

namespace Resting

variable {dimmer other : Nat} {doings : List Happening} {session later : Session}

theorem of_same_wardrobe (resting : Resting dimmer doings session)
    (same : later.wardrobe = session.wardrobe) : Resting dimmer doings later where
  bare := (Session.decoration_of_same_wardrobe same dimmer).trans resting.bare
  done := by
    rw [Session.happenings_of_same_wardrobe same]
    exact resting.done

theorem happened (resting : Resting dimmer doings session) {author : Option Nat}
    (elsewhere : author ≠ some dimmer) (event : Event) :
    Resting dimmer doings (session.after ⟨author, event⟩) where
  bare := resting.bare
  done := (List.filter_cons_of_neg (by simpa using elsewhere)).trans resting.done

theorem dressed (resting : Resting dimmer doings session) (apart : other ≠ dimmer)
    (style : Style) : Resting dimmer doings (session.dressed other style) where
  bare := by
    refine Eq.trans ?_ resting.bare
    exact congrArg (Option.bind · (·.decoration)) (Session.found_of_modify_ne _ apart)
  done := (List.filter_cons_of_neg (by simpa using apart)).trans resting.done

theorem undressed (resting : Resting dimmer doings session) (other : Nat) :
    Resting dimmer doings (session.undressed other) := by
  by_cases own : other = dimmer
  · subst own
    rw [Session.undressed_of_none resting.bare]
    exact resting
  · unfold Session.undressed
    split
    next => exact resting
    next =>
      exact {
        bare := by
          refine Eq.trans ?_ resting.bare
          exact congrArg (Option.bind · (·.decoration)) (Session.found_of_modify_ne _ own)
        done := (List.filter_cons_of_neg (by simpa using own)).trans resting.done }

theorem decorated (resting : Resting dimmer doings session) (other editor : Nat) :
    Resting dimmer doings (session.decorated other editor) := by
  unfold Session.decorated
  split
  next handle _ worn _ =>
    refine resting.happened (fun own => ?_) _
    rw [Option.some.inj own, resting.bare] at worn
    cases worn
  next => exact resting

section Others

variable (apart : other ≠ dimmer)

include apart

theorem redressed (resting : Resting dimmer doings session) (style : Style) :
    Resting dimmer doings ((session.undressed other).dressed other style) :=
  (resting.undressed other).dressed apart style

theorem dressing (doings : List Happening) : Dressing other (Resting dimmer doings) where
  decorated editor resting := resting.decorated other editor
  recorded _ resting := resting.happened (by simpa using apart) _
  undressed resting := resting.undressed other
  redressed style resting := resting.redressed apart style

theorem activated (resting : Resting dimmer doings session) (style : Style) :
    Resting dimmer doings (session.activated other style) :=
  ((dressing apart doings).presented style resting).of_same_wardrobe
    (Session.wired_wardrobe other _)

end Others

theorem deactivated (resting : Resting dimmer doings session) (other : Nat) :
    Resting dimmer doings (session.deactivated other) :=
  (resting.of_same_wardrobe (Session.unwired_wardrobe other session)).undressed other

theorem resolved (resting : Resting dimmer doings session) (other : Nat) (after : AfterRebuild) :
    Resting dimmer doings
      { session with
        dimmers := session.dimmers.modify other fun entry =>
          { entry with afterRebuild := after } } :=
  resting.of_same_wardrobe (Session.resolved_wardrobe other session after)

theorem joined (resting : Resting dimmer doings session) :
    Resting dimmer doings session.joined where
  bare := by
    unfold Session.decoration?
    cases found : session.joined.dimmer? dimmer with
    | none => rfl
    | some entry =>
        rcases Session.found_of_joined found with old | rfl
        · have bare := resting.bare
          unfold Session.decoration? at bare
          rwa [old] at bare
        · rfl
  done := resting.done

theorem indifferent (dimmer : Nat) (doings : List Happening) :
    Indifferent (Resting dimmer doings) where
  logged := fun _ resting => { resting with }
  defined := fun _ resting => { resting with }
  remarked := fun _ resting => resting.happened (Option.some_ne_none dimmer).symm _
  heard := by
    intro session definition resting
    obtain ⟨more, same, -⟩ := Session.heard_by_eq session (.defined definition)
    rw [same]
    exact { resting with }
  unheard := fun _ resting => { resting with }

section Asleep

variable {roster : Roster} {operation : Operation}
variable (consistent : roster.Consistent) (off : roster.isOn dimmer = false)

include consistent off

/-- While a dimmer is off no wiring of its own is told of anything, so what goes on among the
others is none of its business. -/
theorem steadfast (doings : List Happening) :
    Steadfast (· ≠ dimmer) (fun wiring => roster.owners[wiring]? ≠ some dimmer)
      (fun session => Enrolled roster session ∧ Resting dimmer doings session) :=
  have enrolls := Enrolled.steadfast roster
  have rests := indifferent dimmer doings
  { logged := fun logs held => ⟨enrolls.logged logs held.1, rests.logged logs held.2⟩
    defined := fun definitions held =>
      ⟨enrolls.defined definitions held.1, rests.defined definitions held.2⟩
    remarked := fun remark held => ⟨enrolls.remarked remark held.1, rests.remarked remark held.2⟩
    heard := fun definition held =>
      ⟨enrolls.heard definition held.1, rests.heard definition held.2⟩
    unheard := fun definition held =>
      ⟨enrolls.unheard definition held.1, rests.unheard definition held.2⟩
    stored := fun disk held => ⟨enrolls.stored disk held.1, { held.2 with }⟩
    told := by
      intro session wiring inside held own
      rw [← mem_heard_iff, held.1.heard, Roster.mem_following_iff] at inside
      have post := consistent.current inside.2 own
      unfold Roster.isOn at off
      rw [post] at off
      cases off
    recalled := by
      intro session other wiring apart recalled held own
      rw [held.1.last_wiring] at recalled
      exact apart (Option.some.inj ((consistent.posted recalled).symm.trans own))
    owned := by
      intro session wiring other elsewhere found held own
      rw [held.1.owner, own] at found
      exact elsewhere found
    decorated := fun other editor held =>
      ⟨enrolls.decorated other editor held.1, held.2.decorated other editor⟩
    rebuilt := fun apart described held =>
      ⟨enrolls.rebuilt trivial described held.1, (dressing apart doings).rebuilt _ held.2⟩
    resettled := fun settings held => ⟨enrolls.resettled settings held.1, { held.2 with }⟩
    undressed := fun other held =>
      ⟨enrolls.undressed other held.1, held.2.undressed other⟩ }

theorem step (enrolled : Enrolled roster session) (resting : Resting dimmer doings session)
    (asleep : operation.wakes dimmer = false) :
    Resting dimmer doings (Session.step operation session).2 := by
  have rests := indifferent dimmer doings
  by_cases settled : operation.isRewiring = false
  · have apart (other : Nat) (concerned : operation.dimmer? = some other) : other ≠ dimmer := by
      apply Operation.apart_of_asleep asleep _ concerned
      intro leaver same
      rw [same] at settled
      cases settled
    exact ((steadfast consistent off doings).keeps_settled
      (fun style apart held => ⟨held.1.redressed style, held.2.redressed apart style⟩)
      (fun other after _ held => ⟨held.1.resolved other after, held.2.resolved other after⟩)
      (fun stage held => ⟨held.1.restaged stage, { held.2 with }⟩)
      settled apart session ⟨enrolled, resting⟩).2
  · by_cases known : session.knows operation = true
    · rw [Session.step_of_knows known]
      cases operation with
      | activate other =>
          have apart := Operation.apart_of_asleep asleep (fun _ => Operation.noConfusion) rfl
          have kept := rests.keeps_activate fun {session entry style} _ _ _ held =>
            Resting.activated apart held style
          exact keeps_bind_pure kept session resting
      | deactivate other =>
          have kept : Keeps (Resting dimmer doings) (deactivate other) :=
            rests.keeps_of_yields fun session held =>
              ⟨(), _, deactivate_yields other session, held.deactivated other⟩
          exact keeps_bind_pure kept session resting
      | newDimmer => exact resting.joined
      | disposeWiring other =>
          have kept (wiring : Nat) : Keeps (Resting dimmer doings) (unsubscribe wiring) :=
            rests.keeps_of_yields fun session held =>
              ⟨(), _, unsubscribe_yields wiring session,
                held.of_same_wardrobe (Session.unsubscribed_wardrobe wiring session)⟩
          exact keeps_with_last_wiring
            (fun wiring => keeps_bind_pure (kept wiring)) session resting
      | _ => exact absurd rfl settled
    · rw [Session.step_of_not_knows known]
      exact resting

end Asleep

theorem along {roster : Roster} (consistent : roster.Consistent)
    (off : roster.isOn dimmer = false) (enrolled : Enrolled roster session)
    (resting : Resting dimmer doings session) {operations : List Operation}
    (asleep : ∀ operation ∈ operations, operation.wakes dimmer = false) :
    Resting dimmer doings (session.through operations) := by
  induction operations generalizing roster session with
  | nil => exact resting
  | cons operation operations ih =>
      have now := asleep operation List.mem_cons_self
      exact ih (consistent.after operation) (Roster.off_after off now)
        (enrolled.step consistent operation) (resting.step consistent off enrolled now)
        fun other inside => asleep other (List.mem_cons_of_mem _ inside)

end Resting

theorem bare_when_deactivated (dimmer : Nat) (session : Session) :
    (Session.step (.deactivate dimmer) session).2.decoration? dimmer = none := by
  by_cases known : session.knows (.deactivate dimmer) = true
  · obtain ⟨logs, ran⟩ := run_of_yields (deactivate_yields dimmer session)
    rw [Session.step_of_knows known, ofOperation, run_bind_pure, ran]
    exact Session.decoration_undressed_self dimmer _
  · obtain ⟨other, concerned, absent⟩ := Session.unknown_of_not_knows known
    cases concerned
    rw [Session.step_of_not_knows known]
    exact congrArg (Option.bind · (·.decoration)) absent

/-- The callbacks of the window and the listeners of the settings are the wirings that were
registered and not disposed of, in the order of registration, and no dimmer has two of them. -/
structure Accounted (roster : Roster) (session : Session) : Prop where
  active : session.activeCallbacks = roster.following
  documents : session.documentCallbacks = roster.following
  listeners : heardWirings session.listeners = roster.following
  owners : ∀ wiring, dimmerOf? session wiring = roster.owners[wiring]?
  ordered : roster.following.Pairwise (· < ·)
  single : ∀ wiring ∈ roster.following, ∀ other ∈ roster.following,
    dimmerOf? session wiring = dimmerOf? session other → wiring = other

theorem Enrolled.accounted {roster : Roster} {session : Session}
    (enrolled : Enrolled roster session) (consistent : roster.Consistent) :
    Accounted roster session where
  active := enrolled.active
  documents := enrolled.documents
  listeners := enrolled.heard
  owners := enrolled.owner
  ordered := roster.following_ordered
  single := by
    intro wiring inside other inside' same
    rw [Roster.mem_following_iff] at inside inside'
    rw [enrolled.owner, enrolled.owner, List.getElem?_eq_getElem inside.1] at same
    have post := consistent.current inside.2 (List.getElem?_eq_getElem inside.1)
    have post' := consistent.current inside'.2 same.symm
    cases post.symm.trans post'
    rfl

theorem Enrolled.step_activate_on {roster : Roster} {session : Session} {dimmer : Nat}
    (enrolled : Enrolled roster session) (consistent : roster.Consistent)
    (on : roster.isOn dimmer = true) :
    Session.step (.activate dimmer) session =
      (.ok .done, { session with
        logs := ⟨.warning, "extension", "Log dimming already activated"⟩ :: session.logs }) := by
  obtain ⟨entry, wiring, found, wired⟩ := enrolled.wired_on consistent on
  rw [Session.step_of_knows (Session.knows_of_found rfl found), ofOperation,
    run_bind_of_ok (activate_warns found wired)]
  rfl

/-- Whatever is done to a session, its registries hold the wirings that were registered and not
disposed of, a dimmer that is on is not switched on twice, and a dimmer that was switched off
does nothing until something wakes it. -/
theorem subscriptions_neither_leak_nor_survive (disk : Disk) (stage : Stage)
    (operations : List Operation) :
    let roster := Roster.ofOperations operations
    let session := (Session.start disk stage).through operations
    Accounted roster session ∧
      (∀ dimmer, roster.isOn dimmer = true →
        Session.step (.activate dimmer) session =
          (.ok .done, { session with
            logs := ⟨.warning, "extension", "Log dimming already activated"⟩ :: session.logs })) ∧
      ∀ dimmer behind, (∀ operation ∈ behind, operation.wakes dimmer = false) →
        let idle := session.through [.deactivate dimmer]
        doingsOf dimmer (idle.through behind).happenings = doingsOf dimmer idle.happenings := by
  intro roster session
  have consistent : roster.Consistent := .of_operations operations
  have enrolled : Enrolled roster session := .through disk stage operations
  refine ⟨enrolled.accounted consistent, fun dimmer on => ?_, fun dimmer behind asleep => ?_⟩
  · exact enrolled.step_activate_on consistent on
  · have resting : Resting dimmer _ (session.through [.deactivate dimmer]) :=
      ⟨bare_when_deactivated dimmer session, rfl⟩
    exact (resting.along (consistent.after _) (roster.off_when_deactivated dimmer)
      (enrolled.step consistent _) asleep).done

/-- Of two dimmers the one that was switched off does not notice a saved opacity or a change of
focus. -/
theorem one_of_two_dimmers_at_rest :
    let stage : Stage := ⟨[⟨"print(1)", "plaintext"⟩], [0], some 0, [0]⟩
    let session := (Session.start .absent stage).through [.newDimmer, .activate 0, .activate 1]
    let idle := session.through [.deactivate 0]
    session.activeCallbacks = [0, 1] ∧
      doingsOf 0 (idle.through [.saveOpacity (.number (.int 50)), .focus (some 0) true]).happenings =
        doingsOf 0 idle.happenings := by
  intro stage session idle
  have facts := subscriptions_neither_leak_nor_survive .absent stage
    [.newDimmer, .activate 0, .activate 1]
  exact ⟨facts.1.active.trans (by decide), facts.2.2 0 _ (by decide)⟩

end Dimming
