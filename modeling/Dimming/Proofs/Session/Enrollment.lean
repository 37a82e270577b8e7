import Dimming.Proofs.Session.Roster

/-!
# What a session is told of by its roster

A session agrees with the roster of the operations that led to it: its dimmers have the wirings
of the roster, and its three registries are the wirings that were not disposed of.
-/

set_option autoImplicit false

namespace Dimming

open Dimming.Action

namespace Listener

def wiring? : Listener → Option Nat
  | .wiring number => some number
  | .defined _ => none

end Listener

def heardWirings (listeners : List Listener) : List Nat := listeners.filterMap (·.wiring?)

/-- A session whose wirings and registries are those of a roster. -/
structure Enrolled (roster : Roster) (session : Session) : Prop where
  ties : session.dimmers.map (·.ties) = roster.posts.map (·.ties)
  owners : session.wirings.map (·.dimmer) = roster.owners
  flagged : ∀ {wiring entry}, session.wirings[wiring]? = some entry →
    entry.subscribed = !roster.ended.contains wiring
  active : session.activeCallbacks = roster.following
  documents : session.documentCallbacks = roster.following
  heard : heardWirings session.listeners = roster.following

section Heard

theorem heard_append (listeners more : List Listener) :
    heardWirings (listeners ++ more) = heardWirings listeners ++ heardWirings more :=
  List.filterMap_append

theorem mem_heard_iff {listeners : List Listener} {wiring : Nat} :
    wiring ∈ heardWirings listeners ↔ Listener.wiring wiring ∈ listeners := by
  unfold heardWirings
  rw [List.mem_filterMap]
  constructor
  · rintro ⟨listener, inside, same⟩
    cases listener with
    | wiring other =>
        cases same
        exact inside
    | defined => cases same
  · exact fun inside => ⟨_, inside, rfl⟩

theorem heard_erase_wiring (listeners : List Listener) (wiring : Nat) :
    heardWirings (listeners.erase (.wiring wiring)) = (heardWirings listeners).erase wiring := by
  induction listeners with
  | nil => rfl
  | cons listener listeners ih =>
      cases listener with
      | wiring other =>
          by_cases same : other = wiring
          · subst same
            simp [heardWirings, Listener.wiring?]
          · have apart : Listener.wiring other ≠ .wiring wiring := fun equal =>
              same (by cases equal; rfl)
            rw [List.erase_cons_tail (by simpa using same)]
            simp [heardWirings, Listener.wiring?] at ih ⊢
            rw [List.erase_cons_tail (by simpa using same), ih]
      | defined definition =>
          rw [List.erase_cons_tail (by simp)]
          exact ih

theorem heard_erase_defined (listeners : List Listener) (definition : Nat) :
    heardWirings (listeners.erase (.defined definition)) = heardWirings listeners := by
  induction listeners with
  | nil => rfl
  | cons listener listeners ih =>
      by_cases same : listener = .defined definition
      · subst same
        rw [List.erase_cons_head]
        rfl
      · rw [List.erase_cons_tail (by simpa using same)]
        unfold heardWirings at ih ⊢
        rw [List.filterMap_cons, List.filterMap_cons, ih]

end Heard

namespace Enrolled

variable {roster : Roster} {session later : Session} {dimmer wiring : Nat}

theorem start (disk : Disk) (stage : Stage) : Enrolled .start (Session.start disk stage) where
  ties := rfl
  owners := rfl
  flagged := fun found => by cases found
  active := rfl
  documents := rfl
  heard := rfl

theorem of_same (enrolled : Enrolled roster session)
    (ties : later.dimmers.map (·.ties) = session.dimmers.map (·.ties))
    (wirings : later.wirings = session.wirings)
    (active : later.activeCallbacks = session.activeCallbacks)
    (documents : later.documentCallbacks = session.documentCallbacks)
    (heard : heardWirings later.listeners = heardWirings session.listeners) :
    Enrolled roster later where
  ties := ties.trans enrolled.ties
  owners := wirings ▸ enrolled.owners
  flagged := wirings ▸ enrolled.flagged
  active := active.trans enrolled.active
  documents := documents.trans enrolled.documents
  heard := heard.trans enrolled.heard

theorem ties_of_surroundings (session : Session) :
    session.surroundings.dimmers.map (·.ties) = session.dimmers.map (·.ties) :=
  List.map_map

theorem of_same_surroundings (enrolled : Enrolled roster session)
    (same : later.surroundings = session.surroundings) : Enrolled roster later := by
  have agree {View : Type} (view : Session → View) :
      view later.surroundings = view session.surroundings := congrArg view same
  refine enrolled.of_same ?_ (agree (·.wirings)) (agree (·.activeCallbacks))
    (agree (·.documentCallbacks)) (agree (heardWirings ·.listeners))
  rw [← ties_of_surroundings later, same, ties_of_surroundings]

theorem owner (enrolled : Enrolled roster session) (wiring : Nat) :
    dimmerOf? session wiring = roster.owners[wiring]? := by
  rw [← enrolled.owners, List.getElem?_map]
  rfl

theorem ties_of (enrolled : Enrolled roster session) (dimmer : Nat) :
    (session.dimmer? dimmer).map (·.ties) = roster.posts[dimmer]?.map (·.ties) := by
  unfold Session.dimmer?
  rw [← List.getElem?_map, ← List.getElem?_map, enrolled.ties]

theorem last_wiring (enrolled : Enrolled roster session) (dimmer : Nat) :
    (session.dimmer? dimmer).bind (·.lastWiring) = roster.last? dimmer := by
  have ties := enrolled.ties_of dimmer
  unfold Roster.last?
  cases found : session.dimmer? dimmer <;> cases found' : roster.posts[dimmer]? <;>
    rw [found, found'] at ties
  case some.some entry post => exact congrArg Prod.snd (Option.some.inj ties)
  case none.none => rfl
  all_goals cases ties

theorem wiring_of (enrolled : Enrolled roster session) (dimmer : Nat) :
    (session.dimmer? dimmer).bind (·.wiring) =
      if roster.isOn dimmer then roster.last? dimmer else none := by
  have ties := enrolled.ties_of dimmer
  unfold Roster.isOn Roster.last?
  cases found : session.dimmer? dimmer <;> cases found' : roster.posts[dimmer]? <;>
    rw [found, found'] at ties
  case some.some entry post => exact congrArg Prod.fst (Option.some.inj ties)
  case none.none => rfl
  all_goals cases ties

theorem steadfast (roster : Roster) :
    Steadfast (fun _ => True) (fun _ => True) (Enrolled roster) where
  logged := fun _ enrolled => enrolled.of_same rfl rfl rfl rfl rfl
  defined := fun _ enrolled => enrolled.of_same rfl rfl rfl rfl rfl
  remarked := fun _ enrolled => enrolled.of_same rfl rfl rfl rfl rfl
  heard := by
    intro session definition enrolled
    unfold Session.heardBy
    split
    · exact enrolled
    · refine enrolled.of_same rfl rfl rfl rfl ?_
      dsimp only
      rw [heard_append]
      exact List.append_nil _
  unheard := fun definition enrolled =>
    enrolled.of_same rfl rfl rfl rfl (heard_erase_defined _ definition)
  stored := fun _ enrolled => enrolled.of_same rfl rfl rfl rfl rfl
  told := fun _ _ => trivial
  recalled := fun _ _ _ => trivial
  owned := fun _ _ _ => trivial
  decorated := fun dimmer editor enrolled =>
    enrolled.of_same_surroundings (Session.decorated_surroundings dimmer _ editor)
  rebuilt := fun _ _ enrolled =>
    enrolled.of_same_surroundings (Session.rebuilt_surroundings _ _ _)
  resettled := fun _ enrolled => enrolled.of_same rfl rfl rfl rfl rfl
  undressed := fun dimmer enrolled =>
    enrolled.of_same_surroundings (Session.undressed_surroundings dimmer _)

theorem restaged (enrolled : Enrolled roster session) (stage : Stage) :
    Enrolled roster { session with stage } :=
  enrolled.of_same rfl rfl rfl rfl rfl

theorem redressed (enrolled : Enrolled roster session) (style : Style) :
    Enrolled roster ((session.undressed dimmer).dressed dimmer style) :=
  ((steadfast roster).undressed dimmer enrolled).of_same_surroundings
    (Session.dressed_surroundings dimmer _ style)

theorem resolved (enrolled : Enrolled roster session) (dimmer : Nat) (after : AfterRebuild) :
    Enrolled roster
      { session with
        dimmers := session.dimmers.modify dimmer fun entry =>
          { entry with afterRebuild := after } } := by
  refine enrolled.of_same ?_ rfl rfl rfl rfl
  apply Session.map_modify_of_same
  exact fun _ => rfl

section Rewired

variable (consistent : roster.Consistent)

include consistent

theorem wired (enrolled : Enrolled roster session) (dimmer : Nat) :
    Enrolled (roster.registered dimmer) (session.wired dimmer) := by
  have count : session.wirings.length = roster.owners.length := by
    rw [← enrolled.owners, List.length_map]
  have unheard : Listener.wiring session.wirings.length ∉ session.listeners := by
    rw [← mem_heard_iff, enrolled.heard, Roster.mem_following_iff, count]
    exact fun old => Nat.lt_irrefl _ old.1
  have following := Roster.following_registered consistent dimmer
  unfold Session.wired Session.subscribed Session.heardBy
  rw [if_neg (by simpa using unheard)]
  exact {
    ties := by
      apply Session.map_modify_of_agree _ enrolled.ties
      intro entry post _
      rw [count]
      rfl
    owners := by
      simp [Session.wiredTo, Roster.registered, enrolled.owners]
    flagged := by
      intro wiring entry found
      by_cases old : wiring < session.wirings.length
      · exact enrolled.flagged ((List.getElem?_append_left old).symm.trans found)
      · have fresh : wiring ∉ roster.ended := fun gone =>
          old (count ▸ consistent.numbered gone)
        have inside := (List.getElem?_append_right (Nat.le_of_not_lt old)).symm.trans found
        rw [List.mem_singleton.1 (List.mem_of_getElem? inside)]
        simpa [Roster.registered] using fresh
    active := by
      rw [following, ← enrolled.active, ← count]
      rfl
    documents := by
      rw [following, ← enrolled.documents, ← count]
      rfl
    heard := by
      rw [following, ← enrolled.heard, ← count]
      exact heard_append _ _ }

theorem activated (enrolled : Enrolled roster session) (dimmer : Nat) (style : Style) :
    Enrolled (roster.registered dimmer) (session.activated dimmer style) := by
  apply wired consistent
  exact enrolled.of_same_surroundings (Session.presented_surroundings dimmer session style)

end Rewired

theorem unsubscribed_of_ended (enrolled : Enrolled roster session) (ended : wiring ∈ roster.ended) :
    session.unsubscribed wiring = session := by
  unfold Session.unsubscribed
  rw [if_neg]
  intro subscribed
  obtain ⟨entry, found, flag⟩ := Option.map_eq_some_iff.1 subscribed
  simp [enrolled.flagged found, ended] at flag

theorem ended_again (enrolled : Enrolled roster session) (ended : wiring ∈ roster.ended) :
    Enrolled (roster.ending wiring) session := by
  have missing : wiring ∉ roster.following := fun inside =>
    (Roster.mem_following_iff.1 inside).2 ended
  have following := Roster.following_ending roster wiring
  rw [List.erase_of_not_mem missing] at following
  exact {
    ties := enrolled.ties
    owners := enrolled.owners
    flagged := by
      intro other entry found
      by_cases same : other = wiring <;> simp [Roster.ending, enrolled.flagged found, same, ended]
    active := enrolled.active.trans following.symm
    documents := enrolled.documents.trans following.symm
    heard := enrolled.heard.trans following.symm }

theorem unsubscribed (enrolled : Enrolled roster session)
    (known : wiring < roster.owners.length) :
    Enrolled (roster.ending wiring) (session.unsubscribed wiring) := by
  by_cases ended : wiring ∈ roster.ended
  · rw [enrolled.unsubscribed_of_ended ended]
    exact enrolled.ended_again ended
  · have following := Roster.following_ending roster wiring
    have subscribed : (session.wirings[wiring]?.map (·.subscribed)) = some true := by
      rw [← enrolled.owners, List.length_map] at known
      have found := List.getElem?_eq_getElem known
      rw [found, Option.map_some, enrolled.flagged found]
      simpa using ended
    unfold Session.unsubscribed
    rw [if_pos subscribed]
    exact {
      ties := enrolled.ties
      owners := by
        refine Eq.trans ?_ enrolled.owners
        apply Session.map_modify_of_same
        exact fun _ => rfl
      flagged := by
        intro other entry found
        by_cases same : wiring = other
        · subst same
          rw [List.getElem?_modify_eq, Option.map_eq_map] at found
          obtain ⟨old, -, rfl⟩ := Option.map_eq_some_iff.1 found
          simp [Roster.ending]
        · rw [List.getElem?_modify_ne _ _ same] at found
          simp [Roster.ending, enrolled.flagged found, Ne.symm same]
      active := by rw [following, ← enrolled.active]
      documents := by rw [following, ← enrolled.documents]
      heard := by rw [following, ← enrolled.heard, heard_erase_wiring] }

theorem retired (enrolled : Enrolled roster session) (dimmer : Nat) :
    Enrolled (roster.retired dimmer)
      { session with
        dimmers := session.dimmers.modify dimmer fun entry => { entry with wiring := none } } where
  ties := by
    apply Session.map_modify_of_agree _ enrolled.ties
    intro entry post same
    exact congrArg (none, ·) (congrArg Prod.snd same)
  owners := enrolled.owners
  flagged := enrolled.flagged
  active := enrolled.active
  documents := enrolled.documents
  heard := enrolled.heard

theorem joined (enrolled : Enrolled roster session) : Enrolled roster.joined session.joined where
  ties := by
    have agree : Dimmer.fresh.ties = Post.idle.ties := rfl
    simp only [Roster.joined, Session.joined, List.map_append, List.map_cons, List.map_nil,
      enrolled.ties, agree]
  owners := enrolled.owners
  flagged := enrolled.flagged
  active := enrolled.active
  documents := enrolled.documents
  heard := enrolled.heard

theorem deactivated (enrolled : Enrolled roster session) (consistent : roster.Consistent)
    (on : roster.isOn dimmer = true) :
    Enrolled ((roster.released dimmer).retired dimmer) (session.deactivated dimmer) := by
  refine of_same_surroundings ?_ (Session.undressed_surroundings dimmer _)
  have wiring := enrolled.wiring_of dimmer
  rw [if_pos on] at wiring
  unfold Session.unwired Roster.released
  rw [wiring]
  cases last : roster.last? dimmer with
  | none => exact absurd last (consistent.manned on)
  | some wiring =>
      exact (enrolled.unsubscribed (consistent.known_of_owned last)).retired dimmer

theorem deactivated_off (enrolled : Enrolled roster session) (off : roster.isOn dimmer = false) :
    Enrolled roster (session.deactivated dimmer) := by
  refine of_same_surroundings ?_ (Session.undressed_surroundings dimmer _)
  have wiring := enrolled.wiring_of dimmer
  rw [off] at wiring
  unfold Session.unwired
  rw [wiring]
  exact enrolled

section Steps

variable (consistent : roster.Consistent)

include consistent

theorem wired_on (enrolled : Enrolled roster session) (on : roster.isOn dimmer = true) :
    ∃ entry wiring, session.dimmer? dimmer = some entry ∧ entry.wiring = some wiring := by
  obtain ⟨wiring, last⟩ := Option.ne_none_iff_exists'.1 (consistent.manned on)
  have wired := enrolled.wiring_of dimmer
  rw [if_pos on, last] at wired
  obtain ⟨entry, found, wired⟩ := Option.bind_eq_some_iff.1 wired
  exact ⟨entry, wiring, found, wired⟩

theorem after_activate (enrolled : Enrolled roster session) (dimmer : Nat) :
    Enrolled (roster.after (.activate dimmer)) ((activate dimmer).run session).2 := by
  have ties := enrolled.ties_of dimmer
  rcases roster.after_activate_cases dimmer with
    ⟨unmanned, same⟩ | ⟨on, same⟩ | ⟨post, manned, off, registered⟩
  · rw [unmanned] at ties
    have missing := Option.map_eq_none_iff.1 ties
    rw [same]
    unfold activate
    rw [run_get_bind, missing]
    exact enrolled
  · obtain ⟨entry, wiring, found, wired⟩ := enrolled.wired_on consistent on
    rw [same, activate_warns found wired]
    exact (steadfast roster).keeps_note _ _ _ session enrolled
  · rw [manned] at ties
    obtain ⟨entry, found, tied⟩ := Option.map_eq_some_iff.1 ties
    have idle : entry.wiring = none :=
      (congrArg Prod.fst tied).trans (if_neg (Bool.eq_false_iff.1 off))
    obtain ⟨style, described⟩ := session.settings.style_exists
    obtain ⟨logs, ran⟩ := run_of_yields (activate_yields found idle described)
    rw [registered, ran]
    exact (steadfast _).logged logs (enrolled.activated consistent dimmer style)

theorem after_deactivate (enrolled : Enrolled roster session) (dimmer : Nat) :
    Enrolled (roster.after (.deactivate dimmer)) ((deactivate dimmer).run session).2 := by
  obtain ⟨logs, ran⟩ := run_of_yields (deactivate_yields dimmer session)
  rw [ran]
  apply (steadfast _).logged
  change Enrolled (if roster.isOn dimmer then _ else _) _
  split
  next on => exact enrolled.deactivated consistent on
  next off => exact enrolled.deactivated_off (Bool.eq_false_iff.2 off)

theorem after_dispose_wiring (enrolled : Enrolled roster session) (dimmer : Nat) :
    Enrolled (roster.after (.disposeWiring dimmer))
      ((lastWiring dimmer >>= unsubscribe).run session).2 := by
  have last := enrolled.last_wiring dimmer
  change Enrolled (roster.released dimmer) _
  unfold Roster.released
  rcases last_wiring_cases dimmer session with
    ⟨wiring, recalled, found⟩ | ⟨absent, missing⟩
  · rw [← last, recalled, run_bind_of_ok found]
    rw [recalled] at last
    obtain ⟨logs, ran⟩ := run_of_yields (unsubscribe_yields wiring session)
    rw [ran]
    exact (steadfast _).logged logs
      (enrolled.unsubscribed (consistent.known_of_owned last.symm))
  · rw [← last, absent, run_bind_of_error missing]
    exact enrolled

theorem step (enrolled : Enrolled roster session) (operation : Operation) :
    Enrolled (roster.after operation) (Session.step operation session).2 := by
  by_cases settled : operation.isRewiring = false
  · rw [roster.after_of_settled settled]
    exact (steadfast roster).keeps_settled (fun style _ held => held.redressed style)
      (fun dimmer after _ held => held.resolved dimmer after) (fun stage held => held.restaged stage)
      settled (fun _ _ => trivial) session enrolled
  · by_cases known : session.knows operation = true
    · rw [Session.step_of_knows known]
      cases operation with
      | activate dimmer =>
          rw [ofOperation, run_bind_pure]
          exact enrolled.after_activate consistent dimmer
      | deactivate dimmer =>
          rw [ofOperation, run_bind_pure]
          exact enrolled.after_deactivate consistent dimmer
      | newDimmer => exact enrolled.joined
      | disposeWiring dimmer =>
          have same : (ofOperation (.disposeWiring dimmer)) =
              (lastWiring dimmer >>= unsubscribe) >>= fun _ => pure .done := by
            rw [bind_assoc]
            rfl
          rw [same, run_bind_pure]
          exact enrolled.after_dispose_wiring consistent dimmer
      | _ => exact absurd rfl settled
    · obtain ⟨dimmer, concerned, absent⟩ := Session.unknown_of_not_knows known
      have ties := enrolled.ties_of dimmer
      rw [absent] at ties
      rw [Session.step_of_not_knows known,
        Roster.after_of_unknown concerned (Option.map_eq_none_iff.1 ties.symm)]
      exact enrolled

end Steps

theorem along (enrolled : Enrolled roster session) (consistent : roster.Consistent)
    (operations : List Operation) :
    Enrolled (operations.foldl Roster.after roster) (session.through operations) := by
  induction operations generalizing roster session with
  | nil => exact enrolled
  | cons operation operations ih =>
      exact ih (enrolled.step consistent operation) (consistent.after operation)

theorem through (disk : Disk) (stage : Stage) (operations : List Operation) :
    Enrolled (.ofOperations operations) ((Session.start disk stage).through operations) :=
  (start disk stage).along .start operations

end Enrolled

end Dimming
