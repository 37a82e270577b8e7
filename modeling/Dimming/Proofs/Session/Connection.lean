import Dimming.Proofs.Session.Frame
import Dimming.Proofs.Session.Keeping

/-!
# What the dimmers are connected to

Every wiring belongs to a dimmer that is there, and the wiring that a dimmer has follows the
active editor, the documents and the settings.
-/

set_option autoImplicit false

namespace Dimming

open Dimming.Action

/-- A session with a number of dimmers, to which all wirings belong. -/
structure Staffed (count : Nat) (session : Session) : Prop where
  staffed : session.dimmers.length = count
  founded : ∀ wiring dimmer, dimmerOf? session wiring = some dimmer → dimmer < count

/-- A wiring of a dimmer that is told of everything. -/
structure Following (session : Session) (dimmer wiring : Nat) : Prop where
  owned : session.wirings[wiring]? = some ⟨dimmer, true⟩
  active : wiring ∈ session.activeCallbacks
  documents : wiring ∈ session.documentCallbacks
  settings : Listener.wiring wiring ∈ session.listeners

/-- A session whose dimmers are told of everything as long as they have a wiring. -/
structure Connected (count : Nat) (session : Session) : Prop extends Staffed count session where
  connected : ∀ {dimmer entry wiring}, session.dimmer? dimmer = some entry →
    entry.wiring = some wiring → Following session dimmer wiring

theorem Following.owner_of_wirings {session later : Session} {dimmer wiring : Nat}
    (following : Following session dimmer wiring) (wirings : later.wirings = session.wirings) :
    dimmerOf? later wiring = some dimmer := by
  unfold dimmerOf?
  rw [wirings, following.owned]
  rfl

namespace Staffed

variable {count dimmer : Nat} {session later : Session}

theorem of_same_surroundings (same : later.surroundings = session.surroundings)
    (staffed : Staffed count session) : Staffed count later where
  staffed := by
    have dimmers : later.dimmers.map (·.bare) = session.dimmers.map (·.bare) :=
      congrArg Session.dimmers same
    rw [← staffed.staffed, ← List.length_map (·.bare), dimmers, List.length_map]
  founded := by
    unfold dimmerOf?
    rw [Session.wirings_of_same_surroundings same]
    exact staffed.founded

theorem dimmers_modified (staffed : Staffed count session) (dimmer : Nat)
    (change : Dimmer → Dimmer) :
    Staffed count { session with dimmers := session.dimmers.modify dimmer change } where
  staffed := by
    dsimp only
    rw [List.length_modify, staffed.staffed]
  founded := staffed.founded

theorem subscribed (staffed : Staffed count session) (known : dimmer < count) :
    Staffed count (session.subscribed dimmer) := by
  obtain ⟨more, same, -⟩ := Session.subscribed_eq dimmer session
  rw [same]
  refine ⟨staffed.staffed, fun wiring owner found => ?_⟩
  unfold dimmerOf? at found
  dsimp only at found
  by_cases old : wiring < session.wirings.length
  · rw [List.getElem?_append_left old] at found
    exact staffed.founded wiring owner found
  · rw [List.getElem?_append_right (Nat.le_of_not_lt old), Option.map_eq_some_iff] at found
    obtain ⟨entry, inside, rfl⟩ := found
    rw [List.mem_singleton.1 (List.mem_of_getElem? inside)]
    exact known

theorem unsubscribed (staffed : Staffed count session) (wiring : Nat) :
    Staffed count (session.unsubscribed wiring) := by
  unfold Session.unsubscribed
  split
  · refine ⟨staffed.staffed, fun other owner found => staffed.founded other owner ?_⟩
    unfold dimmerOf? at found ⊢
    dsimp only at found
    rw [← found, List.getElem?_modify]
    cases session.wirings[other]? <;> split <;> rfl
  · exact staffed

theorem unwired (staffed : Staffed count session) (dimmer : Nat) :
    Staffed count (session.unwired dimmer) := by
  unfold Session.unwired
  split
  · exact staffed
  · exact (staffed.unsubscribed _).dimmers_modified dimmer _

theorem joined (staffed : Staffed count session) : Staffed (count + 1) session.joined where
  staffed := by
    unfold Session.joined
    rw [List.length_append, staffed.staffed]
    rfl
  founded := fun wiring dimmer found => Nat.lt_succ_of_lt (staffed.founded wiring dimmer found)

theorem known (staffed : Staffed count session) {entry : Dimmer}
    (found : session.dimmer? dimmer = some entry) : dimmer < count := by
  rw [← staffed.staffed]
  exact (List.getElem?_eq_some_iff.1 found).1

end Staffed

namespace Connected

variable {count dimmer : Nat} {session later : Session}

theorem of_same_surroundings (same : later.surroundings = session.surroundings)
    (connected : Connected count session) : Connected count later where
  toStaffed := connected.toStaffed.of_same_surroundings same
  connected := by
    intro dimmer entry wiring found wired
    obtain ⟨old, known, kept, -⟩ := Session.found_of_same_surroundings same found
    have following := connected.connected known (kept.symm.trans wired)
    exact {
      owned := (congrArg (·.wirings[wiring]?) same).trans following.owned
      active := (congrArg Session.activeCallbacks same).symm ▸ following.active
      documents := (congrArg Session.documentCallbacks same).symm ▸ following.documents
      settings := (congrArg Session.listeners same).symm ▸ following.settings }

theorem of_same (connected : Connected count session)
    (dimmers : later.dimmers = session.dimmers) (wirings : later.wirings = session.wirings)
    (active : later.activeCallbacks = session.activeCallbacks)
    (documents : later.documentCallbacks = session.documentCallbacks)
    (kept : ∀ wiring, Listener.wiring wiring ∈ session.listeners →
      Listener.wiring wiring ∈ later.listeners) : Connected count later where
  staffed := by
    rw [dimmers]
    exact connected.staffed
  founded := by
    unfold dimmerOf?
    rw [wirings]
    exact connected.founded
  connected := by
    intro dimmer entry wiring found wired
    unfold Session.dimmer? at found
    rw [dimmers] at found
    have following := connected.connected found wired
    exact {
      owned := wirings ▸ following.owned
      active := active ▸ following.active
      documents := documents ▸ following.documents
      settings := kept wiring following.settings }

theorem heard (connected : Connected count session) (listener : Listener) :
    Connected count (session.heardBy listener) := by
  obtain ⟨more, same, -⟩ := Session.heard_by_eq session listener
  rw [same]
  exact connected.of_same rfl rfl rfl rfl fun _ inside => List.mem_append_left _ inside

theorem unheard (connected : Connected count session) (definition : Nat) :
    Connected count
      { session with listeners := session.listeners.erase (.defined definition) } := by
  refine connected.of_same rfl rfl rfl rfl fun wiring inside => ?_
  exact (List.mem_erase_of_ne fun equal => by cases equal).2 inside

theorem wired (connected : Connected count session) (known : dimmer < count) :
    Connected count (session.wired dimmer) where
  toStaffed := (connected.toStaffed.subscribed known).dimmers_modified dimmer _
  connected := by
    obtain ⟨more, same, heard⟩ := Session.subscribed_eq dimmer session
    unfold Session.wired
    rw [same]
    intro other entry wiring found wired
    unfold Session.dimmer? Session.wiredTo at found
    dsimp only at found
    by_cases own : dimmer = other
    · subst own
      rw [List.getElem?_modify_eq, Option.map_eq_map, Option.map_eq_some_iff] at found
      obtain ⟨old, -, rfl⟩ := found
      cases wired
      exact {
        owned := List.getElem?_concat_length
        active := List.mem_append_right _ (List.mem_singleton_self _)
        documents := List.mem_append_right _ (List.mem_singleton_self _)
        settings := heard }
    · rw [List.getElem?_modify_ne _ _ own] at found
      have following := connected.connected found wired
      have old := (List.getElem?_eq_some_iff.1 following.owned).1
      exact {
        owned := (List.getElem?_append_left old).trans following.owned
        active := List.mem_append_left _ following.active
        documents := List.mem_append_left _ following.documents
        settings := List.mem_append_left _ following.settings }

theorem activated {entry : Dimmer} (connected : Connected count session)
    (found : session.dimmer? dimmer = some entry) (style : Style) :
    Connected count (session.activated dimmer style) :=
  (connected.of_same_surroundings (Session.presented_surroundings dimmer session style)).wired
    (connected.toStaffed.known found)

theorem unwired (connected : Connected count session) (dimmer : Nat) :
    Connected count (session.unwired dimmer) where
  toStaffed := connected.toStaffed.unwired dimmer
  connected := by
    unfold Session.unwired
    split
    next => exact connected.connected
    next wiring holding =>
      obtain ⟨entry, found, wired⟩ := Option.bind_eq_some_iff.1 holding
      have leaving := connected.connected found wired
      have loose : session.unsubscribed wiring =
          { session with
            wirings := session.wirings.modify wiring fun entry =>
              { entry with subscribed := false }
            activeCallbacks := session.activeCallbacks.erase wiring
            documentCallbacks := session.documentCallbacks.erase wiring
            listeners := session.listeners.erase (.wiring wiring) } :=
        if_pos (by rw [leaving.owned]; rfl)
      rw [loose]
      intro other entry stays found wired
      unfold Session.dimmer? at found
      dsimp only at found
      by_cases own : dimmer = other
      · subst own
        rw [List.getElem?_modify_eq, Option.map_eq_map, Option.map_eq_some_iff] at found
        obtain ⟨old, -, rfl⟩ := found
        cases wired
      · rw [List.getElem?_modify_ne _ _ own] at found
        have following := connected.connected found wired
        have apart : wiring ≠ stays := by
          rintro rfl
          have same := leaving.owned.symm.trans following.owned
          exact own (congrArg Wiring.dimmer (Option.some.inj same))
        exact {
          owned := (List.getElem?_modify_ne _ _ apart).trans following.owned
          active := (List.mem_erase_of_ne apart.symm).2 following.active
          documents := (List.mem_erase_of_ne apart.symm).2 following.documents
          settings := (List.mem_erase_of_ne fun equal => apart (by cases equal; rfl)).2
            following.settings }

theorem deactivated (connected : Connected count session) (dimmer : Nat) :
    Connected count (session.deactivated dimmer) :=
  (connected.unwired dimmer).of_same_surroundings
    (Session.undressed_surroundings dimmer (session.unwired dimmer))

theorem joined (connected : Connected count session) : Connected (count + 1) session.joined where
  toStaffed := connected.toStaffed.joined
  connected := by
    intro dimmer entry wiring found wired
    rcases Session.found_of_joined found with old | rfl
    · exact { connected.connected old wired with }
    · cases wired

theorem start (disk : Disk) (stage : Stage) : Connected 1 (Session.start disk stage) where
  staffed := rfl
  founded := fun _ _ found => by cases found
  connected := by
    intro dimmer entry wiring found wired
    rw [List.mem_singleton.1 (List.mem_of_getElem? found)] at wired
    cases wired

theorem lasting (count : Nat) : Lasting count (Connected count) where
  logged := fun _ connected => connected.of_same rfl rfl rfl rfl fun _ => id
  stored := fun _ connected => connected.of_same rfl rfl rfl rfl fun _ => id
  resettled := fun _ connected => connected.of_same rfl rfl rfl rfl fun _ => id
  defined := fun _ connected => connected.of_same rfl rfl rfl rfl fun _ => id
  remarked := fun _ connected => connected.of_same rfl rfl rfl rfl fun _ => id
  heard := fun _ connected => connected.heard _
  unheard := fun definition connected => connected.unheard definition
  staffed := fun connected => connected.staffed
  founded := fun connected => connected.founded _ _
  decorated := fun dimmer editor connected =>
    connected.of_same_surroundings (Session.decorated_surroundings dimmer _ editor)
  rebuilt := fun _ _ connected =>
    connected.of_same_surroundings (Session.rebuilt_surroundings _ _ _)
  activated := fun found _ _ connected => connected.activated found _
  deactivated := fun _ connected => connected.deactivated _
  undressed := fun dimmer connected =>
    connected.of_same_surroundings (Session.undressed_surroundings dimmer _)

end Connected

end Dimming
