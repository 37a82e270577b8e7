import Dimming.Proofs.Session.Connection
import Mathlib.Data.List.Nodup

/-!
# Who is told of changes

Listeners are added to a list and removed from it. It holds nobody twice, and in it everybody
stands behind those who were registered earlier: adding a listener again changes nothing, and who
was removed and added again has lost the place. This is first said of any history of requests and
then, as far as nobody stands twice, of whole runs.
-/

set_option autoImplicit false

namespace Dimming

open Dimming.Action

inductive Request where
  | add (listener : Listener)
  | remove (listener : Listener)
deriving DecidableEq

namespace Request

def act : Request → Action Unit
  | .add listener => addListener listener
  | .remove listener => removeListener listener

def applied (listeners : List Listener) : Request → List Listener
  | .add listener =>
      if listeners.contains listener then listeners else listeners ++ [listener]
  | .remove listener => listeners.erase listener

section Applied

variable {listeners : List Listener} {listener : Listener}

theorem applied_add_known (known : listener ∈ listeners) :
    applied listeners (.add listener) = listeners :=
  if_pos (List.contains_iff_mem.2 known)

theorem applied_add_new (new : listener ∉ listeners) :
    applied listeners (.add listener) = listeners ++ [listener] :=
  if_neg (mt List.contains_iff_mem.1 new)

theorem append_nodup (once : listeners.Nodup) (new : listener ∉ listeners) :
    (listeners ++ [listener]).Nodup := by
  rw [← List.concat_eq_append]
  exact List.Nodup.concat new once

theorem applied_nodup (once : listeners.Nodup) (request : Request) :
    (applied listeners request).Nodup := by
  cases request with
  | add listener =>
      by_cases known : listener ∈ listeners
      · rw [applied_add_known known]
        exact once
      · rw [applied_add_new known]
        exact append_nodup once known
  | remove listener => exact once.erase listener

theorem run_act (request : Request) (session : Session) :
    request.act.run session =
      (.ok (), { session with listeners := applied session.listeners request }) := by
  cases request with
  | add listener =>
      unfold act addListener applied
      rw [run_modify]
      dsimp only
      split <;> rfl
  | remove listener => rfl

theorem run_acts (requests : List Request) (session : Session) :
    (requests.forM act).run session =
      (.ok (), { session with listeners := requests.foldl applied session.listeners }) := by
  induction requests generalizing session with
  | nil => rfl
  | cons request requests ih =>
      change (request.act >>= fun _ => requests.forM act).run session = _
      rw [run_bind_of_ok (run_act request session), ih]
      rfl

end Applied

/-- The number of requests that had been made when a listener was registered, if it is after a
history of them. Histories have the newest request first. -/
def since? (listener : Listener) : List Request → Option Nat
  | [] => none
  | .add other :: earlier =>
      if other = listener then (since? listener earlier).or (some earlier.length)
      else since? listener earlier
  | .remove other :: earlier => if other = listener then none else since? listener earlier

theorem since_lt {listener : Listener} {history : List Request} {number : Nat}
    (registered : since? listener history = some number) : number < history.length := by
  induction history generalizing number with
  | nil => cases registered
  | cons request earlier ih =>
      rw [List.length_cons]
      cases request with
      | add other =>
          rw [since?] at registered
          split at registered
          · cases before : since? listener earlier with
            | none =>
                rw [before] at registered
                cases registered
                exact Nat.lt_succ_self _
            | some older =>
                rw [before] at registered
                cases registered
                exact Nat.lt_succ_of_lt (ih before)
          · exact Nat.lt_succ_of_lt (ih registered)
      | remove other =>
          rw [since?] at registered
          split at registered
          · cases registered
          · exact Nat.lt_succ_of_lt (ih registered)

/-- The listeners that are registered after a history of requests, in the order in which they
were. -/
structure Registers (history : List Request) (listeners : List Listener) : Prop where
  once : listeners.Nodup
  registered : ∀ listener, listener ∈ listeners ↔ (since? listener history).isSome = true
  inOrder : listeners.Pairwise fun one other => ∀ early late,
    since? one history = some early → since? other history = some late → early < late

namespace Registers

variable {history : List Request} {listeners : List Listener}

theorem start : Registers [] [] where
  once := List.nodup_nil
  registered := fun _ => iff_of_false List.not_mem_nil Bool.false_ne_true
  inOrder := List.Pairwise.nil

theorem of_same_since {later : List Request} (registers : Registers history listeners)
    (same : ∀ listener, since? listener later = since? listener history) :
    Registers later listeners where
  once := registers.once
  registered := by
    intro listener
    rw [same]
    exact registers.registered listener
  inOrder := by
    simp only [same]
    exact registers.inOrder

theorem add_known (registers : Registers history listeners) {listener : Listener}
    (known : listener ∈ listeners) : Registers (.add listener :: history) listeners := by
  refine registers.of_same_since fun other => ?_
  rw [since?]
  split
  next own =>
      subst own
      obtain ⟨number, found⟩ := Option.isSome_iff_exists.1 ((registers.registered _).1 known)
      rw [found]
      rfl
  next => rfl

theorem add_new (registers : Registers history listeners) {listener : Listener}
    (new : listener ∉ listeners) :
    Registers (.add listener :: history) (listeners ++ [listener]) := by
  have others {other : Listener} (apart : listener ≠ other) :
      since? other (.add listener :: history) = since? other history :=
    if_neg apart
  have own : since? listener (.add listener :: history) = some history.length := by
    have before : since? listener history = none :=
      Option.not_isSome_iff_eq_none.1 (mt (registers.registered listener).2 new)
    rw [since?, if_pos rfl, before]
    rfl
  have apart {other : Listener} (inside : other ∈ listeners) : listener ≠ other :=
    fun same => new (same ▸ inside)
  refine ⟨append_nodup registers.once new, fun other => ?_, ?_⟩
  · by_cases same : listener = other
    · subst same
      exact iff_of_true (by simp) (by rw [own]; rfl)
    · rw [others same, ← registers.registered other, List.mem_append, List.mem_singleton]
      exact or_iff_left fun equal => same equal.symm
  · refine List.pairwise_append.2 ⟨?_, List.pairwise_singleton _ _, ?_⟩
    · refine registers.inOrder.imp_of_mem fun {one other} inside inside' before => ?_
      rw [others (apart inside), others (apart inside')]
      exact before
    · intro one inside other last early late registered now
      cases List.mem_singleton.1 last
      rw [others (apart inside)] at registered
      rw [own] at now
      cases now
      exact since_lt registered

theorem remove (registers : Registers history listeners) (listener : Listener) :
    Registers (.remove listener :: history) (listeners.erase listener) := by
  have others {other : Listener} (apart : listener ≠ other) :
      since? other (.remove listener :: history) = since? other history :=
    if_neg apart
  have apart {other : Listener} (inside : other ∈ listeners.erase listener) : listener ≠ other :=
    fun same => (registers.once.mem_erase_iff.1 inside).1 same.symm
  refine ⟨registers.once.erase listener, fun other => ?_, ?_⟩
  · by_cases same : listener = other
    · subst same
      refine iff_of_false registers.once.not_mem_erase ?_
      rw [since?, if_pos rfl]
      exact Bool.false_ne_true
    · rw [others same, ← registers.registered other]
      exact List.mem_erase_of_ne fun equal => same equal.symm
  · refine (registers.inOrder.sublist List.erase_sublist).imp_of_mem ?_
    intro one other inside inside' before
    rw [others (apart inside), others (apart inside')]
    exact before

theorem step (registers : Registers history listeners) (request : Request) :
    Registers (request :: history) (applied listeners request) := by
  cases request with
  | add listener =>
      by_cases known : listener ∈ listeners
      · rw [applied_add_known known]
        exact registers.add_known known
      · rw [applied_add_new known]
        exact registers.add_new known
  | remove listener => exact registers.remove listener

theorem along (registers : Registers history listeners) (requests : List Request) :
    Registers (requests.reverse ++ history) (requests.foldl applied listeners) := by
  induction requests generalizing history listeners with
  | nil => exact registers
  | cons request requests ih =>
      rw [List.reverse_cons, List.append_assoc]
      exact ih (registers.step request)

end Registers

theorem registers_of_nobody (requests : List Request) {session : Session}
    (nobody : session.listeners = []) : ∃ listeners,
      (requests.forM act).run session = (.ok (), { session with listeners }) ∧
        Registers requests.reverse listeners := by
  refine ⟨_, run_acts requests session, ?_⟩
  have registers := Registers.start.along requests
  rw [List.append_nil] at registers
  rwa [nobody]

end Request

theorem Session.heard_by_listeners (session : Session) (listener : Listener) :
    (session.heardBy listener).listeners = Request.applied session.listeners (.add listener) := by
  unfold Session.heardBy
  change _ = if session.listeners.contains listener then _ else _
  split <;> rfl

structure Listed (count : Nat) (session : Session) : Prop extends Staffed count session where
  once : session.listeners.Nodup

namespace Listed

variable {count dimmer : Nat} {session later : Session}

theorem of_same_listeners (listed : Listed count session) (staffed : Staffed count later)
    (same : later.listeners = session.listeners) : Listed count later where
  toStaffed := staffed
  once := same.symm ▸ listed.once

theorem of_same_surroundings (listed : Listed count session)
    (same : later.surroundings = session.surroundings) : Listed count later := by
  refine listed.of_same_listeners (listed.toStaffed.of_same_surroundings same) ?_
  change later.surroundings.listeners = session.surroundings.listeners
  rw [same]

theorem wired (listed : Listed count session) (known : dimmer < count) :
    Listed count (session.wired dimmer) where
  toStaffed := (listed.toStaffed.subscribed known).dimmers_modified dimmer _
  once := by
    change (Session.heardBy _ _).listeners.Nodup
    rw [Session.heard_by_listeners]
    exact Request.applied_nodup listed.once _

theorem unsubscribed (listed : Listed count session) (wiring : Nat) :
    Listed count (session.unsubscribed wiring) where
  toStaffed := listed.toStaffed.unsubscribed wiring
  once := by
    unfold Session.unsubscribed
    split
    · exact listed.once.erase _
    · exact listed.once

theorem unwired (listed : Listed count session) (dimmer : Nat) :
    Listed count (session.unwired dimmer) := by
  unfold Session.unwired
  split
  next => exact listed
  next wiring _ =>
      have loose := listed.unsubscribed wiring
      exact loose.of_same_listeners (loose.toStaffed.dimmers_modified dimmer _) rfl

theorem lasting (count : Nat) : Lasting count (Listed count) where
  logged := fun _ listed => { listed with }
  stored := fun _ listed => { listed with }
  resettled := fun _ listed => { listed with }
  defined := fun _ listed => { listed with }
  remarked := fun _ listed => { listed with }
  heard := by
    intro session definition listed
    have once := Request.applied_nodup listed.once (.add (.defined definition))
    rw [← Session.heard_by_listeners] at once
    obtain ⟨more, same, -⟩ := Session.heard_by_eq session (.defined definition)
    rw [same] at once ⊢
    exact { listed with once }
  unheard := fun _ listed => { listed with once := listed.once.erase _ }
  staffed := fun listed => listed.staffed
  founded := fun listed => listed.founded _ _
  decorated := fun dimmer editor listed =>
    listed.of_same_surroundings (Session.decorated_surroundings dimmer _ editor)
  rebuilt := fun _ _ listed =>
    listed.of_same_surroundings (Session.rebuilt_surroundings _ _ _)
  activated := fun found _ _ listed =>
    (listed.of_same_surroundings (Session.presented_surroundings _ _ _)).wired
      (listed.toStaffed.known found)
  deactivated := fun _ listed =>
    (listed.unwired _).of_same_surroundings (Session.undressed_surroundings _ _)
  undressed := fun dimmer listed =>
    listed.of_same_surroundings (Session.undressed_surroundings dimmer _)

theorem joined (listed : Listed count session) : Listed (count + 1) session.joined where
  toStaffed := listed.toStaffed.joined
  once := listed.once

theorem redressed (listed : Listed count session) (dimmer : Nat) (style : Style) :
    Listed count ((session.undressed dimmer).dressed dimmer style) := by
  apply listed.of_same_surroundings
  rw [Session.dressed_surroundings, Session.undressed_surroundings]

theorem step (operation : Operation) (listed : Listed count session) :
    ∃ count', Listed count' (Session.step operation session).2 := by
  by_cases alone : operation = .newDimmer
  · subst alone
    exact ⟨count + 1, listed.joined⟩
  · exact ⟨count, (lasting count).keeps_step (fun style _ listed => listed.redressed _ style)
      (fun dimmer after _ listed =>
        listed.of_same_listeners (listed.toStaffed.dimmers_modified dimmer _) rfl)
      (fun wiring listed => listed.unsubscribed wiring) alone (fun stage listed => { listed with })
      session listed⟩

theorem through (disk : Disk) (stage : Stage) (operations : List Operation) :
    ∃ count, Listed count ((Session.start disk stage).through operations) := by
  have start : Listed 1 (Session.start disk stage) :=
    { (Connected.start disk stage).toStaffed with once := List.nodup_nil }
  refine List.foldlRecOn operations _ (motive := fun session => ∃ count, Listed count session)
    ⟨1, start⟩ ?_
  rintro session ⟨count, listed⟩ operation -
  exact listed.step operation

theorem nodup_through (disk : Disk) (stage : Stage) (operations : List Operation) :
    ((Session.start disk stage).through operations).listeners.Nodup := by
  obtain ⟨count, listed⟩ := through disk stage operations
  exact listed.once

end Listed

end Dimming
