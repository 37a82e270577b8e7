import Dimming.Proofs.Session.Overwriting
import Dimming.Proofs.Session.Registration
import Mathlib.Data.List.Chain

/-!
# How a change is told

A setting is stored first. Then the listeners hear of it that are registered at that moment, one
after the other, until one of them fails. What they ask of the list meanwhile is done at once, but
who is still to be told has been settled before: whoever comes in is not told of this change, and
whoever goes out still is. That holds however the listeners react, as long as they leave what is
stored alone; those of a session are a case of it.
-/

set_option autoImplicit false

namespace Dimming

open Dimming.Action

/-- What a defined listener has been told. -/
def Event.isNotice : Event → Bool
  | .notified _ _ => true
  | _ => false

namespace Session

/-- What the defined listeners have been told, newest first. -/
def notices (session : Session) : List Event := session.events.filter Event.isNotice

theorem dressing_notices (dimmer : Nat) (notices : List Event) :
    Dressing dimmer fun session => session.notices = notices where
  decorated := by
    intro session editor same
    unfold decorated
    split <;> exact same
  recorded := fun _ same => same
  undressed := by
    intro session same
    unfold undressed
    split <;> exact same
  redressed := by
    intro session style same
    unfold undressed
    split <;> exact same

end Session

/-- One listener is told: who it is, the session that it is told in, and what comes of it. -/
structure Telling where
  listener : Listener
  before : Session
  result : Except Fault Unit × Session

namespace Telling

/-- The listeners of a list are told in turn, each in the session that the one before has left,
until one of them fails. -/
def inTurn (tell : Listener → Action Unit) : List Listener → Session → List Telling
  | [], _ => []
  | listener :: listeners, session =>
      let result := (tell listener).run session
      let behind := match result with
        | (.ok _, later) => inTurn tell listeners later
        | (.error _, _) => []
      ⟨listener, session, result⟩ :: behind

section InTurn

variable {tell : Listener → Action Unit} {listener : Listener} {session later : Session}

theorem in_turn_of_ok (ran : (tell listener).run session = (.ok (), later))
    (listeners : List Listener) :
    inTurn tell (listener :: listeners) session =
      ⟨listener, session, (.ok (), later)⟩ :: inTurn tell listeners later := by
  rw [inTurn, ran]

theorem in_turn_of_error {fault : Fault}
    (ran : (tell listener).run session = (.error fault, later)) (listeners : List Listener) :
    inTurn tell (listener :: listeners) session = [⟨listener, session, (.error fault, later)⟩] := by
  rw [inTurn, ran]

end InTurn

end Telling

/-- Listeners that may fail and may ask for any others to be added or removed, whatever the session
is that they are told in, but leave the list alone otherwise and what is stored altogether. -/
structure Modest (tell : Listener → Action Unit) (asks : Listener → Session → List Request) :
    Prop where
  listeners : ∀ listener session, ((tell listener).run session).2.listeners =
    (asks listener session).foldl Request.applied session.listeners
  storage : ∀ listener session, ((tell listener).run session).2.storage = session.storage

/-- The listeners of a list have been told from a session on: in order, the first in that session
and each other one in the session that the one before has left; all of them, or all up to the first
one that has failed, with which the whole has failed. Whenever one was told, the same was stored,
and in the end everything is done that they have asked for, in that order. -/
structure Delivered (tell : Listener → Action Unit) (asks : Listener → Session → List Request)
    (listeners : List Listener) (first : Session) (told : List Telling)
    (result : Except Fault Unit × Session) : Prop where
  inOrder : told.map (·.listener) <+: listeners
  everyone : result.1 = .ok () → told.map (·.listener) = listeners
  ran : ∀ telling ∈ told, telling.result = (tell telling.listener).run telling.before
  began : ∀ telling ∈ told.head?, telling.before = first
  chained : told.IsChain fun one next => next.before = one.result.2
  wentOn : ∀ telling ∈ told.dropLast, telling.result.1 = .ok ()
  ended : result = (told.getLast?.map (·.result)).getD (.ok (), first)
  stored : ∀ telling ∈ told, telling.before.storage = first.storage
  kept : result.2.storage = first.storage
  asked : result.2.listeners =
    (told.flatMap fun telling => asks telling.listener telling.before).foldl Request.applied
      first.listeners

namespace Delivered

variable {tell : Listener → Action Unit} {asks : Listener → Session → List Request}
variable {listeners : List Listener} {listener : Listener} {first later : Session}
variable {told : List Telling} {result : Except Fault Unit × Session}

theorem nobody : Delivered tell asks [] first [] (.ok (), first) where
  inOrder := List.prefix_refl _
  everyone := fun _ => rfl
  ran := fun _ absent => absurd absent List.not_mem_nil
  began := fun _ absent => by cases absent
  chained := .nil
  wentOn := fun _ absent => absurd absent List.not_mem_nil
  ended := rfl
  stored := fun _ absent => absurd absent List.not_mem_nil
  kept := rfl
  asked := rfl

theorem failed (modest : Modest tell asks) {fault : Fault}
    (ran : (tell listener).run first = (.error fault, later)) :
    Delivered tell asks (listener :: listeners) first [⟨listener, first, (.error fault, later)⟩]
      (.error fault, later) where
  inOrder := ⟨listeners, rfl⟩
  everyone := fun fine => by cases fine
  ran := fun _ inside => List.mem_singleton.1 inside ▸ ran.symm
  began := fun _ inside => Option.some.inj inside ▸ rfl
  chained := .singleton _
  wentOn := fun _ absent => absurd absent List.not_mem_nil
  ended := rfl
  stored := fun _ inside => List.mem_singleton.1 inside ▸ rfl
  kept := by
    rw [← modest.storage listener first, ran]
  asked := by
    rw [List.flatMap_singleton, ← modest.listeners listener first, ran]

theorem heard (modest : Modest tell asks)
    (ran : (tell listener).run first = (.ok (), later))
    (behind : Delivered tell asks listeners later told result) :
    Delivered tell asks (listener :: listeners) first (⟨listener, first, (.ok (), later)⟩ :: told)
      result := by
  have storage : later.storage = first.storage := by
    rw [← modest.storage listener first, ran]
  have list : later.listeners = (asks listener first).foldl Request.applied first.listeners := by
    rw [← modest.listeners listener first, ran]
  exact {
    inOrder := (List.prefix_cons_inj listener).2 behind.inOrder
    everyone := fun fine => congrArg (listener :: ·) (behind.everyone fine)
    ran := by
      intro telling inside
      rcases List.mem_cons.1 inside with rfl | inside
      · exact ran.symm
      · exact behind.ran telling inside
    began := fun _ inside => Option.some.inj inside ▸ rfl
    chained := by
      have began := behind.began
      have chained := behind.chained
      cases told with
      | nil => exact .singleton _
      | cons telling told => exact .cons_cons (began telling rfl) chained
    wentOn := by
      intro telling inside
      have wentOn := behind.wentOn telling
      cases told with
      | nil => exact absurd inside List.not_mem_nil
      | cons next told =>
          rcases List.mem_cons.1 inside with rfl | inside
          · rfl
          · exact wentOn inside
    ended := by
      rw [behind.ended, List.getLast?_cons]
      cases told.getLast? <;> rfl
    stored := by
      intro telling inside
      rcases List.mem_cons.1 inside with rfl | inside
      · rfl
      · exact (behind.stored telling inside).trans storage
    kept := behind.kept.trans storage
    asked := by
      rw [behind.asked, list, List.flatMap_cons, List.foldl_append] }

theorem in_turn (modest : Modest tell asks) (listeners : List Listener) (first : Session) :
    Delivered tell asks listeners first (Telling.inTurn tell listeners first)
      ((listeners.forM tell).run first) := by
  induction listeners generalizing first with
  | nil => exact nobody
  | cons listener listeners ih =>
      change Delivered _ _ _ _ _ ((tell listener >>= fun _ => listeners.forM tell).run first)
      rcases ran : (tell listener).run first with ⟨fault | value, later⟩
      · rw [run_bind_of_error ran, Telling.in_turn_of_error ran]
        exact failed modest ran
      · rw [run_bind_of_ok ran, Telling.in_turn_of_ok ran]
        exact heard modest ran (ih later)

theorem once (delivered : Delivered tell asks listeners first told result)
    (distinct : listeners.Nodup) : (told.map (·.listener)).Nodup :=
  distinct.sublist delivered.inOrder.sublist

end Delivered

/-- What one action of a listener asks for, or why it fails. -/
def ListenerAction.request (session : Session) : ListenerAction → Except Fault Request
  | .raise text => .error (.raised text)
  | .remove name => (named name).map fun definition => .remove (.defined definition)
  | .add name => (named name).map fun definition => .add (.defined definition)
where
  named (name : Text) : Except Fault Nat :=
    match definitionOf? session name with
    | some definition => .ok definition
    | none => .error (.unknownListener name)

/-- What is asked for in the course of actions, as long as none of them fails. -/
def requestsOf (session : Session) : List ListenerAction → List Request
  | [] => []
  | action :: actions =>
      match action.request session with
      | .ok request => request :: requestsOf session actions
      | .error _ => []

def Listener.asks : Listener → Session → List Request
  | .wiring _, _ => []
  | .defined definition, session =>
      match session.definitions[definition]? with
      | some entry => requestsOf session entry.actions
      | none => []

def Listener.notice? (change : Change) : Listener → Session → Option Event
  | .wiring _, _ => none
  | .defined definition, session =>
      session.definitions[definition]?.map fun entry => .notified entry.name change.keys

section Asking

variable {session later : Session}

theorem find_listener_run (name : Text) (same : later.definitions = session.definitions) :
    (findListener name).run later = match ListenerAction.request.named session name with
      | .ok definition => (.ok (.defined definition), later)
      | .error fault => (.error fault, later) := by
  have found : definitionOf? later name = definitionOf? session name := by
    unfold definitionOf?
    rw [same]
  unfold findListener ListenerAction.request.named
  rw [run_get_bind, found]
  cases definitionOf? session name <;> rfl

theorem perform_run (action : ListenerAction) (same : later.definitions = session.definitions) :
    (perform action).run later = match action.request session with
      | .ok request => request.act.run later
      | .error fault => (.error fault, later) := by
  cases action with
  | raise text => rfl
  | remove name | add name =>
      have found := find_listener_run name same
      unfold perform ListenerAction.request
      dsimp only
      rw [run_bind, found]
      cases ListenerAction.request.named session name <;> rfl

/-- The requests change nothing but the list, so the next action finds the same definitions. -/
theorem performed (actions : List ListenerAction)
    (same : later.definitions = session.definitions) :
    ∃ outcome, (actions.forM perform).run later =
      (outcome, { later with
        listeners := (requestsOf session actions).foldl Request.applied later.listeners }) := by
  induction actions generalizing later with
  | nil => exact ⟨.ok (), rfl⟩
  | cons action actions ih =>
      change ∃ outcome, (perform action >>= fun _ => actions.forM perform).run later = _
      have performed := perform_run action same
      rw [requestsOf]
      cases asked : action.request session with
      | error fault =>
          rw [asked] at performed
          exact ⟨.error fault, run_bind_of_error performed⟩
      | ok request =>
          rw [asked] at performed
          rw [run_bind_of_ok (performed.trans (request.run_act later))]
          exact ih same

theorem delivered_undefined {definition : Nat} (missing : session.definitions[definition]? = none)
    (change : Change) : (deliver change (.defined definition)).run session = (.ok (), session) := by
  unfold deliver
  rw [run_get_bind, missing]
  rfl

theorem delivered_defined {definition : Nat} {entry : ListenerDefinition}
    (found : session.definitions[definition]? = some entry) (change : Change) :
    ∃ outcome, (deliver change (.defined definition)).run session =
      (outcome, { session.after ⟨none, .notified entry.name change.keys⟩ with
        listeners := (requestsOf session entry.actions).foldl Request.applied session.listeners }) := by
  have same : (session.after ⟨none, .notified entry.name change.keys⟩).definitions =
      session.definitions := rfl
  unfold deliver
  rw [run_get_bind, found]
  exact performed entry.actions same

theorem deliver_modest (change : Change) : Modest (deliver change) Listener.asks where
  listeners := by
    intro listener session
    cases listener with
    | wiring wiring =>
        obtain ⟨later, yields, same⟩ := configuration_changed_yields change wiring session
        obtain ⟨logs, ran⟩ := run_of_yields yields
        unfold deliver
        rw [ran]
        change later.surroundings.listeners = session.surroundings.listeners
        rw [same]
    | defined definition =>
        unfold Listener.asks
        dsimp only
        cases found : session.definitions[definition]? with
        | none =>
            rw [delivered_undefined found]
            rfl
        | some entry =>
            obtain ⟨outcome, ran⟩ := delivered_defined found change
            rw [ran]
  storage := by
    intro listener session
    let fine (storage : Disk × Settings) : Prop := storage = session.storage
    have kept := (Indifferent.of_storage fine).keeps_deliver
      (configuration_changed_keeps_storage fine change) listener
    exact kept session rfl

theorem deliver_notices (change : Change) (listener : Listener) (session : Session) :
    ((deliver change listener).run session).2.notices =
      (listener.notice? change session).toList ++ session.notices := by
  cases listener with
  | wiring wiring =>
      have kept := configuration_changed_keeps
        (fun dimmer => Session.dressing_notices dimmer session.notices) (fun _ same => same)
      exact kept change wiring session rfl
  | defined definition =>
      unfold Listener.notice?
      dsimp only
      cases found : session.definitions[definition]? with
      | none =>
          rw [delivered_undefined found]
          rfl
      | some entry =>
          obtain ⟨outcome, ran⟩ := delivered_defined found change
          rw [ran]
          rfl

theorem notices_in_turn (change : Change) (listeners : List Listener) (first : Session) :
    let told := Telling.inTurn (deliver change) listeners first
    ((listeners.forM (deliver change)).run first).2.notices =
      (told.filterMap fun telling => telling.listener.notice? change telling.before).reverse ++
        first.notices := by
  induction listeners generalizing first with
  | nil => rfl
  | cons listener listeners ih =>
      change ((deliver change listener >>= fun _ => listeners.forM (deliver change)).run first).2.notices
        = _
      have own := deliver_notices change listener first
      rcases ran : (deliver change listener).run first with ⟨fault | value, later⟩
      · rw [ran] at own
        rw [run_bind_of_error ran, Telling.in_turn_of_error ran, own]
        cases noticed : listener.notice? change first <;> simp [noticed]
      · rw [ran] at own
        rw [run_bind_of_ok ran, Telling.in_turn_of_ok ran, ih later, own]
        cases noticed : listener.notice? change first <;> simp [noticed]

end Asking

namespace Action

def announce (tell : Change → Listener → Action Unit) (key : Text) (value : Json) :
    Action Unit := do
  store key value
  (← get).listeners.forM (tell (Change.ofKeys [key]))

theorem save_eq_announce : save = announce deliver := rfl

end Action

/-- Nobody is registered twice, and whoever is registered stands behind those who were before,
after any requests as well as in whole runs. A setting that is saved is stored before anybody hears
of it. Then those hear of it who are registered at that moment, whatever they ask for meanwhile:
each once and in order, all of them or all up to the first one that fails, with which the saving
fails; and what they asked for is done to the list. A setting that cannot be stored is told to
nobody. The notices of a session show who has heard. -/
theorem change_told_to_registered_listeners :
    (∀ (requests : List Request) (session : Session), session.listeners = [] → ∃ listeners,
      (requests.forM Request.act).run session = (.ok (), { session with listeners }) ∧
        Request.Registers requests.reverse listeners) ∧
    (∀ disk stage operations,
      ((Session.start disk stage).through operations).listeners.Nodup) ∧
    (∀ value, saveOpacity value = announce deliver Settings.opacityKey value ∧
      saveEnabled value = announce deliver Settings.enabledKey value ∧
      (Color.isValid value = true → saveColor value = announce deliver Settings.colorKey value)) ∧
    (∀ change, Modest (deliver change) Listener.asks ∧ ∀ listeners first,
      let told := Telling.inTurn (deliver change) listeners first
      ((listeners.forM (deliver change)).run first).2.notices =
        (told.filterMap fun telling => telling.listener.notice? change telling.before).reverse ++
          first.notices) ∧
    ∀ tell asks key value session, Modest (tell (Change.ofKeys [key])) asks →
      match (store key value).run session with
      | (.error fault, left) =>
          (announce tell key value).run session = (.error fault, left) ∧
            ∃ disk, left = { session with disk }
      | (.ok _, stored) =>
          let tells := tell (Change.ofKeys [key])
          let told := Telling.inTurn tells session.listeners stored
          stored.settings = session.settings.put key value ∧
            stored.disk = session.disk.holding stored.settings.encode ∧
            stored.listeners = session.listeners ∧
            Delivered tells asks session.listeners stored told
              ((announce tell key value).run session) ∧
            (session.listeners.Nodup → (told.map (·.listener)).Nodup) := by
  refine ⟨fun requests _ => Request.registers_of_nobody requests, Listed.nodup_through, ?_,
    fun change => ⟨deliver_modest change, notices_in_turn change⟩, ?_⟩
  · intro value
    unfold saveOpacity saveEnabled saveColor
    rw [save_eq_announce]
    exact ⟨rfl, rfl, fun valid => if_pos valid⟩
  · intro tell asks key value session modest
    rcases store_cases key value session with ⟨fault, disk, -, failed⟩ | ⟨disk, logs, fit, ran⟩
    · rw [failed]
      exact ⟨run_bind_of_error failed, disk, rfl⟩
    · rw [ran]
      let stored : Session := { session with disk, settings := session.settings.put key value, logs }
      have told : (announce tell key value).run session =
          (session.listeners.forM (tell (Change.ofKeys [key]))).run stored := by
        unfold announce
        rw [run_bind_of_ok ran, run_get_bind]
      have delivered := Delivered.in_turn modest session.listeners stored
      dsimp only
      rw [told]
      exact ⟨rfl, fit.written, rfl, delivered, delivered.once⟩

/-- The first of two listeners has the second one removed and a third one added; the second one is
told all the same, and fails, and the third one is not. -/
theorem removed_listener_still_told :
    let session := (Session.start .absent ⟨[], [], none, []⟩).through
      [.defineListener "first" [.remove "second", .add "third"],
        .defineListener "second" [.raise "stop"], .defineListener "third" [],
        .addListener "first", .addListener "second"]
    let stored := ((store Settings.opacityKey (.number (.int 50))).run session).2
    let result := (saveOpacity (.number (.int 50))).run session
    let tells := deliver (Change.ofKeys [Settings.opacityKey])
    let told := Telling.inTurn tells session.listeners stored
    told.map (·.listener) = [.defined 0, .defined 1] ∧ session.listeners.Nodup ∧
      result.1 = .error (.raised "stop") ∧ result.2.listeners = [.defined 0, .defined 2] ∧
      result.2.notices = [.notified "second" ["logdimmer.opacity"],
        .notified "first" ["logdimmer.opacity"]] ∧
      Delivered tells Listener.asks session.listeners stored told result := by
  intro session stored result tells told
  have facts := change_told_to_registered_listeners
  have ran : (store Settings.opacityKey (.number (.int 50))).run session = (.ok (), stored) := by
    rfl
  have saving := facts.2.2.2.2 deliver Listener.asks Settings.opacityKey (.number (.int 50))
    session (deliver_modest _)
  rw [ran] at saving
  have delivered : Delivered tells Listener.asks session.listeners stored told result := by
    dsimp only [result]
    rw [(facts.2.2.1 _).1]
    exact saving.2.2.2.1
  exact ⟨by decide +kernel, facts.2.1 _ _ _, rfl, by decide +kernel, by decide +kernel, delivered⟩

end Dimming
