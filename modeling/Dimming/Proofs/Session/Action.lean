import Dimming.Session.Operation

/-!
# Actions as state transformers

How an action runs, step by step, and two ways to speak about it: what it keeps of a
session, whether it fails or not, and what it yields when it cannot fail. Log lines are left
open throughout, since nothing reads them back.
-/

set_option autoImplicit false

namespace Dimming

namespace Action

variable {Value Other : Type}

theorem run_modify (change : Session → Session) (session : Session) :
    (modify change : Action Unit).run session = (.ok (), change session) := rfl

theorem run_bind (first : Action Value) (next : Value → Action Other) (session : Session) :
    (first >>= next).run session =
      match first.run session with
      | (.ok value, later) => (next value).run later
      | (.error fault, later) => (.error fault, later) := by
  change ExceptT.bindCont next (first.run session).1 (first.run session).2 = _
  rcases first.run session with ⟨_ | _, later⟩ <;> rfl

theorem run_bind_of_ok {first : Action Value} {next : Value → Action Other}
    {session later : Session} {value : Value} (ran : first.run session = (.ok value, later)) :
    (first >>= next).run session = (next value).run later := by
  rw [run_bind, ran]

theorem run_bind_of_error {first : Action Value} {next : Value → Action Other}
    {session later : Session} {fault : Fault} (ran : first.run session = (.error fault, later)) :
    (first >>= next).run session = (.error fault, later) := by
  rw [run_bind, ran]

theorem run_bind_pure (action : Action Value) (next : Value → Other) (session : Session) :
    ((action >>= fun value => pure (next value)).run session).2 = (action.run session).2 := by
  rw [run_bind]
  rcases action.run session with ⟨_ | _, later⟩ <;> rfl

theorem run_get_bind (next : Session → Action Other) (session : Session) :
    ((get : Action Session) >>= next).run session = (next session).run session := rfl

/-- A property of sessions that an action keeps, also where it fails. -/
def Keeps (holds : Session → Prop) (action : Action Value) : Prop :=
  ∀ session, holds session → holds (action.run session).2

section Keeping

variable {holds : Session → Prop}

theorem keeps_pure (value : Value) : Keeps holds (pure value : Action Value) :=
  fun _ held => held

theorem keeps_throw (fault : Fault) : Keeps holds (throw fault : Action Value) :=
  fun _ held => held

theorem keeps_modify {change : Session → Session}
    (kept : ∀ session, holds session → holds (change session)) :
    Keeps holds (modify change : Action Unit) :=
  kept

theorem keeps_bind {first : Action Value} {next : Value → Action Other}
    (firstKeeps : Keeps holds first) (nextKeeps : ∀ value, Keeps holds (next value)) :
    Keeps holds (first >>= next) := by
  intro session held
  have between := firstKeeps session held
  rw [run_bind]
  revert between
  rcases first.run session with ⟨_ | value, later⟩
  · exact id
  · exact nextKeeps value later

theorem keeps_bind_pure {first : Action Value} {next : Value → Other} (kept : Keeps holds first) :
    Keeps holds (first >>= fun value => pure (next value)) :=
  keeps_bind kept fun _ => keeps_pure _

/-- What follows a look at the session may rely on having seen it. -/
theorem keeps_get_bind {next : Session → Action Other}
    (kept : ∀ session, holds session → holds ((next session).run session).2) :
    Keeps holds ((get : Action Session) >>= next) :=
  kept

theorem keeps_and {also : Session → Prop} {action : Action Value} (one : Keeps holds action)
    (other : Keeps also action) : Keeps (fun session => holds session ∧ also session) action :=
  fun session held => ⟨one session held.1, other session held.2⟩

theorem keeps_for_each {Item : Type} {act : Item → Action PUnit} (items : List Item)
    (kept : ∀ item ∈ items, Keeps holds (act item)) : Keeps holds (items.forM act) := by
  induction items with
  | nil => exact keeps_pure _
  | cons item items ih =>
      refine keeps_bind (kept item List.mem_cons_self) fun _ => ?_
      exact ih fun other inside => kept other (List.mem_cons_of_mem _ inside)

end Keeping

/-- Where an action leads if it succeeds, and where it may stop if it fails. -/
def Leads (before : Session → Prop) (action : Action Value) (after : Session → Prop)
    (stopped : Fault → Session → Prop) : Prop :=
  ∀ session, before session →
    match action.run session with
    | (.ok _, later) => after later
    | (.error fault, later) => stopped fault later

section Leading

variable {before between after holds : Session → Prop} {stopped : Fault → Session → Prop}

theorem leads_of_keeps {action : Action Value} (kept : Keeps holds action)
    (spared : ∀ fault session, holds session → stopped fault session) :
    Leads holds action holds stopped := by
  intro session held
  have later := kept session held
  revert later
  rcases action.run session with ⟨fault | value, later⟩
  · exact spared fault later
  · exact id

theorem leads_bind {first : Action Value} {next : Value → Action Other}
    (firstLeads : Leads before first between stopped)
    (nextLeads : ∀ value, Leads between (next value) after stopped) :
    Leads before (first >>= next) after stopped := by
  intro session held
  have middle := firstLeads session held
  rw [run_bind]
  revert middle
  rcases first.run session with ⟨fault | value, later⟩
  · exact id
  · exact nextLeads value later

theorem leads_for_each {Item : Type} {act : Item → Action PUnit} (items : List Item)
    (each : ∀ item ∈ items, Leads holds (act item) holds stopped) :
    Leads holds (items.forM act) holds stopped := by
  induction items with
  | nil => exact fun _ held => held
  | cons item items ih =>
      refine leads_bind (each item List.mem_cons_self) fun _ => ?_
      exact ih fun other inside => each other (List.mem_cons_of_mem _ inside)

theorem leads_of_one {Item : Type} {act : Item → Action PUnit} {items : List Item} {item : Item}
    (inside : item ∈ items) (each : ∀ item ∈ items, Leads holds (act item) holds stopped)
    (keeps : ∀ item ∈ items, Leads after (act item) after stopped)
    (brings : Leads holds (act item) after stopped) :
    Leads holds (items.forM act) after stopped := by
  induction items with
  | nil => exact absurd inside List.not_mem_nil
  | cons other items ih =>
      rcases List.mem_cons.1 inside with rfl | later
      · refine leads_bind brings fun _ => leads_for_each items fun item inside => ?_
        exact keeps item (List.mem_cons_of_mem _ inside)
      · refine leads_bind (each other List.mem_cons_self) fun _ => ih later ?_ ?_
        · exact fun item inside => each item (List.mem_cons_of_mem _ inside)
        · exact fun item inside => keeps item (List.mem_cons_of_mem _ inside)

end Leading

/-- An action that gives a value and leads from one session to another, whatever the log
lines are. -/
def Yields (action : Action Value) (session : Session) (value : Value) (later : Session) :
    Prop :=
  ∀ logs, ∃ others, action.run { session with logs } = (.ok value, { later with logs := others })

section Yielding

variable {session between later : Session} {value : Value} {other : Other}

theorem yields_pure (value : Value) (session : Session) :
    Yields (pure value : Action Value) session value session :=
  fun logs => ⟨logs, rfl⟩

theorem yields_note (severity : Severity) (part text : Text) (session : Session) :
    Yields (note severity part text) session () session :=
  fun _ => ⟨_, rfl⟩

theorem yields_modify {change : Session → Session}
    (blind : ∀ session logs, change { session with logs } = { change session with logs })
    (session : Session) : Yields (modify change) session () (change session) :=
  fun logs => ⟨logs, by rw [run_modify, blind]⟩

theorem yields_bind {first : Action Value} {next : Value → Action Other}
    (firstYields : Yields first session value between)
    (nextYields : Yields (next value) between other later) :
    Yields (first >>= next) session other later := by
  intro logs
  obtain ⟨some, ran⟩ := firstYields logs
  obtain ⟨more, after⟩ := nextYields some
  exact ⟨more, by rw [run_bind_of_ok ran, after]⟩

theorem yields_bind_pure {action : Action Value} (yields : Yields action session value later)
    (other : Other) : Yields (action >>= fun _ => pure other) session other later :=
  yields_bind yields (yields_pure other later)

theorem yields_get_bind {next : Session → Action Other}
    (nextYields : ∀ logs, Yields (next { session with logs }) session other later) :
    Yields ((get : Action Session) >>= next) session other later :=
  fun logs => nextYields logs logs

theorem yields_for_each {Item : Type} {act : Item → Action PUnit}
    {lead : Session → Item → Session}
    (each : ∀ item session, Yields (act item) session () (lead session item))
    (items : List Item) (session : Session) :
    Yields (items.forM act) session () (items.foldl lead session) := by
  induction items generalizing session with
  | nil => exact yields_pure _ session
  | cons item items ih => exact yields_bind (each item session) (ih _)

theorem run_of_yields {action : Action Value} (yields : Yields action session value later) :
    ∃ logs, action.run session = (.ok value, { later with logs }) :=
  yields session.logs

end Yielding

section Elsewhere

theorem elsewhere_unseen (stage : Stage) (editor : Nat) :
    stage.editors[editor]? ≠ some stage.elsewhere := by
  have below (editors : List Nat) : ∀ document ∈ editors, document ≤ editors.foldr max 0 := by
    induction editors with
    | nil => exact fun _ absent => absurd absent List.not_mem_nil
    | cons first editors ih =>
        refine List.forall_mem_cons.2 ⟨Nat.le_max_left _ _, fun document inside => ?_⟩
        exact Nat.le_trans (ih document inside) (Nat.le_max_right _ _)
  intro shown
  exact Nat.not_succ_le_self _ (below stage.editors _ (List.mem_of_getElem? shown))

/-- Nobody looks after a document that no editor shows. -/
theorem document_changed_unseen {document : Nat} {session : Session}
    (unseen : ∀ editor : Nat, session.stage.editors[editor]? ≠ some document) (wiring : Nat) :
    (documentChanged document wiring).run session = (.ok (), session) := by
  unfold documentChanged
  rw [run_get_bind]
  split
  · rw [if_neg (unseen _)]
    rfl
  · rfl

/-- All handlers hear of a change elsewhere, and all of them ignore it. -/
theorem edit_elsewhere_runs (session : Session) :
    (ofOperation .editElsewhere).run session = (.ok .done, session) := by
  have each (wirings : List Nat) :
      (wirings.forM (documentChanged session.stage.elsewhere)).run session = (.ok (), session) := by
    induction wirings with
    | nil => rfl
    | cons wiring wirings ih =>
        exact (run_bind_of_ok (document_changed_unseen (elsewhere_unseen session.stage) wiring)).trans
          ih
  exact run_bind_of_ok (each session.documentCallbacks)

end Elsewhere

end Action

namespace Session

open Dimming.Action

variable {holds : Session → Prop}

/-- What every permitted operation keeps, as long as its outcome is acceptable, holds all
along a run. -/
theorem run_keeps {permitted : Operation → Prop}
    {acceptable : Except Fault Outcome × Session → Prop}
    (advance : ∀ operation session, permitted operation → holds session →
      acceptable (step operation session) → holds (step operation session).2)
    {session : Session} (start : holds session) {operations : List Operation}
    (allPermitted : ∀ operation ∈ operations, permitted operation)
    (allAcceptable : ∀ result ∈ session.run operations, acceptable result) :
    ∀ result ∈ session.run operations, holds result.2 := by
  induction operations generalizing session with
  | nil => exact fun _ absent => absurd absent List.not_mem_nil
  | cons operation operations ih =>
      have next := advance operation session (allPermitted _ List.mem_cons_self) start
        (allAcceptable _ List.mem_cons_self)
      intro result reached
      rcases List.mem_cons.1 reached with rfl | reached
      · exact next
      · exact ih next
          (fun other inside => allPermitted other (List.mem_cons_of_mem _ inside))
          (fun other inside => allAcceptable other (List.mem_cons_of_mem _ inside)) result reached

/-- What every permitted operation ensures of its own result, where it starts from what all of
them keep, holds of every operation of a run. -/
theorem run_ensures {permitted : Operation → Prop}
    {ensured : Operation → Except Fault Outcome × Session → Prop}
    (advance : ∀ operation session, permitted operation → holds session →
      holds (step operation session).2 ∧ ensured operation (step operation session))
    {session : Session} (start : holds session) {operations : List Operation}
    (allPermitted : ∀ operation ∈ operations, permitted operation) :
    ∀ entry ∈ operations.zip (session.run operations), ensured entry.1 entry.2 := by
  induction operations generalizing session with
  | nil => exact fun _ absent => absurd absent List.not_mem_nil
  | cons operation operations ih =>
      obtain ⟨next, own⟩ := advance operation session (allPermitted _ List.mem_cons_self) start
      intro entry reached
      rcases List.mem_cons.1 reached with rfl | reached
      · exact own
      · exact ih next (fun other inside => allPermitted other (List.mem_cons_of_mem _ inside))
          entry reached

theorem step_of_knows {session : Session} {operation : Operation}
    (known : session.knows operation = true) :
    step operation session = (ofOperation operation).run session :=
  if_pos known

theorem step_of_not_knows {session : Session} {operation : Operation}
    (unknown : ¬session.knows operation = true) : step operation session = (.ok .done, session) :=
  if_neg unknown

theorem unknown_of_not_knows {session : Session} {operation : Operation}
    (unknown : ¬session.knows operation = true) :
    ∃ dimmer, operation.dimmer? = some dimmer ∧ session.dimmer? dimmer = none := by
  unfold knows at unknown
  cases concerned : operation.dimmer? with
  | none =>
      rw [concerned] at unknown
      exact absurd rfl unknown
  | some dimmer =>
      rw [concerned] at unknown
      exact ⟨dimmer, rfl, List.getElem?_eq_none (by simpa using unknown)⟩

theorem knows_of_found {session : Session} {operation : Operation} {dimmer : Nat} {entry : Dimmer}
    (concerned : operation.dimmer? = some dimmer) (found : session.dimmer? dimmer = some entry) :
    session.knows operation = true := by
  unfold knows
  rw [concerned]
  exact decide_eq_true (List.getElem?_eq_some_iff.1 found).1

def through (session : Session) (operations : List Operation) : Session :=
  operations.foldl (fun session operation => (step operation session).2) session

end Session

end Dimming
