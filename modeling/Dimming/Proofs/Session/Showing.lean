import Dimming.Proofs.Session.Freshness
import Dimming.Proofs.Session.Handles

/-!
# What is shown

Whoever shows statements in an editor wears a style at that moment, shows them under its handle,
and shows what is found in the document of the editor as the window has it then.
-/

set_option autoImplicit false

namespace Dimming

open Dimming.Action

/-- What the window shows after an operation. Only the user changes it. -/
def Stage.after (stage : Stage) : Operation → Stage
  | .edit editor text language _ =>
      match stage.editors[editor]? with
      | none => stage
      | some document =>
          { stage with
            documents := stage.documents.modify document fun old =>
              ⟨text.getD old.text, language.getD old.language⟩ }
  | .focus editor _ => { stage with active := editor }
  | .setVisible editors => { stage with visible := editors }
  | _ => stage

def Stage.through (stage : Stage) (operations : List Operation) : Stage :=
  operations.foldl Stage.after stage

/-- A history in which everything shown since a certain moment was found on one stage, by dimmers
with a live style. -/
inductive Genuine (stage : Stage) (base : List Happening) : List Happening → Prop where
  | start : Genuine stage base base
  | shown {dimmer editor handle : Nat} {style : Style} {document : Document}
      {earlier : List Happening} (before : Genuine stage base earlier)
      (held : heldBy dimmer earlier = some ⟨handle, style⟩)
      (there : stage.documentOf? editor = some document) :
      Genuine stage base (⟨some dimmer, .decorated editor handle document.statements⟩ :: earlier)
  | other {author : Option Nat} {event : Event} {earlier : List Happening}
      (before : Genuine stage base earlier) (quiet : event.isShowing = false) :
      Genuine stage base (⟨author, event⟩ :: earlier)

namespace Genuine

variable {stage : Stage} {base newer older : List Happening}

theorem suffix {history : List Happening} (genuine : Genuine stage base history) :
    base <:+ history := by
  induction genuine with
  | start => exact List.suffix_rfl
  | shown before held there ih => exact ih.trans (List.suffix_cons _ _)
  | other before quiet ih => exact ih.trans (List.suffix_cons _ _)

theorem of_append (genuine : Genuine stage base (newer ++ older))
    (late : base.length ≤ older.length) : Genuine stage base older := by
  induction newer with
  | nil => exact genuine
  | cons happening newer ih =>
      generalize whole : (happening :: newer) ++ older = history at genuine
      cases genuine with
      | start =>
          rw [← whole, List.length_append, List.length_cons] at late
          omega
      | shown before held there =>
          cases whole
          exact ih before
      | other before quiet =>
          cases whole
          exact ih before

end Genuine

/-- A tidy session on a certain stage, with a history that is genuine since a certain moment. -/
structure Showing (stage : Stage) (base : List Happening) (count : Nat) (session : Session) : Prop
    extends Tidy count session where
  staged : session.stage = stage
  genuine : Genuine stage base session.happenings

namespace Showing

variable {stage : Stage} {base : List Happening} {count dimmer : Nat} {session later : Session}

theorem of_same_wardrobe (showing : Showing stage base count session) (tidy : Tidy count later)
    (same : later.wardrobe = session.wardrobe) : Showing stage base count later where
  toTidy := tidy
  staged := (Session.stage_of_same_wardrobe same).trans showing.staged
  genuine := by
    rw [Session.happenings_of_same_wardrobe same]
    exact showing.genuine

theorem happened (showing : Showing stage base count session) {event : Event}
    (author : Option Nat) (tidy : Tidy count (session.after ⟨author, event⟩))
    (quiet : event.isShowing = false) :
    Showing stage base count (session.after ⟨author, event⟩) where
  toTidy := tidy
  staged := showing.staged
  genuine := .other showing.genuine quiet

theorem decorated (showing : Showing stage base count session) (dimmer editor : Nat) :
    Showing stage base count (session.decorated dimmer editor) := by
  have tidy := showing.toTidy.decorated dimmer editor
  unfold Session.decorated at tidy ⊢
  split at tidy
  next handle document worn there =>
    obtain ⟨entry, found, wearing⟩ := Option.bind_eq_some_iff.1 worn
    obtain ⟨style, -, held⟩ := showing.toTidy.held_of_decoration found wearing
    exact ⟨tidy, showing.staged, .shown showing.genuine held (showing.staged ▸ there)⟩
  next => exact showing

theorem undressed (showing : Showing stage base count session) (dimmer : Nat) :
    Showing stage base count (session.undressed dimmer) := by
  have tidy := showing.toTidy.undressed dimmer
  unfold Session.undressed at tidy ⊢
  split at tidy
  · exact showing
  · exact ⟨tidy, showing.staged, .other showing.genuine rfl⟩

theorem redressed (showing : Showing stage base count session) (known : dimmer < count)
    (style : Style) :
    Showing stage base count ((session.undressed dimmer).dressed dimmer style) where
  toTidy := showing.toTidy.redressed known style
  staged := (showing.undressed dimmer).staged
  genuine := .other (showing.undressed dimmer).genuine rfl

theorem dressing (stage : Stage) (base : List Happening) (known : dimmer < count) :
    Dressing dimmer (Showing stage base count) where
  decorated editor showing := showing.decorated dimmer editor
  recorded _ showing := showing.happened _ (showing.toTidy.happened _ rfl rfl) rfl
  undressed showing := showing.undressed dimmer
  redressed style showing := showing.redressed known style

theorem activated (showing : Showing stage base count session) (known : dimmer < count)
    (style : Style) : Showing stage base count (session.activated dimmer style) :=
  ((dressing stage base known).presented style showing).of_same_wardrobe
    (showing.toTidy.activated known style) (Session.wired_wardrobe dimmer _)

theorem deactivated (showing : Showing stage base count session) (dimmer : Nat) :
    Showing stage base count (session.deactivated dimmer) := by
  have loose := showing.toTidy.of_same_wardrobe (showing.toStaffed.unwired dimmer)
    (Session.unwired_wardrobe dimmer session)
  exact (showing.of_same_wardrobe loose (Session.unwired_wardrobe dimmer session)).undressed dimmer

theorem lasting (stage : Stage) (base : List Happening) (count : Nat) :
    Lasting count (Showing stage base count) :=
  have tidies := Tidy.lasting count
  { logged := fun logs showing => { showing with toTidy := tidies.logged logs showing.toTidy }
    stored := fun disk showing => { showing with toTidy := tidies.stored disk showing.toTidy }
    resettled := fun settings showing =>
      { showing with toTidy := tidies.resettled settings showing.toTidy }
    defined := fun definitions showing =>
      { showing with toTidy := tidies.defined definitions showing.toTidy }
    remarked := by
      intro session event remark showing
      refine showing.happened none (tidies.remarked remark showing.toTidy) ?_
      cases event with
      | decorated => cases remark
      | _ => rfl
    heard := by
      intro session definition showing
      have tidy := tidies.heard definition showing.toTidy
      obtain ⟨more, same, -⟩ := Session.heard_by_eq session (.defined definition)
      rw [same] at tidy ⊢
      exact { showing with toTidy := tidy }
    unheard := fun definition showing =>
      { showing with toTidy := tidies.unheard definition showing.toTidy }
    staffed := fun showing => showing.staffed
    founded := fun showing => showing.founded _ _
    decorated := fun dimmer editor showing => showing.decorated dimmer editor
    rebuilt := fun known _ showing => (dressing stage base known).rebuilt _ showing
    activated := fun found _ _ showing => showing.activated (showing.toStaffed.known found) _
    deactivated := fun _ showing => showing.deactivated _
    undressed := fun dimmer showing => showing.undressed dimmer }

theorem of_tidy (tidy : Tidy count session) (stage : Stage) :
    Showing stage session.happenings count { session with stage } :=
  ⟨tidy.restaged stage, rfl, .start⟩

theorem after_edit (tidy : Tidy count session) (editor : Nat) (text language : Option Text)
    (announced : Bool) :
    Showing (session.stage.after (.edit editor text language announced)) session.happenings count
      ((edit editor text language announced).run session).2 := by
  unfold edit Stage.after
  rw [run_get_bind]
  dsimp only
  cases session.stage.editors[editor]? with
  | none => exact of_tidy tidy session.stage
  | some document =>
      rw [run_bind_of_ok (run_modify _ _)]
      have restaged := of_tidy tidy { session.stage with
        documents := session.stage.documents.modify document fun old =>
          ⟨text.getD old.text, language.getD old.language⟩ }
      cases announced with
      | false => exact restaged
      | true => exact (lasting _ _ _).steady.keeps_announce_document document _ restaged

theorem after_focus (tidy : Tidy count session) (editor : Option Nat) (announced : Bool) :
    Showing (session.stage.after (.focus editor announced)) session.happenings count
      ((focus editor announced).run session).2 := by
  unfold focus
  rw [run_bind_of_ok (run_modify _ _)]
  have restaged := of_tidy tidy { session.stage with active := editor }
  cases announced with
  | false => exact restaged
  | true => exact (lasting _ _ _).steady.keeps_announce_active editor _ restaged

/-- What an operation adds to the history is genuine on the stage that it leads to: the window
changes before its listeners are told. -/
theorem step (tidy : Tidy count session) (operation : Operation) :
    ∃ count', Showing (session.stage.after operation) session.happenings count'
      (Session.step operation session).2 := by
  cases operation with
  | newDimmer => exact ⟨count + 1, tidy.joined, rfl, .start⟩
  | edit editor text language announced =>
      refine ⟨count, ?_⟩
      rw [Session.step_of_staging rfl, ofOperation, run_bind_pure]
      exact after_edit tidy editor text language announced
  | focus editor announced =>
      refine ⟨count, ?_⟩
      rw [Session.step_of_staging rfl, ofOperation, run_bind_pure]
      exact after_focus tidy editor announced
  | setVisible editors => exact ⟨count, of_tidy tidy { session.stage with visible := editors }⟩
  | _ =>
      have showing := of_tidy tidy session.stage
      exact ⟨count, (lasting _ _ count).keeps_indoors
        (fun style known held => held.redressed known style)
        (fun dimmer after _ held => held.of_same_wardrobe (held.toTidy.resolved dimmer after)
          (Session.resolved_wardrobe dimmer _ after))
        (fun wiring held => held.of_same_wardrobe (held.toTidy.unsubscribed wiring)
          (Session.unsubscribed_wardrobe wiring _))
        (by simp) rfl session showing⟩

end Showing

/-- What stands behind statements that are shown: the dimmer wears the style, which it registered
before and has not disposed of, and the ranges are what is found in the document of the editor. -/
structure ShownLive (stage : Stage) (older : List Happening) (dimmer editor handle : Nat)
    (ranges : List DisplayRange) : Prop where
  worn : ∃ style, heldBy dimmer older = some ⟨handle, style⟩ ∧
    ⟨some dimmer, .created handle style⟩ ∈ older
  kept : handle ∉ disposedHandles older
  found : ∃ document, stage.documentOf? editor = some document ∧ ranges = document.statements

section Runs

variable {count : Nat} {session : Session} {newer older : List Happening} {author : Option Nat}
variable {editor handle : Nat} {ranges : List DisplayRange}

theorem Genuine.shown_live {stage : Stage} {base : List Happening}
    (genuine : Genuine stage base (newer ++ ⟨author, .decorated editor handle ranges⟩ :: older))
    (orderly : Orderly older) (late : base.length ≤ older.length) :
    base <:+ older ∧ ∃ dimmer, author = some dimmer ∧
      ShownLive stage older dimmer editor handle ranges := by
  have last := genuine.of_append (Nat.le_succ_of_le late)
  generalize whole :
    (⟨author, .decorated editor handle ranges⟩ : Happening) :: older = history at last
  cases last with
  | start =>
      rw [← whole, List.length_cons] at late
      omega
  | shown before held there =>
      cases whole
      exact ⟨before.suffix, _, rfl, ⟨_, held, orderly.created_of_held held⟩,
        orderly.not_disposed_of_held held, _, there, rfl⟩
  | other before quiet =>
      cases whole
      cases quiet

theorem Tidy.through (tidy : Tidy count session) (operations : List Operation) :
    (∃ count', Tidy count' (session.through operations)) ∧
      (session.through operations).stage = session.stage.through operations ∧
      session.happenings <:+ (session.through operations).happenings := by
  induction operations generalizing count session with
  | nil => exact ⟨⟨count, tidy⟩, rfl, List.suffix_rfl⟩
  | cons operation operations ih =>
      obtain ⟨count', showing⟩ := Showing.step tidy operation
      obtain ⟨later, staged, grown⟩ := ih showing.toTidy
      refine ⟨later, staged.trans ?_, showing.genuine.suffix.trans grown⟩
      rw [showing.staged]
      rfl

theorem Tidy.shown_along (tidy : Tidy count session) (operations : List Operation)
    (split : (session.through operations).happenings =
      newer ++ ⟨author, .decorated editor handle ranges⟩ :: older)
    (late : session.happenings.length ≤ older.length) :
    ∃ before operation behind dimmer, operations = before ++ operation :: behind ∧
      author = some dimmer ∧ (session.through before).happenings <:+ older ∧
      ⟨author, .decorated editor handle ranges⟩ :: older <:+
        (session.through (before ++ [operation])).happenings ∧
      ShownLive (session.stage.through (before ++ [operation])) older dimmer editor handle
        ranges := by
  induction operations generalizing count session with
  | nil =>
      have lengths := congrArg List.length split
      simp [Session.through] at lengths
      omega
  | cons operation operations ih =>
      obtain ⟨count', showing⟩ := Showing.step tidy operation
      let next := (Session.step operation session).2
      by_cases later : next.happenings.length ≤ older.length
      · obtain ⟨before, last, behind, dimmer, rfl, own, since, upTo, live⟩ :=
          ih showing.toTidy split later
        rw [showing.staged] at live
        exact ⟨operation :: before, last, behind, dimmer, rfl, own, since, upTo, live⟩
      · have grown := (showing.toTidy.through operations).2.2
        have upTo : ⟨author, .decorated editor handle ranges⟩ :: older <:+ next.happenings := by
          refine List.suffix_of_suffix_length_le ?_ grown (Nat.lt_of_not_le later)
          exact ⟨newer, split.symm⟩
        obtain ⟨middle, same⟩ := upTo
        have genuine := showing.genuine
        have orderly := showing.orderly
        rw [← same] at genuine orderly
        have before : Orderly older := Orderly.of_append (List.singleton_append ▸ orderly.of_append)
        obtain ⟨since, dimmer, own, live⟩ := genuine.shown_live before late
        exact ⟨[], operation, operations, dimmer, rfl, own, since, ⟨middle, same⟩, live⟩

end Runs

/-- Whatever is done to a session, everything it shows is shown by a dimmer in the style that it
wears at that moment, and is what is found in the document of the editor on the stage that the
operations have led to by then. A dimmer that wears nothing shows nothing. -/
theorem only_live_styles_shown (disk : Disk) (stage : Stage) (operations : List Operation) :
    let start := Session.start disk stage
    let session := start.through operations
    session.stage = stage.through operations ∧
      (∀ dimmer, heldBy dimmer session.happenings = session.live? dimmer) ∧
      ∀ newer older author editor handle ranges,
        session.happenings = newer ++ ⟨author, .decorated editor handle ranges⟩ :: older →
        (∀ idle, heldBy idle older = none → author ≠ some idle) ∧
        ∃ before operation behind dimmer, operations = before ++ operation :: behind ∧
          author = some dimmer ∧ (start.through before).happenings <:+ older ∧
          ⟨author, .decorated editor handle ranges⟩ :: older <:+
            (start.through (before ++ [operation])).happenings ∧
          ShownLive (stage.through (before ++ [operation])) older dimmer editor handle ranges := by
  intro start session
  have tidy := Tidy.start disk stage
  obtain ⟨⟨count, later⟩, staged, -⟩ := tidy.through operations
  refine ⟨staged, later.worn, fun newer older author editor handle ranges split => ?_⟩
  obtain ⟨before, operation, behind, dimmer, same, own, since, upTo, live⟩ :=
    tidy.shown_along operations split (Nat.zero_le _)
  refine ⟨fun idle bare named => ?_, before, operation, behind, dimmer, same, own, since, upTo, live⟩
  obtain ⟨style, worn, -⟩ := live.worn
  cases own.symm.trans named
  rw [bare] at worn
  cases worn

/-- Edited while it is active, an editor is shown what it has got, in the first style that was
registered. -/
theorem live_style_shown_when_edited :
    let stage : Stage := ⟨[⟨[], "plaintext"⟩], [0], some 0, [0]⟩
    let operations : List Operation := [.activate 0, .edit 0 (some "log.info(1)") none true]
    let session := (Session.start .absent stage).through operations
    let ranges := Document.statements ⟨"log.info(1)", "plaintext"⟩
    session.happenings = ⟨some 0, .decorated 0 1 ranges⟩ :: session.happenings.tail ∧
      ∃ before operation behind dimmer, operations = before ++ operation :: behind ∧
        ShownLive (stage.through (before ++ [operation])) session.happenings.tail dimmer 0 1
          ranges := by
  intro stage operations session ranges
  have shown : session.happenings = ⟨some 0, .decorated 0 1 ranges⟩ :: session.happenings.tail := by
    decide +kernel
  obtain ⟨-, -, facts⟩ := only_live_styles_shown .absent stage operations
  obtain ⟨-, before, operation, behind, dimmer, same, -, -, -, live⟩ := facts [] _ _ _ _ _ shown
  exact ⟨shown, before, operation, behind, dimmer, same, live⟩

end Dimming
