import Dimming.Proofs.Session.Frame
import Dimming.Proofs.Window.Effect
import Mathlib.Data.List.InsertIdx
import Mathlib.Logic.Relation

/-!
# Tabs, editors and the active one

Which texts are open is kept in three places: the row of tabs, the mapping from their widgets to
editors, and the panes that the surface tracks. Whatever an operation does, the ledger of a window
moves in three ways only: a text is opened, an editor is selected, a tab is closed. Each of them
keeps the three places in agreement, and the active editor among those of the open tabs; and what
has been closed stays closed. What the row of tabs announces by itself meanwhile selects editors and
does nothing else.
-/

set_option autoImplicit false

namespace Dimming

namespace Window

namespace Ledger

def opened (ledger : Ledger) (tab : Tab) (sheet : Sheet) : Ledger :=
  { tabs := ledger.tabs ++ [tab]
    editorOf := ledger.editorOf.put tab.widget tab.widget
    sheets := ledger.sheets ++ [sheet]
    tracked :=
      if tab.widget ∈ ledger.tracked then ledger.tracked else ledger.tracked ++ [tab.widget]
    active := ledger.active
    panes := ledger.panes + 1 }

/-- The editor of a tab becomes the active one; none does if the tab is none, or has none. -/
def selected (ledger : Ledger) (tab : Option Tab) : Ledger :=
  { ledger with active := tab.bind fun tab => ledger.editorOf.get? tab.widget }

def heard (ledger : Ledger) (shown : List (Option Tab)) : Ledger := shown.foldl selected ledger

def removed (ledger : Ledger) (index : Nat) (tab : Tab) : Ledger :=
  { ledger with
    tabs := ledger.tabs.eraseIdx index
    editorOf := ledger.editorOf.without tab.widget
    sheets := ledger.sheets.modify tab.widget fun sheet => { sheet with deleted := true } }

def untracked (ledger : Ledger) (editor : Nat) : Ledger :=
  { ledger with
    tracked := ledger.tracked.erase editor
    active :=
      if editor ∈ ledger.tracked ∧ ledger.active = some editor then none else ledger.active }

def closed (ledger : Ledger) (index : Nat) (tab : Tab) : Ledger :=
  match ledger.editorOf.get? tab.widget with
  | none => ledger.removed index tab
  | some editor => (ledger.removed index tab).untracked editor

/-- The ways in which a ledger moves. -/
inductive Step (ledger : Ledger) : Ledger → Prop where
  | opened {tab : Tab} {sheet : Sheet} (numbered : tab.widget = ledger.panes)
      (present : sheet.deleted = false) : Step ledger (ledger.opened tab sheet)
  | selected {tab : Option Tab} (listed : ∀ shown, tab = some shown → shown ∈ ledger.tabs) :
      Step ledger (ledger.selected tab)
  | closed {index : Nat} {tab : Tab} (found : ledger.tabs[index]? = some tab) :
      Step ledger (ledger.closed index tab)

def Leads : Ledger → Ledger → Prop := Relation.ReflTransGen Step

/-- The tabs, the editors and the active editor of a window agree. Tabs stand in the order in which
they were opened, since texts are numbered in that order; a text is tracked unless its widget has
been deleted. -/
structure IsConsistent (ledger : Ledger) : Prop where
  tracked : ledger.tracked = ledger.tabs.map (·.widget)
  editors : ledger.editorOf = ledger.tabs.map fun tab => (tab.widget, tab.widget)
  ordered : (ledger.tabs.map (·.widget)).Pairwise (· < ·)
  sheets : ledger.sheets.length = ledger.panes
  present : ∀ number, number ∈ ledger.tracked ↔
    ∃ sheet, ledger.sheets[number]? = some sheet ∧ sheet.deleted = false
  active : ∀ editor, ledger.active = some editor → editor ∈ ledger.tracked

/-- The widget of a text has been deleted. -/
def IsGone (ledger : Ledger) (number : Nat) : Prop :=
  ∃ sheet, ledger.sheets[number]? = some sheet ∧ sheet.deleted = true

section Agreement

variable {ledger later : Ledger} {index number : Nat} {tab : Tab} {sheet : Sheet}
variable {shown : List (Option Tab)}

theorem IsConsistent.nodup (consistent : ledger.IsConsistent) : ledger.tracked.Nodup := by
  rw [consistent.tracked]
  exact consistent.ordered.imp Nat.ne_of_lt

theorem IsConsistent.numbered (consistent : ledger.IsConsistent) (tracked : number ∈ ledger.tracked) :
    number < ledger.panes := by
  obtain ⟨sheet, found, -⟩ := (consistent.present number).1 tracked
  rw [← consistent.sheets]
  exact (List.getElem?_eq_some_iff.1 found).1

theorem IsConsistent.tracks (consistent : ledger.IsConsistent) (listed : tab ∈ ledger.tabs) :
    tab.widget ∈ ledger.tracked := by
  rw [consistent.tracked]
  exact List.mem_map_of_mem listed

theorem pairs_of_widgets (tabs : List Tab) :
    ((tabs.map (·.widget)).map fun number => (number, number)) =
      tabs.map fun tab => (tab.widget, tab.widget) :=
  List.map_map

theorem IsConsistent.editors_of_tracked (consistent : ledger.IsConsistent) :
    ledger.editorOf = ledger.tracked.map fun number => (number, number) := by
  rw [consistent.editors, consistent.tracked, pairs_of_widgets]

theorem IsConsistent.editor_of (consistent : ledger.IsConsistent) {editor : Nat} :
    ledger.editorOf.get? number = some editor ↔ editor = number ∧ number ∈ ledger.tracked := by
  have keys : ledger.editorOf.map Prod.fst = ledger.tracked := by
    rw [consistent.editors_of_tracked, List.map_map]
    exact List.map_id _
  have distinct : (ledger.editorOf.map Prod.fst).Nodup := keys ▸ consistent.nodup
  rw [Mapping.get_eq_some_iff distinct, consistent.editors_of_tracked, List.mem_map]
  constructor
  · rintro ⟨other, tracked, same⟩
    cases same
    exact ⟨rfl, tracked⟩
  · rintro ⟨rfl, tracked⟩
    exact ⟨editor, tracked, rfl⟩

theorem IsConsistent.opened (consistent : ledger.IsConsistent) (numbered : tab.widget = ledger.panes)
    (present : sheet.deleted = false) : (ledger.opened tab sheet).IsConsistent := by
  have before : ∀ number ∈ ledger.tracked, number < tab.widget := by
    rw [numbered]
    exact fun number tracked => consistent.numbered tracked
  have fresh : tab.widget ∉ ledger.tracked := fun tracked => Nat.lt_irrefl _ (before _ tracked)
  have keys : tab.widget ∉ ledger.editorOf.map Prod.fst := by
    rw [consistent.editors_of_tracked, List.map_map]
    simpa using fresh
  have tracked : (ledger.opened tab sheet).tracked = ledger.tracked ++ [tab.widget] := if_neg fresh
  have widgets : (ledger.opened tab sheet).tabs.map (·.widget) = ledger.tracked ++ [tab.widget] := by
    rw [consistent.tracked]
    exact List.map_append
  refine ⟨tracked.trans widgets.symm, ?_, ?_, ?_, ?_, ?_⟩
  · change ledger.editorOf.put tab.widget tab.widget = _
    rw [Mapping.put_of_fresh keys, ← pairs_of_widgets, widgets, consistent.editors_of_tracked,
      List.map_append]
    rfl
  · rw [widgets, List.pairwise_append]
    refine ⟨consistent.tracked ▸ consistent.ordered, List.pairwise_singleton _ _, ?_⟩
    intro number among last itself
    rw [List.mem_singleton.1 itself]
    exact before number among
  · change (ledger.sheets ++ [sheet]).length = ledger.panes + 1
    rw [List.length_append, consistent.sheets]
    rfl
  · intro number
    rw [tracked, List.mem_append, List.mem_singleton, consistent.present, numbered,
      ← consistent.sheets]
    change _ ↔ ∃ other, (ledger.sheets ++ [sheet])[number]? = some other ∧ other.deleted = false
    rcases Nat.lt_trichotomy number ledger.sheets.length with earlier | rfl | later
    · rw [List.getElem?_append_left earlier, or_iff_left (Nat.ne_of_lt earlier)]
    · simp [present]
    · have none : (ledger.sheets ++ [sheet])[number]? = none := by
        rw [List.getElem?_eq_none_iff, List.length_append, List.length_singleton]
        exact later
      simp [none, Nat.ne_of_gt later, List.getElem?_eq_none (Nat.le_of_lt later)]
  · intro editor active
    rw [tracked]
    exact List.mem_append_left _ (consistent.active editor active)

theorem IsConsistent.selected (consistent : ledger.IsConsistent) (tab : Option Tab) :
    (ledger.selected tab).IsConsistent where
  tracked := consistent.tracked
  editors := consistent.editors
  ordered := consistent.ordered
  sheets := consistent.sheets
  present := consistent.present
  active editor active := by
    obtain ⟨tab, -, leads⟩ := Option.bind_eq_some_iff.1 active
    obtain ⟨rfl, tracked⟩ := consistent.editor_of.1 leads
    exact tracked

theorem IsConsistent.closed_eq (consistent : ledger.IsConsistent)
    (found : ledger.tabs[index]? = some tab) :
    ledger.closed index tab = (ledger.removed index tab).untracked tab.widget := by
  have tracked := consistent.tracks (List.mem_of_getElem? found)
  have leads := consistent.editor_of.2 ⟨rfl, tracked⟩
  unfold Ledger.closed
  rw [leads]

theorem closed_sheet (ledger : Ledger) (index : Nat) (tab : Tab) (number : Nat) :
    (ledger.closed index tab).sheets[number]? = ledger.sheets[number]?.map fun sheet =>
      if tab.widget = number then { sheet with deleted := true } else sheet := by
  have same : (ledger.closed index tab).sheets =
      ledger.sheets.modify tab.widget fun sheet => { sheet with deleted := true } := by
    unfold Ledger.closed
    split <;> rfl
  rw [same, List.getElem?_modify]
  rfl

theorem IsConsistent.closed (consistent : ledger.IsConsistent)
    (found : ledger.tabs[index]? = some tab) : (ledger.closed index tab).IsConsistent := by
  have erased : ledger.tracked.erase tab.widget = (ledger.tabs.eraseIdx index).map (·.widget) := by
    have widget : ledger.tracked[index]? = some tab.widget := by
      rw [consistent.tracked, List.getElem?_map, found]
      rfl
    obtain ⟨inside, same⟩ := List.getElem?_eq_some_iff.1 widget
    rw [← List.eraseIdx_map, ← consistent.tracked, ← same]
    exact consistent.nodup.erase_getElem index inside
  have left : ∀ number, number ∈ ledger.tracked.erase tab.widget ↔
      number ≠ tab.widget ∧ number ∈ ledger.tracked := fun _ => consistent.nodup.mem_erase_iff
  have sheet := ledger.closed_sheet index tab
  rw [consistent.closed_eq found] at sheet ⊢
  refine ⟨erased, ?_, ?_, ?_, ?_, ?_⟩
  · change ledger.editorOf.without tab.widget = (ledger.tabs.eraseIdx index).map _
    rw [← pairs_of_widgets, ← erased, consistent.nodup.erase_eq_filter, Mapping.without,
      consistent.editors_of_tracked, List.filter_map]
    congr 1
    apply List.filter_congr
    exact fun number _ => Bool.eq_iff_iff.2 (by simp)
  · change ((ledger.tabs.eraseIdx index).map (·.widget)).Pairwise (· < ·)
    rw [← erased, consistent.tracked]
    exact consistent.ordered.sublist List.erase_sublist
  · exact (List.length_modify _ _ _).trans consistent.sheets
  · intro number
    change number ∈ ledger.tracked.erase tab.widget ↔ _
    rw [left, consistent.present, sheet]
    by_cases itself : tab.widget = number
    · simp [itself]
    · simp [itself, Ne.symm itself]
  · intro editor active
    change editor ∈ ledger.tracked.erase tab.widget
    change (if _ then none else ledger.active) = some editor at active
    have tracked := consistent.tracks (List.mem_of_getElem? found)
    split at active
    next => cases active
    next other =>
        rw [left]
        refine ⟨?_, consistent.active editor active⟩
        rintro rfl
        exact other ⟨tracked, active⟩

/-- The last announcement is the one that counts. -/
theorem selected_heard (ledger : Ledger) (shown : List (Option Tab)) (last : Option Tab) :
    (ledger.heard shown).selected last = ledger.selected last := by
  induction shown generalizing ledger with
  | nil => rfl
  | cons tab shown ih =>
      change ((ledger.selected tab).heard shown).selected last = _
      rw [ih]
      rfl

/-- A row of tabs announces its new current tab while another one is being taken out of it. It makes
no difference that the editor of the closed tab is still tracked then. -/
theorem IsConsistent.selected_while_closing (consistent : ledger.IsConsistent)
    (found : ledger.tabs[index]? = some tab) (shown : Option Tab) :
    ((ledger.removed index tab).selected shown).untracked tab.widget =
      (ledger.closed index tab).selected shown := by
  have apart : ((ledger.removed index tab).selected shown).active ≠ some tab.widget := by
    intro active
    obtain ⟨other, -, leads⟩ := Option.bind_eq_some_iff.1 active
    change (ledger.editorOf.without tab.widget).get? other.widget = some tab.widget at leads
    by_cases same : tab.widget = other.widget
    · rw [← same, Mapping.get_without_self] at leads
      cases leads
    · rw [Mapping.get_without_of_ne same] at leads
      exact same (consistent.editor_of.1 leads).1
  rw [consistent.closed_eq found]
  unfold untracked
  rw [if_neg fun both => apart both.2]
  rfl

theorem IsConsistent.heard_while_closing (consistent : ledger.IsConsistent)
    (found : ledger.tabs[index]? = some tab) (shown : List (Option Tab)) :
    ((ledger.removed index tab).heard shown).untracked tab.widget =
      (ledger.closed index tab).heard shown := by
  rcases shown.eq_nil_or_concat' with rfl | ⟨earlier, last, rfl⟩
  · exact (consistent.closed_eq found).symm
  · have split (ledger : Ledger) :
        ledger.heard (earlier ++ [last]) = (ledger.heard earlier).selected last := by
      unfold heard
      rw [List.foldl_append]
      rfl
    rw [split, split, selected_heard, selected_heard]
    exact consistent.selected_while_closing found last

theorem heard_leads (listed : ∀ tab ∈ shown, ∀ among, tab = some among → among ∈ ledger.tabs) :
    Leads ledger (ledger.heard shown) := by
  induction shown generalizing ledger with
  | nil => exact .refl
  | cons tab shown ih =>
      rw [List.forall_mem_cons] at listed
      exact .head (.selected listed.1) (ih listed.2)

theorem IsConsistent.step (consistent : ledger.IsConsistent) (step : Step ledger later) :
    later.IsConsistent := by
  cases step with
  | opened numbered present => exact consistent.opened numbered present
  | selected => exact consistent.selected _
  | closed found => exact consistent.closed found

theorem IsConsistent.leads (consistent : ledger.IsConsistent) (leads : Leads ledger later) :
    later.IsConsistent := by
  induction leads with
  | refl => exact consistent
  | tail _ step ih => exact ih.step step

/-- No way brings back a widget that has been deleted. -/
theorem IsGone.step (gone : ledger.IsGone number) (step : Step ledger later) :
    later.IsGone number := by
  obtain ⟨sheet, found, deleted⟩ := gone
  cases step with
  | @opened _ added =>
      have inside := (List.getElem?_eq_some_iff.1 found).1
      have kept : (ledger.sheets ++ [added])[number]? = some sheet := by
        rw [List.getElem?_append_left inside, found]
      exact ⟨sheet, kept, deleted⟩
  | selected => exact ⟨sheet, found, deleted⟩
  | @closed index tab =>
      have marked := ledger.closed_sheet index tab number
      rw [found] at marked
      refine ⟨_, marked, ?_⟩
      dsimp only
      split
      · rfl
      · exact deleted

theorem IsGone.leads (gone : ledger.IsGone number) (leads : Leads ledger later) :
    later.IsGone number := by
  induction leads with
  | refl => exact gone
  | tail _ step ih => exact ih.step step

theorem IsConsistent.gone_of_closed (consistent : ledger.IsConsistent)
    (found : ledger.tabs[index]? = some tab) : (ledger.closed index tab).IsGone tab.widget := by
  have tracked := consistent.tracks (List.mem_of_getElem? found)
  obtain ⟨sheet, there, -⟩ := (consistent.present tab.widget).1 tracked
  have marked := ledger.closed_sheet index tab tab.widget
  rw [there] at marked
  exact ⟨_, marked, by simp⟩

theorem IsConsistent.not_tracked_of_gone (consistent : ledger.IsConsistent)
    (gone : ledger.IsGone number) : number ∉ ledger.tracked := by
  intro tracked
  obtain ⟨sheet, found, deleted⟩ := gone
  obtain ⟨same, there, present⟩ := (consistent.present number).1 tracked
  rw [found] at there
  cases there
  rw [deleted] at present
  cases present

end Agreement

end Ledger

variable {window later : Window}

section Moves

open Ledger

theorem tab_at_eq_some {index : Int} {tab : Tab} (found : window.tabAt? index = some tab) :
    window.tabs[index.toNat]? = some tab := by
  unfold tabAt? at found
  split at found
  · exact found
  · cases found

theorem selected_ledger (window : Window) (index : Int) :
    (window.selected index).ledger = window.ledger.selected (window.tabAt? index) := by
  unfold selected
  rw [moved_ledger]
  exact ledger_of_outline (Surface.set_active_outline window.surface _)

theorem tab_at_of_same_tabs {other : Window} (same : other.tabs = window.tabs) (index : Int) :
    other.tabAt? index = window.tabAt? index := by
  unfold tabAt?
  rw [same]

/-- What a row announces moves the ledger as if its tabs were selected. -/
theorem heard_ledger (window : Window) (indices : List Int) :
    (window.heard indices).ledger = window.ledger.heard (indices.map window.tabAt?) := by
  induction indices generalizing window with
  | nil => rfl
  | cons index indices ih =>
      have tabs : (window.selected index).tabs = window.tabs :=
        congrArg Ledger.tabs (window.selected_ledger index)
      have same : (window.selected index).tabAt? = window.tabAt? :=
        funext (tab_at_of_same_tabs tabs)
      change ((window.selected index).heard indices).ledger = _
      rw [ih, same, selected_ledger]
      rfl

theorem tabs_listed (window : Window) (indices : List Int) :
    ∀ tab ∈ indices.map window.tabAt?, ∀ among, tab = some among → among ∈ window.tabs := by
  intro tab inside among found
  obtain ⟨index, -, rfl⟩ := List.mem_map.1 inside
  exact List.mem_of_getElem? (tab_at_eq_some found)

theorem heard_leads (window : Window) (indices : List Int) :
    Leads window.ledger (window.heard indices).ledger := by
  rw [heard_ledger]
  exact Ledger.heard_leads (window.tabs_listed indices)

theorem shown_leads (window : Window) : Leads window.ledger window.showLast.ledger :=
  window.heard_leads (window.row.whenOpened window.tabs.length window.current)

theorem tab_ledger (window : Window) (text language title : Text) (size : Int) :
    let number := window.surface.panes.length
    (window.withTab text language title size).ledger =
      window.ledger.opened ⟨number, tabText title, title ++ " (" ++ language ++ ")"⟩
        ⟨title, size, false⟩ := by
  intro number
  let pane := Pane.ofLines (Text.split '\n' text) language false
  have outline := Surface.track_outline
    { window.surface with panes := window.surface.panes ++ [pane] } number
  rw [List.length_append] at outline
  exact ledger_of_outline outline

theorem open_text_cases (window : Window) (text language title : Text) :
    (∃ fault, window.openText text language title = .error fault) ∨
      ∃ number later tab sheet, window.openText text language title = .ok (number, later) ∧
        tab.widget = window.ledger.panes ∧ sheet.deleted = false ∧
        Leads (window.ledger.opened tab sheet) later.ledger := by
  -- The definition is opened before it is applied. Afterwards checking the proof would begin with
  -- computing the size of a font that is not known.
  obtain ⟨opening, same⟩ : ∃ opening, opening = openText := ⟨_, rfl⟩
  rw [← same]
  delta openText at same
  subst same
  beta_reduce
  generalize FontSize.scaled window.system window.configuration.fontSize = scaled
  cases scaled with
  | error fault => exact Or.inl ⟨_, rfl⟩
  | ok size =>
      let number := window.surface.panes.length
      refine Or.inr ⟨number, _, ⟨number, tabText title, title ++ " (" ++ language ++ ")"⟩,
        ⟨title, size, false⟩, rfl, rfl, rfl, ?_⟩
      rw [← window.tab_ledger text language title size]
      let label : Text := if title.isEmpty then "untitled" else title
      let tracked := ((window.withTab text language title size).note .debug "fonts"
        ("Editor font:  " ++ Text.ofInt size ++ "pt")).note .debug "qt_host"
        ("Tracking editor for " ++ label)
      exact tracked.shown_leads

theorem text_leads (window : Window) (text language title : Text) :
    Leads window.ledger (window.withText text language title).ledger := by
  unfold withText
  rcases window.open_text_cases text language title with
    ⟨fault, failed⟩ | ⟨number, later, tab, sheet, opened, numbered, present, led⟩
  · rw [failed]
    exact .refl
  · rw [opened]
    change Leads window.ledger later.ledger
    exact .head (.opened numbered present) led

theorem file_leads (window : Window) (path : FilePath) :
    Leads window.ledger (window.withFile path).ledger := by
  unfold withFile openFile
  cases path.fault? with
  | some fault => exact .refl
  | none =>
      dsimp only
      cases window.folder.readText path with
      | error fault => exact .refl
      | ok text =>
          have opened := window.text_leads text (Language.ofPath path) path.toText
          unfold withText at opened
          dsimp only
          cases found : window.openText text (Language.ofPath path) path.toText with
          | error fault => exact .refl
          | ok result =>
              rw [found] at opened
              exact opened

theorem files_lead (window : Window) (paths : List FilePath) :
    Leads window.ledger (window.withFiles paths).ledger := by
  apply up_to_fault_keeps fun later : Window => Leads window.ledger later.ledger
  · intro state path later ok led
    have next := state.file_leads path
    unfold withFile at next
    rw [ok] at next
    exact led.trans next
  · exact fun _ led => led
  · exact .refl

theorem selected_leads (window : Window) (index : Int) :
    Leads window.ledger (window.selected index).ledger :=
  window.heard_leads [index]

/-- A tab is closed. What the row announces meanwhile moves the ledger as if it came after that. -/
theorem closing_leads (consistent : window.ledger.IsConsistent) {index : Int} {tab : Tab}
    (found : window.tabAt? index = some tab) :
    Leads (window.ledger.closed index.toNat tab) (window.closed index).ledger := by
  let taken := window.withoutTab index tab
  let indices := taken.row.whenClosed taken.tabs.length index window.current
  have there := tab_at_eq_some found
  have leads : window.editorOf.get? tab.widget = some tab.widget :=
    consistent.editor_of.2 ⟨rfl, consistent.tracks (List.mem_of_getElem? there)⟩
  have heard : (taken.heard indices).ledger =
      (window.ledger.removed index.toNat tab).heard (indices.map taken.tabAt?) :=
    taken.heard_ledger indices
  have closed : (window.closed index).ledger =
      (window.ledger.closed index.toNat tab).heard (indices.map taken.tabAt?) := by
    rw [← consistent.heard_while_closing there, ← heard]
    unfold closed
    rw [found]
    dsimp only
    rw [leads]
    dsimp only
    rw [moved_ledger]
    exact ledger_of_outline (Surface.untrack_outline (taken.heard indices).surface tab.widget)
  have tabs : (window.ledger.closed index.toNat tab).tabs = taken.tabs := by
    rw [consistent.closed_eq there]
    rfl
  rw [closed]
  exact Ledger.heard_leads (tabs ▸ taken.tabs_listed indices)

theorem closed_leads (consistent : window.ledger.IsConsistent) (index : Int) :
    Leads window.ledger (window.closed index).ledger := by
  cases found : window.tabAt? index with
  | none =>
      unfold closed
      rw [found]
      exact .refl
  | some tab => exact .head (.closed (tab_at_eq_some found)) (closing_leads consistent found)

theorem triggered_leads (consistent : window.ledger.IsConsistent) (dialogs : List Dialog)
    (paths : List Text) (action : MenuAction) :
    Leads window.ledger (window.triggered dialogs paths action).ledger := by
  cases action with
  | openFiles =>
      exact (window.place (.chooseFiles "Open Source Files")).files_lead _
  | closeTab => exact closed_leads consistent window.current
  | quit => exact .refl
  | changeOpacity | changeColor | toggle =>
      unfold triggered
      rw [acted_ledger]
      exact .refl

theorem after_leads (consistent : window.ledger.IsConsistent) (operation : WindowOperation) :
    Leads window.ledger (window.after operation).ledger := by
  have still {later : Window} (same : later.ledger = window.ledger) :
      Leads window.ledger later.ledger := same ▸ .refl
  cases operation with
  | openFile path => exact window.file_leads _
  | openText text language title => exact window.text_leads text language title
  | selectTab index => exact window.selected_leads index
  | closeTab index => exact closed_leads consistent index
  | trigger action dialogs paths => exact triggered_leads consistent dialogs paths action
  | setVisible pane visible =>
      exact still (ledger_of_same_outline (Surface.modified_outline window.surface pane _))
  | edit pane lines =>
      apply still
      unfold after
      rw [moved_ledger]
      exact ledger_of_same_outline (Surface.modified_outline window.surface pane _)
  | finish => exact still window.finished_ledger

theorem through_leads (consistent : window.ledger.IsConsistent)
    (operations : List WindowOperation) :
    Leads window.ledger (window.through operations).ledger := by
  induction operations generalizing window with
  | nil => exact .refl
  | cons operation operations ih =>
      have led := after_leads consistent operation
      exact led.trans (ih (consistent.leads led))

end Moves

section Start

theorem activated_happenings (disk : Disk) (style : Style) :
    let session := Session.start disk (stageOf (Surface.ofPanes []))
    (session.activated dimmer style).happenings =
      if session.settings.enabled then [⟨some dimmer, .created 1 style⟩] else [] := by
  intro session
  have presented : (session.presented dimmer style).happenings =
      if session.settings.enabled then [⟨some dimmer, .created 1 style⟩] else [] := by
    unfold Session.presented
    split <;> rfl
  rw [← presented]
  exact Session.happenings_of_same_wardrobe (Session.wired_wardrobe dimmer _)

theorem start_yields (system : Text) (configuration : Configuration) (disk : Disk)
    (folder : Folder) (row : TabRow) :
    ∃ window, start system configuration disk folder row = .ok window ∧
      window.ledger = ⟨[], [], [], [], none, 0⟩ := by
  let session := Session.start disk (stageOf (Surface.ofPanes []))
  let bare : Window :=
    { system, configuration, folder, session
      surface := Surface.ofPanes []
      sheets := []
      editorOf := []
      row
      tabs := []
      current := -1
      calls := [.status welcome 0] }
  obtain ⟨style, described⟩ := session.settings.style_exists
  have yields : Action.Yields (Action.activate dimmer) session () (session.activated dimmer style) :=
    Action.activate_yields rfl rfl described
  obtain ⟨logs, ran⟩ := Action.run_of_yields yields
  have events : session.eventsSince { session.activated dimmer style with logs } =
      if session.settings.enabled then [.created 1 style] else [] := by
    have happened := activated_happenings disk style
    unfold Session.eventsSince Session.events
    dsimp only
    rw [happened]
    split <;> rfl
  change ∃ window, bare.act (Action.activate dimmer) = .ok window ∧ _
  rw [act_of_run ran]
  change ∃ window, (session.eventsSince _).foldlM carryOut _ = .ok window ∧ _
  rw [events]
  split <;> exact ⟨_, rfl, rfl⟩

end Start

section Agreement

theorem empty_consistent : Ledger.IsConsistent ⟨[], [], [], [], none, 0⟩ where
  tracked := rfl
  editors := rfl
  ordered := .nil
  sheets := rfl
  present := by simp
  active := by simp

/-- A window comes up empty, and whatever is done to it then and whatever its row of tabs announces
meanwhile, the panes that are tracked are those of the open tabs, once each and in the order in which
they were opened, every open tab has one entry that leads to the editor of its widget, and the active
editor, if there is one, is one of theirs. An editor whose tab has been closed is never tracked or
active again. -/
theorem tabs_and_editors_agree (system : Text) (configuration : Configuration) (disk : Disk)
    (folder : Folder) (row : TabRow) :
    ∃ window, start system configuration disk folder row = .ok window ∧
      (∀ operations results, window.run operations = .ok results →
        window :: results.map (·.2) = operations.scanl after window) ∧
      ∀ operations, (window.through operations).ledger.IsConsistent ∧
        ∀ index tab, (window.through operations).tabAt? index = some tab → ∀ further,
          let later := window.through (operations ++ .closeTab index :: further)
          tab.widget ∉ later.surface.tracked ∧ later.surface.active ≠ some tab.widget := by
  obtain ⟨window, started, nothing⟩ := start_yields system configuration disk folder row
  have empty : window.ledger.IsConsistent := nothing ▸ empty_consistent
  have consistent (operations : List WindowOperation) :
      (window.through operations).ledger.IsConsistent :=
    empty.leads (through_leads empty operations)
  refine ⟨window, started, fun _ _ => scanl_after_of_run, fun operations => ⟨consistent operations, ?_⟩⟩
  intro index tab found further later
  let former := window.through operations
  have gone : later.ledger.IsGone tab.widget := by
    have led : later = (former.closed index).through further := List.foldl_append
    have once := (consistent operations).gone_of_closed (tab_at_eq_some found)
    have left := (consistent operations).leads (closed_leads (consistent operations) index)
    rw [led]
    exact (once.leads (closing_leads (consistent operations) found)).leads (through_leads left further)
  have untracked := (consistent _).not_tracked_of_gone gone
  exact ⟨untracked, fun active => untracked ((consistent _).active _ active)⟩

/-- Three texts are opened in a row that announces each of them, and the tabs of two are closed: that
of the active editor first, then that of another one. Places where no tab is change nothing but what
is active. -/
theorem tabs_and_editors_agree_after_closing :
    let configuration : Configuration := ⟨"INFO", "console", 1000, 800, 10, 5000⟩
    let operations : List WindowOperation :=
      [.openText "a" "go" "a.go", .openText "b" "cpp" "b.cpp", .openText "c" "go" "c.go",
        .selectTab 1, .closeTab 7, .closeTab 1, .selectTab (-1), .selectTab 1, .closeTab 0,
        .closeTab (-1)]
    ∃ window, start "Linux" configuration .absent [] .following = .ok window ∧
      (window.through operations).tabs.map (·.widget) = [2] ∧
      (window.through operations).surface.tracked = [2] ∧
      (window.through operations).surface.active = some 2 ∧
      (window.through (operations ++ [.closeTab 0, .selectTab 0])).surface.active ≠ some 2 := by
  intro configuration operations
  let outcome (window : Window) : Option Nat × List Nat × Option Nat :=
    let later := window.through operations
    ((later.tabAt? 0).map (·.widget), later.tabs.map (·.widget), later.surface.active)
  have evaluated : (start "Linux" configuration .absent [] .following).toOption.map outcome =
      some (some 2, [2], some 2) := by
    decide +kernel
  obtain ⟨window, started, -, agree⟩ :=
    tabs_and_editors_agree "Linux" configuration .absent [] .following
  obtain ⟨other, found, values⟩ := Option.map_eq_some_iff.1 evaluated
  rw [started] at found
  obtain rfl : window = other := Option.some.inj found
  obtain ⟨first, rest⟩ := Prod.mk.inj values
  obtain ⟨widgets, active⟩ := Prod.mk.inj rest
  obtain ⟨tab, there, widget⟩ := Option.map_eq_some_iff.1 first
  obtain ⟨consistent, closes⟩ := agree operations
  have gone := (closes 0 tab there [.selectTab 0]).2
  rw [widget] at gone
  have tracked (later : Window) (consistent : later.ledger.IsConsistent) :
      later.surface.tracked = later.tabs.map (·.widget) := consistent.tracked
  exact ⟨window, started, widgets, (tracked _ consistent).trans widgets, active, gone⟩

end Agreement

end Window

end Dimming
