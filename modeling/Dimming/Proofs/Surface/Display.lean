import Dimming.Proofs.Surface.Drawing
import Dimming.Proofs.Text.Numeral

/-!
# What panes show

A pane shows of a decoration what was drawn of it last and not cleared since. Disposing of the
decoration clears it from the panes that are tracked at that moment. A pane that is not tracked then
misses it, and goes on showing the decoration, also when it is tracked again.
-/

set_option autoImplicit false

namespace Dimming

/-- Whether a decoration is released without being disposed of. -/
def SurfaceOperation.isRelease : SurfaceOperation → Bool
  | .release _ => true
  | _ => false

namespace SurfaceOperation

def tallied (tally : Nat × List Nat) : SurfaceOperation → Nat × List Nat
  | .create _ => (tally.1 + 1, tally.2 ++ [tally.1 + 1])
  | .dispose number => (tally.1, tally.2.filter (· != number))
  | _ => tally

/-- The decorations that operations make and do not dispose of, in the order of their making. -/
def survivors (operations : List SurfaceOperation) : List Nat :=
  (operations.foldl tallied (0, [])).2

end SurfaceOperation

namespace Surface

section Recollection

variable (surface : Surface) (index number : Nat)

/-- What is drawn last of a decoration on a pane after an operation, if it was `former` before. -/
def setBy (former : Option (List Selection)) : SurfaceOperation → Option (List Selection)
  | .decorate pane decoration ranges =>
      if pane = index ∧ decoration = number then (surface.drawing? index number ranges).or former
      else former
  | .detect pane decoration =>
      if pane = index ∧ decoration = number then
        (surface.drawing? index number (surface.statementsOf index)).or former
      else former
  | .clear pane decoration => if pane = index ∧ decoration = number then none else former
  | _ => former

/-- Whether a decoration is disposed of while a pane is not tracked. -/
def misses : SurfaceOperation → Bool
  | .dispose decoration =>
      decide (decoration = number) && surface.isLive number && !surface.tracked.contains index
  | _ => false

end Recollection

/-- What is drawn last of a decoration on a pane along a run, if it was `former` before. -/
def lastSet (index number : Nat) :
    Surface → Option (List Selection) → List SurfaceOperation → Option (List Selection)
  | _, former, [] => former
  | surface, former, operation :: operations =>
      lastSet index number (surface.moved operation) (surface.setBy index number former operation)
        operations

/-- Whether a decoration is disposed of along a run while a pane is not tracked. -/
def missed (index number : Nat) : Surface → List SurfaceOperation → Bool
  | _, [] => false
  | surface, operation :: operations =>
      surface.misses index number operation ||
        missed index number (surface.moved operation) operations

variable {surface : Surface} {index number : Nat}

section Live

/-- The decorations that have not been disposed of, in the order in which they were made. -/
def undisposed (surface : Surface) : List Nat :=
  (List.range' 1 surface.decorations.length).filter surface.isLive

theorem decoration_marked (surface : Surface) (number other : Nat) (some : number ≠ 0) :
    (surface.marked number).decoration? other =
      (surface.decoration? other).map fun entry =>
        if number = other then { entry with disposed := true } else entry := by
  unfold decoration? marked
  by_cases none : other = 0
  · simp [none]
  · have apart : number - 1 = other - 1 ↔ number = other := by omega
    simp [none, List.getElem?_modify, apart]

theorem live_ne_zero (live : surface.isLive number = true) : number ≠ 0 := by
  rintro rfl
  cases live

theorem live_marked (live : surface.isLive number = true) (other : Nat) :
    (surface.marked number).isLive other = (surface.isLive other && decide (other ≠ number)) := by
  unfold isLive
  rw [decoration_marked surface number other (live_ne_zero live)]
  cases surface.decoration? other with
  | none => rfl
  | some entry =>
      by_cases same : number = other
      · simp [same]
      · simp [same, eq_comm]

theorem undisposed_nodup (surface : Surface) : surface.undisposed.Nodup :=
  List.Nodup.filter _ List.nodup_range'

theorem mem_undisposed_iff : number ∈ surface.undisposed ↔ surface.isLive number = true := by
  unfold undisposed
  rw [List.mem_filter, and_iff_right_iff_imp]
  intro live
  have some := live_ne_zero live
  have inside : number - 1 < surface.decorations.length := by
    by_contra outside
    simp [isLive, decoration?, some, List.getElem?_eq_none (Nat.le_of_not_lt outside)] at live
  rw [List.mem_range'_1]
  omega

theorem undisposed_marked (live : surface.isLive number = true) :
    (surface.marked number).undisposed = surface.undisposed.erase number := by
  rw [surface.undisposed_nodup.erase_eq_filter]
  unfold undisposed
  rw [List.filter_filter]
  have length : (surface.marked number).decorations.length = surface.decorations.length := by
    simp [marked]
  rw [length]
  apply List.filter_congr
  intro other _
  rw [live_marked live, Bool.and_comm]
  by_cases same : other = number <;> simp [same]

theorem decoration_create_of_ne (surface : Surface) (style : Style)
    (old : number ≠ surface.decorations.length + 1) :
    (surface.create style).1.decoration? number = surface.decoration? number := by
  unfold decoration? create
  by_cases none : number = 0
  · simp [none]
  · rw [if_neg none, if_neg none]
    by_cases inside : number - 1 < surface.decorations.length
    · exact List.getElem?_append_left inside
    · rw [List.getElem?_eq_none (Nat.le_of_not_lt inside)]
      apply List.getElem?_eq_none
      simp
      omega

theorem decoration_created (surface : Surface) (style : Style) :
    (surface.create style).1.decoration? (surface.decorations.length + 1) = some ⟨style, false⟩ := by
  simp [decoration?, create]

theorem undisposed_create (surface : Surface) (style : Style) :
    (surface.create style).1.undisposed = surface.undisposed ++ [surface.decorations.length + 1] := by
  have length : (surface.create style).1.decorations.length = surface.decorations.length + 1 := by
    simp [create]
  have made : (surface.create style).1.isLive (surface.decorations.length + 1) = true := by
    simp [isLive, decoration_created]
  unfold undisposed
  rw [length, List.range'_1_concat, List.filter_append, Nat.add_comm 1]
  congr 1
  · apply List.filter_congr
    intro number among
    have old : number ≠ surface.decorations.length + 1 := by
      rw [List.mem_range'_1] at among
      omega
    simp [isLive, decoration_create_of_ne surface style old]
  · simp [made]

theorem live_of_same {later : Surface} (same : later.decorations = surface.decorations) :
    later.isLive = surface.isLive := by
  funext number
  simp [isLive, decoration?, same]

theorem undisposed_of_same {later : Surface} (same : later.decorations = surface.decorations) :
    later.undisposed = surface.undisposed := by
  simp [undisposed, live_of_same same, same]

end Live

/-- The live decorations are those not disposed of, and every pane shows what it has. -/
structure IsTidy (surface : Surface) : Prop where
  live : surface.live = surface.undisposed
  neat : ∀ pane ∈ surface.panes, pane.IsNeat

theorem neat_cleared_all (neat : ∀ pane ∈ surface.panes, pane.IsNeat) (places : List Nat)
    (number : Nat) : ∀ pane ∈
      (places.foldl (fun current pane => current.clear pane number) surface).panes, pane.IsNeat := by
  induction places generalizing surface with
  | nil => exact neat
  | cons place places ih =>
      exact ih (forall_modified (fun _ neat => neat.cleared number) neat place)

namespace IsTidy

variable {later : Surface} (tidy : surface.IsTidy)

include tidy

theorem of_same (live : later.live = surface.live)
    (decorations : later.decorations = surface.decorations)
    (neat : ∀ pane ∈ later.panes, pane.IsNeat) : later.IsTidy :=
  ⟨by rw [live, undisposed_of_same decorations, tidy.live], neat⟩

theorem modified {change : Pane → Pane} (kept : ∀ pane, pane.IsNeat → (change pane).IsNeat)
    (index : Nat) : (surface.modifyPane index change).IsTidy :=
  tidy.of_same rfl rfl (forall_modified kept tidy.neat index)

theorem decorated (index number : Nat) (ranges : List DisplayRange) :
    (surface.decorated index number ranges).IsTidy := by
  rw [decorated_eq]
  cases surface.drawing? index number ranges with
  | none => exact tidy
  | some selections => exact tidy.modified (fun _ neat => neat.drawn number selections) index

theorem created (style : Style) : (surface.create style).1.IsTidy := by
  refine ⟨?_, tidy.neat⟩
  rw [undisposed_create, ← tidy.live]
  rfl

theorem disposed (number : Nat) : (surface.dispose number).IsTidy := by
  cases live : surface.isLive number with
  | false =>
      rw [dispose_of_not_live live]
      exact tidy
  | true =>
      rw [dispose_of_live live]
      constructor
      · obtain ⟨panes, released⟩ := release_eq (surface.marked number) number
        have fewer := undisposed_marked live
        have same : ((surface.marked number).release number).decorations =
            (surface.marked number).decorations := by rw [released]
        rw [undisposed_of_same same, fewer, ← tidy.live, released]
        rfl
      · have neat : ∀ pane ∈ { surface.marked number with
            live := surface.live.erase number }.panes, pane.IsNeat := tidy.neat
        exact neat_cleared_all neat surface.tracked number

theorem moved {operation : SurfaceOperation} (disposes : operation.isRelease = false) :
    (surface.moved operation).IsTidy := by
  cases draws : operation.draws with
  | false =>
      obtain ⟨tracked, active, index, change, same, moves⟩ := moved_undrawn draws surface
      have follows : { surface with tracked, active }.IsTidy := tidy.of_same rfl rfl tidy.neat
      rw [moves]
      apply follows.modified
      exact fun pane neat => neat.of_same (same pane)
  | true =>
      cases operation with
      | create style => exact tidy.created style
      | dispose number => exact tidy.disposed number
      | release number => cases disposes
      | decorate pane number ranges => exact tidy.decorated pane number ranges
      | detect pane number => exact tidy.decorated pane number _
      | clear pane number => exact tidy.modified (fun _ neat => neat.cleared number) pane
      | _ => cases draws

end IsTidy

/-- What a pane has of a decoration along a run. If the decoration is live, or was missed by the
pane, that is what was drawn of it last. -/
structure Recalls (surface : Surface) (index number : Nat) (former : Option (List Selection))
    (missed : Bool) : Prop where
  shown : surface.drawnOf index number = if surface.isLive number || missed then former else none
  made : surface.decoration? number = none → former = none
  gone : missed = true → ∃ style, surface.decoration? number = some ⟨style, true⟩

namespace Recalls

variable {former : Option (List Selection)} {missed : Bool} {later : Surface}
variable (recalls : surface.Recalls index number former missed)

include recalls

theorem not_live (miss : missed = true) : surface.isLive number = false := by
  obtain ⟨style, disposed⟩ := recalls.gone miss
  simp [isLive, disposed]

theorem of_same (drawn : later.drawnOf index number = surface.drawnOf index number)
    (decorations : later.decorations = surface.decorations) :
    later.Recalls index number former missed where
  shown := by rw [drawn, recalls.shown, live_of_same decorations]
  made := by simpa [decoration?, decorations] using recalls.made
  gone := by simpa [decoration?, decorations] using recalls.gone

theorem modified {change : Pane → Pane} (same : ∀ pane, (change pane).groups = pane.groups)
    (place : Nat) : (surface.modifyPane place change).Recalls index number former missed :=
  recalls.of_same (drawn_of_modified same surface place index number) rfl

theorem created (style : Style) :
    (surface.create style).1.Recalls index number former missed := by
  have drawn : (surface.create style).1.drawnOf index number = surface.drawnOf index number := rfl
  by_cases new : number = surface.decorations.length + 1
  · have absent : surface.decoration? number = none := by simp [decoration?, new]
    have nothing : former = none := recalls.made absent
    have kept : missed = false := by
      by_contra miss
      obtain ⟨style, there⟩ := recalls.gone (by simpa using miss)
      simp [absent] at there
    constructor
    · rw [drawn, recalls.shown, nothing]
      simp
    · exact fun _ => nothing
    · simp [kept]
  · have same := decoration_create_of_ne surface style new
    constructor
    · rw [drawn, recalls.shown]
      simp [isLive, same]
    · simpa [same] using recalls.made
    · simpa [same] using recalls.gone

theorem disposed (decoration : Nat) :
    (surface.dispose decoration).Recalls index number former
      (surface.misses index number (.dispose decoration) || missed) := by
  cases live : surface.isLive decoration with
  | false =>
      have unmissed : surface.misses index number (.dispose decoration) = false := by
        by_cases same : decoration = number
        · simp [misses, ← same, live]
        · simp [misses, same]
      rw [dispose_of_not_live live, unmissed]
      exact recalls
  | true =>
      obtain ⟨panes, released⟩ := release_eq (surface.marked decoration) decoration
      have decorations : ((surface.marked decoration).release decoration).decorations =
          (surface.marked decoration).decorations := by rw [released]
      have entry : ((surface.marked decoration).release decoration).decoration? number =
          (surface.decoration? number).map fun entry =>
            if decoration = number then { entry with disposed := true } else entry := by
        rw [← decoration_marked surface decoration number (live_ne_zero live)]
        simp [decoration?, decorations]
      have drawn : (surface.marked decoration).drawnOf index number =
          surface.drawnOf index number := rfl
      have among : (surface.marked decoration).tracked = surface.tracked := rfl
      rw [dispose_of_live live]
      by_cases same : decoration = number
      · subst same
        have kept : missed = false := by
          by_contra miss
          rw [recalls.not_live (by simpa using miss)] at live
          cases live
        constructor
        · rw [drawn_of_release, live_of_same decorations, live_marked live, drawn, among,
            recalls.shown]
          by_cases tracked : index ∈ surface.tracked <;> simp [misses, live, kept, tracked]
        · simpa [entry] using recalls.made
        · intro _
          cases there : surface.decoration? decoration with
          | none => simp [isLive, there] at live
          | some former => exact ⟨former.style, by simp [entry, there]⟩
      · constructor
        · rw [drawn_of_release, live_of_same decorations, live_marked live, drawn, recalls.shown]
          simp [misses, same, Ne.symm same]
        · simpa [entry, same] using recalls.made
        · simpa [entry, same, misses] using recalls.gone

theorem decorated (place decoration : Nat) (ranges : List DisplayRange) :
    (surface.decorated place decoration ranges).Recalls index number
      (if place = index ∧ decoration = number then
        (surface.drawing? index number ranges).or former else former) missed := by
  rw [decorated_eq]
  cases drawing : surface.drawing? place decoration ranges with
  | none =>
      by_cases here : place = index ∧ decoration = number
      · obtain ⟨rfl, rfl⟩ := here
        simpa [drawing] using recalls
      · simpa [here] using recalls
  | some selections =>
      obtain ⟨entry, pane, found, fresh, shown⟩ := decoration_of_drawing drawing
      have drawn := drawn_of_drawn surface place decoration index number selections shown
      by_cases here : place = index ∧ decoration = number
      · obtain ⟨rfl, rfl⟩ := here
        have live : surface.isLive decoration = true := by simp [isLive, found, fresh]
        constructor
        · have still : (surface.drawn place decoration selections).isLive decoration = true := live
          simp [drawn, still, drawing]
        · intro absent
          have there : surface.decoration? decoration = none := absent
          simp [found] at there
        · exact recalls.gone
      · simp only [here, if_false] at drawn ⊢
        exact recalls.of_same drawn rfl

theorem cleared (place decoration : Nat) :
    (surface.clear place decoration).Recalls index number
      (if place = index ∧ decoration = number then none else former) missed := by
  have drawn := drawn_of_clear surface place decoration index number
  by_cases here : place = index ∧ decoration = number
  · rw [if_pos here] at drawn ⊢
    constructor
    · simp [drawn]
    · exact fun _ => rfl
    · exact recalls.gone
  · rw [if_neg here] at drawn ⊢
    exact recalls.of_same drawn rfl

theorem moved {operation : SurfaceOperation} (disposes : operation.isRelease = false) :
    (surface.moved operation).Recalls index number (surface.setBy index number former operation)
      (surface.misses index number operation || missed) := by
  cases draws : operation.draws with
  | false =>
      obtain ⟨tracked, active, place, change, same, moves⟩ := moved_undrawn draws surface
      have follows : { surface with tracked, active }.Recalls index number former missed :=
        recalls.of_same rfl rfl
      have kept : surface.setBy index number former operation = former ∧
          surface.misses index number operation = false := by
        cases operation with
        | create | dispose | release | decorate | detect | clear => cases draws
        | _ => exact ⟨rfl, rfl⟩
      rw [kept.1, kept.2, moves]
      exact follows.modified (fun pane => (same pane).1) place
  | true =>
      cases operation with
      | create style => exact recalls.created style
      | dispose decoration => exact recalls.disposed decoration
      | release decoration => cases disposes
      | decorate pane decoration ranges => exact recalls.decorated pane decoration ranges
      | detect pane decoration =>
          have follows := recalls.decorated pane decoration (surface.statementsOf pane)
          by_cases here : pane = index ∧ decoration = number
          · obtain ⟨rfl, rfl⟩ := here
            exact follows
          · simpa [Surface.moved, setBy, misses, here] using follows
      | clear pane decoration => exact recalls.cleared pane decoration
      | _ => cases draws

end Recalls

section Runs

def tally (surface : Surface) : Nat × List Nat := (surface.decorations.length, surface.live)

theorem tally_create (surface : Surface) (style : Style) :
    (surface.create style).1.tally = SurfaceOperation.tallied surface.tally (.create style) := by
  simp [tally, create, SurfaceOperation.tallied]

theorem IsTidy.tally_dispose (tidy : surface.IsTidy) (number : Nat) :
    (surface.dispose number).tally = SurfaceOperation.tallied surface.tally (.dispose number) := by
  have distinct : surface.live.Nodup := by
    rw [tidy.live]
    exact surface.undisposed_nodup
  cases live : surface.isLive number with
  | false =>
      have absent : number ∉ surface.live := by
        rw [tidy.live, mem_undisposed_iff, live]
        exact Bool.false_ne_true
      have same : surface.live.filter (· != number) = surface.live := by
        rw [← distinct.erase_eq_filter, List.erase_of_not_mem absent]
      rw [dispose_of_not_live live]
      simp only [tally, SurfaceOperation.tallied, same]
  | true =>
      obtain ⟨panes, released⟩ := release_eq (surface.marked number) number
      rw [dispose_of_live live, released]
      simp [tally, marked, SurfaceOperation.tallied, distinct.erase_eq_filter]

theorem tally_decorated (surface : Surface) (index number : Nat) (ranges : List DisplayRange) :
    (surface.decorated index number ranges).tally = surface.tally := by
  obtain ⟨panes, drawn⟩ := surface.decorated_frame index number ranges
  rw [drawn]
  rfl

theorem IsTidy.tally_moved (tidy : surface.IsTidy) {operation : SurfaceOperation}
    (disposes : operation.isRelease = false) :
    (surface.moved operation).tally = SurfaceOperation.tallied surface.tally operation := by
  cases draws : operation.draws with
  | false =>
      obtain ⟨tracked, active, index, change, -, moves⟩ := moved_undrawn draws surface
      have kept : SurfaceOperation.tallied surface.tally operation = surface.tally := by
        cases operation with
        | create | dispose | release | decorate | detect | clear => cases draws
        | _ => rfl
      rw [kept, moves]
      rfl
  | true =>
      cases operation with
      | create style => exact surface.tally_create style
      | dispose number => exact tidy.tally_dispose number
      | release number => cases disposes
      | decorate pane number ranges => exact surface.tally_decorated pane number ranges
      | detect pane number => exact surface.tally_decorated pane number _
      | clear => rfl
      | _ => cases draws

variable {operations : List SurfaceOperation}

theorem IsTidy.through (tidy : surface.IsTidy)
    (disposes : ∀ operation ∈ operations, operation.isRelease = false) :
    (operations.foldl Surface.moved surface).IsTidy := by
  induction operations generalizing surface with
  | nil => exact tidy
  | cons operation operations ih =>
      rw [List.forall_mem_cons] at disposes
      exact ih (tidy.moved disposes.1) disposes.2

theorem IsTidy.tally_through (tidy : surface.IsTidy)
    (disposes : ∀ operation ∈ operations, operation.isRelease = false) :
    (operations.foldl Surface.moved surface).tally =
      operations.foldl SurfaceOperation.tallied surface.tally := by
  induction operations generalizing surface with
  | nil => rfl
  | cons operation operations ih =>
      rw [List.forall_mem_cons] at disposes
      rw [List.foldl_cons, List.foldl_cons, ← tidy.tally_moved disposes.1]
      exact ih (tidy.moved disposes.1) disposes.2

theorem Recalls.through {former : Option (List Selection)} {before : Bool}
    (recalls : surface.Recalls index number former before)
    (disposes : ∀ operation ∈ operations, operation.isRelease = false) :
    (operations.foldl Surface.moved surface).Recalls index number
      (lastSet index number surface former operations)
      (missed index number surface operations || before) := by
  induction operations generalizing surface former before with
  | nil => exact recalls
  | cons operation operations ih =>
      rw [List.forall_mem_cons] at disposes
      have rest := ih (recalls.moved disposes.1) disposes.2
      rw [← Bool.or_assoc, Bool.or_comm (missed index number _ operations)] at rest
      exact rest

variable {panes : List Pane} (fresh : ∀ pane ∈ panes, pane.IsFresh)

include fresh

theorem tidy_of_panes : (ofPanes panes).IsTidy := ⟨rfl, fun pane among => (fresh pane among).neat⟩

theorem recalls_of_panes : (ofPanes panes).Recalls index number none false := by
  constructor
  · cases shown : panes[index]? with
    | none => simp [drawnOf, ofPanes, shown]
    | some pane =>
        have bare := (fresh pane (List.mem_of_getElem? shown)).groups
        simp [drawnOf, ofPanes, shown, bare, Mapping.get?]
  · exact fun _ => rfl
  · simp

end Runs

theorem decoration_name_injective : Function.Injective decorationName := by
  intro first second same
  apply Text.of_nat_injective
  exact List.append_cancel_left same

end Surface

/-- Of a decoration that is disposed of, nothing stays but what is missed. After any operations,
the live decorations are those made and not disposed of since, in their order, under names of their
own. Every pane shows, decoration by decoration, what was drawn of it last: of every live one, and
of one that was disposed of while the pane was not tracked, until something clears it from the
pane. -/
theorem disposed_decorations_gone_unless_missed {panes : List Pane}
    (fresh : ∀ pane ∈ panes, pane.IsFresh) {operations : List SurfaceOperation}
    (disposes : ∀ operation ∈ operations, operation.isRelease = false) :
    let start := Surface.ofPanes panes
    let surface := ((Observed.ofPanes panes).through operations).surface
    surface.live = SurfaceOperation.survivors operations ∧
      (surface.live.map Surface.decorationName).Nodup ∧
      ∀ index pane, surface.panes[index]? = some pane →
        pane.shown = pane.groups.flatMap (·.2) ∧ (pane.groups.map Prod.fst).Nodup ∧
        ∀ number selections, (number, selections) ∈ pane.groups ↔
          Surface.lastSet index number start none operations = some selections ∧
            (number ∈ surface.live ∨ Surface.missed index number start operations = true) := by
  intro start surface
  have led : surface = operations.foldl Surface.moved start :=
    (Observed.ofPanes panes).through_surface operations
  have tidy : surface.IsTidy := by
    rw [led]
    exact (Surface.tidy_of_panes fresh).through disposes
  refine ⟨?_, ?_, ?_⟩
  · rw [led]
    exact congrArg Prod.snd ((Surface.tidy_of_panes fresh).tally_through disposes)
  · rw [tidy.live]
    exact surface.undisposed_nodup.map Surface.decoration_name_injective
  · intro index pane shown
    have neat := tidy.neat pane (List.mem_of_getElem? shown)
    refine ⟨neat.shown, neat.distinct, fun number selections => ?_⟩
    have recalls : surface.Recalls index number (Surface.lastSet index number start none operations)
        (Surface.missed index number start operations || false) := by
      rw [led]
      exact (Surface.recalls_of_panes fresh).through disposes
    have drawn : surface.drawnOf index number = pane.groups.get? number := by
      simp [Surface.drawnOf, shown]
    rw [← Mapping.get_eq_some_iff neat.distinct, ← drawn, recalls.shown, tidy.live,
      Surface.mem_undisposed_iff, Bool.or_false, ← Bool.or_eq_true]
    split
    next there => exact (and_iff_left there).symm
    next gone => simp [gone]

/-- Of two decorations on a tracked pane, the one that is disposed of goes and the other one stays.
-/
theorem live_decoration_stays :
    let panes : List Pane := [.ofLines ["a", "b"] "plaintext" true]
    let style : Style := ⟨some "#80808080", none, some Style.italic⟩
    let operations : List SurfaceOperation := [.create style, .track 0, .create style,
      .decorate 0 1 [⟨⟨0, 0⟩, ⟨0, 1⟩⟩], .decorate 0 2 [⟨⟨1, 0⟩, ⟨1, 1⟩⟩], .dispose 1]
    let surface := ((Observed.ofPanes panes).through operations).surface
    surface.live = [2] ∧ ∃ pane selections, surface.panes[0]? = some pane ∧
      pane.shown = selections ∧
      selections.map (fun drawn => (drawn.anchor, drawn.position)) = [(2, 3)] ∧
      Surface.lastSet 0 2 (.ofPanes panes) none operations = some selections := by
  intro panes style operations surface
  have fresh : ∀ pane ∈ panes, pane.IsFresh := by
    intro pane among
    rw [List.mem_singleton.1 among]
    exact Pane.fresh_of_lines ["a", "b"] "plaintext" true
  obtain ⟨live, -, shows⟩ := disposed_decorations_gone_unless_missed fresh
    (show ∀ operation ∈ operations, operation.isRelease = false by decide)
  obtain ⟨pane, found, selections, drawn, places⟩ : ∃ pane, surface.panes[0]? = some pane ∧
      ∃ selections, pane.groups = [(2, selections)] ∧
        selections.map (fun drawn => (drawn.anchor, drawn.position)) = [(2, 3)] :=
    ⟨_, rfl, _, rfl, rfl⟩
  obtain ⟨shown, -, recalled⟩ := shows 0 pane found
  have there : (2, selections) ∈ pane.groups := by simp [drawn]
  exact ⟨live, pane, selections, found, by simp [shown, drawn], places,
    ((recalled 2 selections).1 there).1⟩

/-- A decoration that is disposed of while a pane is not tracked is on show when the pane is tracked
again. -/
theorem disposed_decoration_shown_when_tracked_again :
    let panes : List Pane := [.ofLines ["console.log(1);"] "typescript" true]
    let style : Style := ⟨some "#80808080", none, some Style.italic⟩
    let surface := ((Observed.ofPanes panes).through [.track 0, .create style, .detect 0 1,
      .untrack 0, .dispose 1, .track 0]).surface
    surface.tracked = [0] ∧ surface.live = [] ∧
      surface.panes.map (fun pane => pane.shown.map fun drawn => (drawn.start, drawn.stop)) =
        [[(0, 15)]] := by
  decide +kernel

end Dimming
