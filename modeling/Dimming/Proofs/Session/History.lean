import Dimming.Session.State

/-!
# Handles in a history

A history of happenings, newest first, is orderly if a dimmer registers a style only while it
holds none, under a handle that was never given out before, and disposes only of the handle
that it holds. In such a history the handles that are still out are the ones that are held, and
none is disposed of twice.
-/

set_option autoImplicit false

namespace Dimming

namespace Event

def createdHandle? : Event → Option Nat
  | .created handle _ => some handle
  | _ => none

def disposedHandle? : Event → Option Nat
  | .disposed handle => some handle
  | _ => none

end Event

def createdHandles (history : List Happening) : List Nat :=
  history.filterMap (·.event.createdHandle?)

def disposedHandles (history : List Happening) : List Nat :=
  history.filterMap (·.event.disposedHandle?)

/-- The style that a dimmer registered last, unless it has disposed of one since. -/
def heldBy (dimmer : Nat) : List Happening → Option LiveStyle
  | [] => none
  | ⟨author, event⟩ :: earlier =>
      if author = some dimmer then
        match event with
        | .created handle style => some ⟨handle, style⟩
        | .disposed _ => none
        | _ => heldBy dimmer earlier
      else heldBy dimmer earlier

inductive Orderly : List Happening → Prop where
  | start : Orderly []
  | created {dimmer handle : Nat} {style : Style} {earlier : List Happening}
      (before : Orderly earlier) (free : heldBy dimmer earlier = none)
      (fresh : handle ∉ createdHandles earlier) :
      Orderly (⟨some dimmer, .created handle style⟩ :: earlier)
  | disposed {dimmer handle : Nat} {style : Style} {earlier : List Happening}
      (before : Orderly earlier) (held : heldBy dimmer earlier = some ⟨handle, style⟩) :
      Orderly (⟨some dimmer, .disposed handle⟩ :: earlier)
  | other {author : Option Nat} {event : Event} {earlier : List Happening}
      (before : Orderly earlier) (notCreated : event.createdHandle? = none)
      (notDisposed : event.disposedHandle? = none) : Orderly (⟨author, event⟩ :: earlier)

section Held

variable {author : Option Nat} {dimmer owner handle : Nat} {style : Style} {event : Event}
variable {earlier : List Happening} {live : LiveStyle}

theorem held_created_self :
    heldBy dimmer (⟨some dimmer, .created handle style⟩ :: earlier) = some ⟨handle, style⟩ :=
  if_pos rfl

theorem held_disposed_self :
    heldBy dimmer (⟨some dimmer, .disposed handle⟩ :: earlier) = none :=
  if_pos rfl

theorem held_of_ne (apart : dimmer ≠ owner) :
    heldBy dimmer (⟨some owner, event⟩ :: earlier) = heldBy dimmer earlier :=
  if_neg fun same => apart (Option.some.inj same).symm

theorem held_other (notCreated : event.createdHandle? = none)
    (notDisposed : event.disposedHandle? = none) :
    heldBy dimmer (⟨author, event⟩ :: earlier) = heldBy dimmer earlier := by
  cases event with
  | created | disposed => contradiction
  | _ => exact ite_self _

theorem held_after_created
    (held : heldBy dimmer (⟨some owner, .created handle style⟩ :: earlier) = some live) :
    dimmer = owner ∧ live = ⟨handle, style⟩ ∨
      dimmer ≠ owner ∧ heldBy dimmer earlier = some live := by
  by_cases own : dimmer = owner
  · subst own
    rw [held_created_self] at held
    exact Or.inl ⟨rfl, (Option.some.inj held).symm⟩
  · exact Or.inr ⟨own, held_of_ne own ▸ held⟩

theorem held_after_disposed
    (held : heldBy dimmer (⟨some owner, .disposed handle⟩ :: earlier) = some live) :
    dimmer ≠ owner ∧ heldBy dimmer earlier = some live := by
  by_cases own : dimmer = owner
  · subst own
    rw [held_disposed_self] at held
    cases held
  · exact ⟨own, held_of_ne own ▸ held⟩

end Held

section Handles

variable {author : Option Nat} {handle other : Nat} {style : Style} {event : Event}
variable {earlier : List Happening}

theorem mem_created_handles_cons : handle ∈ createdHandles (⟨author, event⟩ :: earlier) ↔
    event.createdHandle? = some handle ∨ handle ∈ createdHandles earlier := by
  unfold createdHandles
  rw [List.filterMap_cons]
  dsimp only
  cases event.createdHandle? with
  | none => simp
  | some created => simp [eq_comm]

theorem mem_disposed_handles_cons : handle ∈ disposedHandles (⟨author, event⟩ :: earlier) ↔
    event.disposedHandle? = some handle ∨ handle ∈ disposedHandles earlier := by
  unfold disposedHandles
  rw [List.filterMap_cons]
  dsimp only
  cases event.disposedHandle? with
  | none => simp
  | some disposed => simp [eq_comm]

theorem created_handles_other (notCreated : event.createdHandle? = none) :
    createdHandles (⟨author, event⟩ :: earlier) = createdHandles earlier := by
  unfold createdHandles
  rw [List.filterMap_cons]
  dsimp only
  rw [notCreated]

theorem disposed_handles_other (notDisposed : event.disposedHandle? = none) :
    disposedHandles (⟨author, event⟩ :: earlier) = disposedHandles earlier := by
  unfold disposedHandles
  rw [List.filterMap_cons]
  dsimp only
  rw [notDisposed]

end Handles

namespace Orderly

variable {dimmer other handle : Nat} {style : Style} {live live' : LiveStyle}
variable {history : List Happening}

theorem created_of_held (orderly : Orderly history) (held : heldBy dimmer history = some live) :
    ⟨some dimmer, .created live.handle live.style⟩ ∈ history := by
  induction orderly with
  | start => cases held
  | created before free fresh ih =>
      rcases held_after_created held with ⟨rfl, rfl⟩ | ⟨-, old⟩
      · exact List.mem_cons_self
      · exact List.mem_cons_of_mem _ (ih old)
  | disposed before holding ih => exact List.mem_cons_of_mem _ (ih (held_after_disposed held).2)
  | other before notCreated notDisposed ih =>
      rw [held_other notCreated notDisposed] at held
      exact List.mem_cons_of_mem _ (ih held)

theorem handle_created (orderly : Orderly history) (held : heldBy dimmer history = some live) :
    live.handle ∈ createdHandles history :=
  List.mem_filterMap.2 ⟨_, orderly.created_of_held held, rfl⟩

theorem holder_unique (orderly : Orderly history) (held : heldBy dimmer history = some live)
    (held' : heldBy other history = some live') (same : live.handle = live'.handle) :
    dimmer = other := by
  induction orderly with
  | start => cases held
  | created before free fresh ih =>
      rcases held_after_created held with ⟨own, rfl⟩ | ⟨-, old⟩ <;>
        rcases held_after_created held' with ⟨own', rfl⟩ | ⟨-, old'⟩
      · rw [own, own']
      · have taken := before.handle_created old'
        rw [← same] at taken
        exact absurd taken fresh
      · have taken := before.handle_created old
        rw [same] at taken
        exact absurd taken fresh
      · exact ih old old'
  | disposed before holding ih =>
      exact ih (held_after_disposed held).2 (held_after_disposed held').2
  | other before notCreated notDisposed ih =>
      rw [held_other notCreated notDisposed] at held held'
      exact ih held held'

theorem created_of_disposed (orderly : Orderly history)
    (gone : handle ∈ disposedHandles history) : handle ∈ createdHandles history := by
  induction orderly with
  | start => cases gone
  | created before free fresh ih =>
      rcases mem_disposed_handles_cons.1 gone with absent | old
      · cases absent
      · exact mem_created_handles_cons.2 (Or.inr (ih old))
  | disposed before holding ih =>
      rcases mem_disposed_handles_cons.1 gone with now | old
      · cases now
        exact mem_created_handles_cons.2 (Or.inr (before.handle_created holding))
      · exact mem_created_handles_cons.2 (Or.inr (ih old))
  | other before notCreated notDisposed ih =>
      rcases mem_disposed_handles_cons.1 gone with now | old
      · rw [notDisposed] at now
        cases now
      · exact mem_created_handles_cons.2 (Or.inr (ih old))

theorem not_disposed_of_held (orderly : Orderly history)
    (held : heldBy dimmer history = some live) : live.handle ∉ disposedHandles history := by
  induction orderly with
  | start => cases held
  | created before free fresh ih =>
      intro gone
      rcases mem_disposed_handles_cons.1 gone with absent | old
      · cases absent
      · rcases held_after_created held with ⟨-, rfl⟩ | ⟨-, holding⟩
        · exact fresh (before.created_of_disposed old)
        · exact ih holding old
  | disposed before holding ih =>
      obtain ⟨apart, still⟩ := held_after_disposed held
      intro gone
      rcases mem_disposed_handles_cons.1 gone with now | old
      · exact apart (before.holder_unique still holding (Option.some.inj now).symm)
      · exact ih still old
  | other before notCreated notDisposed ih =>
      rw [held_other notCreated notDisposed] at held
      intro gone
      rcases mem_disposed_handles_cons.1 gone with now | old
      · rw [notDisposed] at now
        cases now
      · exact ih held old

theorem disposed_handles_nodup (orderly : Orderly history) :
    (disposedHandles history).Nodup := by
  induction orderly with
  | start => exact List.nodup_nil
  | created before free fresh ih => exact ih
  | disposed before holding ih =>
      exact List.nodup_cons.2 ⟨before.not_disposed_of_held holding, ih⟩
  | other before notCreated notDisposed ih =>
      rw [disposed_handles_other notDisposed]
      exact ih

theorem created_handles_nodup (orderly : Orderly history) :
    (createdHandles history).Nodup := by
  induction orderly with
  | start => exact List.nodup_nil
  | created before free fresh ih => exact List.nodup_cons.2 ⟨fresh, ih⟩
  | disposed before holding ih => exact ih
  | other before notCreated notDisposed ih =>
      rw [created_handles_other notCreated]
      exact ih

theorem held_or_disposed (orderly : Orderly history)
    (registered : ⟨some dimmer, .created handle style⟩ ∈ history) :
    heldBy dimmer history = some ⟨handle, style⟩ ∨ ⟨some dimmer, .disposed handle⟩ ∈ history := by
  induction orderly with
  | start => cases registered
  | @created owner _ _ _ before free fresh ih =>
      rcases List.mem_cons.1 registered with now | old
      · cases now
        exact Or.inl held_created_self
      · rcases ih old with holding | gone
        -- Who holds a style registers no other one, so it was another dimmer that did.
        · refine Or.inl ((held_of_ne fun own => ?_).trans holding)
          rw [own, free] at holding
          cases holding
        · exact Or.inr (List.mem_cons_of_mem _ gone)
  | @disposed owner _ _ _ before held ih =>
      rcases List.mem_cons.1 registered with absurdity | old
      · cases absurdity
      · rcases ih old with holding | gone
        · by_cases own : dimmer = owner
          · subst own
            rw [held] at holding
            cases holding
            exact Or.inr List.mem_cons_self
          · exact Or.inl ((held_of_ne own).trans holding)
        · exact Or.inr (List.mem_cons_of_mem _ gone)
  | other before notCreated notDisposed ih =>
      rcases List.mem_cons.1 registered with now | old
      · cases now
        cases notCreated
      · rw [held_other notCreated notDisposed]
        exact (ih old).imp_right (List.mem_cons_of_mem _)

theorem of_append {newer older : List Happening} (orderly : Orderly (newer ++ older)) :
    Orderly older := by
  induction newer with
  | nil => exact orderly
  | cons happening newer ih =>
      cases orderly with
      | created before free fresh => exact ih before
      | disposed before held => exact ih before
      | other before notCreated notDisposed => exact ih before

theorem disposed_before_created {newer older : List Happening} {previous : Nat} {worn : Style}
    (orderly : Orderly (newer ++ ⟨some dimmer, .created handle style⟩ :: older))
    (registered : ⟨some dimmer, .created previous worn⟩ ∈ older) :
    ⟨some dimmer, .disposed previous⟩ ∈ older := by
  cases orderly.of_append with
  | created before free fresh =>
      rcases before.held_or_disposed registered with holding | gone
      · rw [free] at holding
        cases holding
      · exact gone
  | other before notCreated notDisposed => cases notCreated

theorem author_of_created {author : Option Nat} (orderly : Orderly history)
    (registered : ⟨author, .created handle style⟩ ∈ history) :
    ∃ dimmer, author = some dimmer := by
  induction orderly with
  | start => cases registered
  | created before free fresh ih =>
      rcases List.mem_cons.1 registered with now | old
      · cases now
        exact ⟨_, rfl⟩
      · exact ih old
  | disposed before holding ih =>
      rcases List.mem_cons.1 registered with absurdity | old
      · cases absurdity
      · exact ih old
  | other before notCreated notDisposed ih =>
      rcases List.mem_cons.1 registered with now | old
      · cases now
        cases notCreated
      · exact ih old

theorem out_iff_held (orderly : Orderly history) :
    handle ∈ createdHandles history ∧ handle ∉ disposedHandles history ↔
      ∃ dimmer live, heldBy dimmer history = some live ∧ live.handle = handle := by
  constructor
  · rintro ⟨given, kept⟩
    obtain ⟨⟨author, event⟩, inside, same⟩ := List.mem_filterMap.1 given
    cases event with
    | created handle style =>
        cases same
        obtain ⟨dimmer, rfl⟩ := orderly.author_of_created inside
        rcases orderly.held_or_disposed inside with holding | gone
        · exact ⟨dimmer, _, holding, rfl⟩
        · have disposed : handle ∈ disposedHandles history :=
            List.mem_filterMap.2 ⟨_, gone, rfl⟩
          exact absurd disposed kept
    | _ => cases same
  · rintro ⟨dimmer, live, holding, rfl⟩
    exact ⟨orderly.handle_created holding, orderly.not_disposed_of_held holding⟩

end Orderly

end Dimming
