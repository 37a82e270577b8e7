import Dimming.Proofs.Session.Connection

/-!
# Who is registered

Which wirings were registered and not disposed of since can be told from the operations alone.
The callbacks of the window and the listeners of the settings are those wirings, in the order of
their registration, and no dimmer has two of them.
-/

set_option autoImplicit false

namespace Dimming

open Dimming.Action

/-- Whether a dimmer is switched on, and the wiring that was registered for it last. -/
structure Post where
  isOn : Bool
  last : Option Nat
deriving DecidableEq

namespace Post

def idle : Post := ⟨false, none⟩

def wiring (post : Post) : Option Nat := if post.isOn then post.last else none

def ties (post : Post) : Option Nat × Option Nat := (post.wiring, post.last)

end Post

namespace Dimmer

def ties (dimmer : Dimmer) : Option Nat × Option Nat := (dimmer.wiring, dimmer.lastWiring)

end Dimmer

/-- The dimmers by their numbers, the dimmer that each wiring was registered for, and the wirings
that were disposed of. -/
structure Roster where
  posts : List Post
  owners : List Nat
  ended : List Nat
deriving DecidableEq

namespace Roster

def start : Roster := ⟨[.idle], [], []⟩

def last? (roster : Roster) (dimmer : Nat) : Option Nat := roster.posts[dimmer]?.bind (·.last)

def isOn (roster : Roster) (dimmer : Nat) : Bool := roster.posts[dimmer]?.any (·.isOn)

/-- The wirings that were registered and not disposed of, in the order of registration. -/
def following (roster : Roster) : List Nat :=
  (List.range roster.owners.length).filter fun wiring => !roster.ended.contains wiring

def registered (roster : Roster) (dimmer : Nat) : Roster :=
  { roster with
    posts := roster.posts.modify dimmer fun _ => ⟨true, some roster.owners.length⟩
    owners := roster.owners ++ [dimmer] }

def ending (roster : Roster) (wiring : Nat) : Roster :=
  { roster with ended := roster.ended ++ [wiring] }

def released (roster : Roster) (dimmer : Nat) : Roster :=
  match roster.last? dimmer with
  | none => roster
  | some wiring => roster.ending wiring

def retired (roster : Roster) (dimmer : Nat) : Roster :=
  { roster with posts := roster.posts.modify dimmer fun post => { post with isOn := false } }

def joined (roster : Roster) : Roster := { roster with posts := roster.posts ++ [.idle] }

/-- What an operation changes. A dimmer that is on is not registered a second time. -/
def after (roster : Roster) : Operation → Roster
  | .newDimmer => roster.joined
  | .activate dimmer =>
      match roster.posts[dimmer]? with
      | none => roster
      | some post => if post.isOn then roster else roster.registered dimmer
  | .deactivate dimmer =>
      if roster.isOn dimmer then (roster.released dimmer).retired dimmer else roster
  | .disposeWiring dimmer => roster.released dimmer
  | _ => roster

def ofOperations (operations : List Operation) : Roster := operations.foldl after start

/-- The wiring that a dimmer had last was registered for it, a dimmer that is on had one, and a
wiring that was not disposed of is the one that its dimmer is on with. -/
structure Consistent (roster : Roster) : Prop where
  posted : ∀ {dimmer wiring}, roster.last? dimmer = some wiring →
    roster.owners[wiring]? = some dimmer
  manned : ∀ {dimmer}, roster.isOn dimmer = true → roster.last? dimmer ≠ none
  current : ∀ {dimmer wiring}, wiring ∉ roster.ended → roster.owners[wiring]? = some dimmer →
    roster.posts[dimmer]? = some ⟨true, some wiring⟩
  numbered : ∀ {wiring}, wiring ∈ roster.ended → wiring < roster.owners.length

section Following

variable {roster : Roster} {dimmer wiring : Nat}

theorem mem_following_iff :
    wiring ∈ roster.following ↔ wiring < roster.owners.length ∧ wiring ∉ roster.ended := by
  simp [following]

theorem following_ordered (roster : Roster) : roster.following.Pairwise (· < ·) :=
  List.pairwise_lt_range.filter _

theorem following_registered (consistent : roster.Consistent) (dimmer : Nat) :
    (roster.registered dimmer).following = roster.following ++ [roster.owners.length] := by
  have fresh : roster.owners.length ∉ roster.ended := fun gone =>
    Nat.lt_irrefl _ (consistent.numbered gone)
  simp [following, registered, List.range_succ, fresh]

theorem following_ending (roster : Roster) (wiring : Nat) :
    (roster.ending wiring).following = roster.following.erase wiring := by
  have once : roster.following.Nodup := (following_ordered roster).imp Nat.ne_of_lt
  rw [once.erase_eq_filter, following, following, List.filter_filter]
  apply List.filter_congr
  intro other _
  by_cases same : other = wiring <;> simp [ending, same]

end Following

section Posts

variable {roster : Roster} {dimmer other wiring : Nat}

theorem registered_post_self (known : dimmer < roster.posts.length) :
    (roster.registered dimmer).posts[dimmer]? = some ⟨true, some roster.owners.length⟩ := by
  simp [registered, known]

theorem registered_post_of_ne (apart : dimmer ≠ other) :
    (roster.registered dimmer).posts[other]? = roster.posts[other]? :=
  List.getElem?_modify_ne _ _ apart

theorem retired_post_of_ne (apart : dimmer ≠ other) :
    (roster.retired dimmer).posts[other]? = roster.posts[other]? :=
  List.getElem?_modify_ne _ _ apart

theorem retired_last (roster : Roster) (dimmer other : Nat) :
    (roster.retired dimmer).last? other = roster.last? other := by
  unfold last?
  by_cases own : dimmer = other
  · subst own
    unfold retired
    rw [List.getElem?_modify_eq]
    cases roster.posts[dimmer]? <;> rfl
  · rw [retired_post_of_ne own]

theorem retired_off (roster : Roster) (dimmer : Nat) :
    (roster.retired dimmer).isOn dimmer = false := by
  unfold isOn retired
  rw [List.getElem?_modify_eq]
  cases roster.posts[dimmer]? <;> rfl

theorem released_posts (roster : Roster) (dimmer : Nat) :
    (roster.released dimmer).posts = roster.posts := by
  unfold released
  split <;> rfl

theorem released_ended (last : (roster.released dimmer).last? dimmer = some wiring) :
    wiring ∈ (roster.released dimmer).ended := by
  unfold released at last ⊢
  split at last
  next absent =>
      rw [absent] at last
      cases last
  next other own =>
      change roster.last? dimmer = some wiring at last
      cases own.symm.trans last
      exact List.mem_append_right _ (List.mem_singleton_self _)

theorem joined_post (roster : Roster) (dimmer : Nat) :
    roster.joined.posts[dimmer]? = roster.posts[dimmer]? ∨
      roster.joined.posts[dimmer]? = some .idle := by
  unfold joined
  rcases Nat.lt_trichotomy dimmer roster.posts.length with old | rfl | beyond
  · exact Or.inl (List.getElem?_append_left old)
  · exact Or.inr List.getElem?_concat_length
  · left
    rw [List.getElem?_eq_none (Nat.le_of_lt beyond), List.getElem?_eq_none]
    simpa using Nat.succ_le_of_lt beyond

end Posts

theorem after_of_settled {operation : Operation} (roster : Roster)
    (settled : operation.isRewiring = false) : roster.after operation = roster := by
  cases operation with
  | activate | deactivate | newDimmer | disposeWiring => cases settled
  | _ => rfl

theorem after_activate_cases (roster : Roster) (dimmer : Nat) :
    (roster.posts[dimmer]? = none ∧ roster.after (.activate dimmer) = roster) ∨
      (roster.isOn dimmer = true ∧ roster.after (.activate dimmer) = roster) ∨
      ∃ post, roster.posts[dimmer]? = some post ∧ post.isOn = false ∧
        roster.after (.activate dimmer) = roster.registered dimmer := by
  unfold after isOn
  dsimp only
  cases roster.posts[dimmer]? with
  | none => exact Or.inl ⟨rfl, rfl⟩
  | some post =>
      cases on : post.isOn with
      | true => exact Or.inr (Or.inl ⟨on, if_pos on⟩)
      | false => exact Or.inr (Or.inr ⟨post, rfl, on, if_neg (Bool.eq_false_iff.1 on)⟩)

theorem after_of_unknown {operation : Operation} {roster : Roster} {dimmer : Nat}
    (concerned : operation.dimmer? = some dimmer) (unknown : roster.posts[dimmer]? = none) :
    roster.after operation = roster := by
  cases operation <;> cases concerned <;> simp [after, isOn, released, last?, unknown]

namespace Consistent

variable {roster : Roster} {dimmer wiring : Nat}

theorem start : Roster.start.Consistent where
  posted := by
    intro dimmer wiring last
    cases dimmer <;> cases last
  manned := by
    intro dimmer on
    cases dimmer <;> cases on
  current := by
    intro dimmer wiring _ owned
    cases owned
  numbered := fun gone => absurd gone List.not_mem_nil

theorem known_of_owned (consistent : roster.Consistent)
    (last : roster.last? dimmer = some wiring) : wiring < roster.owners.length :=
  (List.getElem?_eq_some_iff.1 (consistent.posted last)).1

theorem registered (consistent : roster.Consistent) (known : dimmer < roster.posts.length)
    (off : roster.isOn dimmer = false) : (roster.registered dimmer).Consistent where
  posted := by
    intro other wiring last
    by_cases own : dimmer = other
    · subst own
      unfold last? at last
      rw [registered_post_self known] at last
      cases last
      exact List.getElem?_concat_length
    · unfold last? at last
      rw [registered_post_of_ne own] at last
      exact (List.getElem?_append_left (consistent.known_of_owned last)).trans
        (consistent.posted last)
  manned := by
    intro other on
    by_cases own : dimmer = other
    · subst own
      unfold last?
      rw [registered_post_self known]
      exact Option.some_ne_none _
    · unfold isOn last? at *
      rw [registered_post_of_ne own] at on ⊢
      exact consistent.manned on
  current := by
    intro other wiring kept owned
    by_cases old : wiring < roster.owners.length
    · have owned : roster.owners[wiring]? = some other :=
        (List.getElem?_append_left old).symm.trans owned
      have post := consistent.current kept owned
      by_cases own : dimmer = other
      · subst own
        unfold isOn at off
        rw [post] at off
        cases off
      · exact (registered_post_of_ne own).trans post
    · have bound := (List.getElem?_eq_some_iff.1 owned).1
      have last : wiring = roster.owners.length := by
        simp [Roster.registered] at bound
        omega
      subst last
      cases List.getElem?_concat_length.symm.trans owned
      exact registered_post_self known
  numbered := by
    intro wiring gone
    simp only [Roster.registered, List.length_append]
    exact Nat.lt_add_right _ (consistent.numbered gone)

theorem ending (consistent : roster.Consistent) (known : wiring < roster.owners.length) :
    (roster.ending wiring).Consistent where
  posted := consistent.posted
  manned := consistent.manned
  current := fun kept owned =>
    consistent.current (fun gone => kept (List.mem_append_left _ gone)) owned
  numbered := by
    intro other gone
    rcases List.mem_append.1 gone with old | now
    · exact consistent.numbered old
    · rw [List.mem_singleton.1 now]
      exact known

theorem released (consistent : roster.Consistent) (dimmer : Nat) :
    (roster.released dimmer).Consistent := by
  unfold Roster.released
  split
  next => exact consistent
  next wiring last => exact consistent.ending (consistent.known_of_owned last)

theorem retired (consistent : roster.Consistent)
    (gone : ∀ wiring, roster.last? dimmer = some wiring → wiring ∈ roster.ended) :
    (roster.retired dimmer).Consistent where
  posted := by
    intro other wiring last
    rw [retired_last] at last
    exact consistent.posted last
  manned := by
    intro other on
    rw [retired_last]
    by_cases own : dimmer = other
    · subst own
      rw [retired_off] at on
      cases on
    · unfold isOn at on
      rw [retired_post_of_ne own] at on
      exact consistent.manned on
  current := by
    intro other wiring kept owned
    have post := consistent.current kept owned
    by_cases own : dimmer = other
    · subst own
      have last : roster.last? dimmer = some wiring := by
        unfold last?
        rw [post]
        rfl
      exact absurd (gone wiring last) kept
    · exact (retired_post_of_ne own).trans post
  numbered := consistent.numbered

theorem joined (consistent : roster.Consistent) : roster.joined.Consistent where
  posted := by
    intro dimmer wiring last
    unfold last? at last
    rcases joined_post roster dimmer with old | new
    · rw [old] at last
      exact consistent.posted last
    · rw [new] at last
      cases last
  manned := by
    intro dimmer on
    unfold isOn last? at *
    rcases joined_post roster dimmer with old | new
    · rw [old] at on ⊢
      exact consistent.manned on
    · rw [new] at on
      cases on
  current := by
    intro dimmer wiring kept owned
    have post := consistent.current kept owned
    exact (List.getElem?_append_left (List.getElem?_eq_some_iff.1 post).1).trans post
  numbered := consistent.numbered

theorem after (consistent : roster.Consistent) (operation : Operation) :
    (roster.after operation).Consistent := by
  unfold Roster.after
  split
  next => exact consistent.joined
  next dimmer =>
      split
      next => exact consistent
      next post found =>
          split
          next => exact consistent
          next off =>
              refine consistent.registered (List.getElem?_eq_some_iff.1 found).1 ?_
              unfold isOn
              rw [found]
              exact Bool.eq_false_iff.2 off
  next dimmer =>
      split
      next => exact (consistent.released dimmer).retired fun wiring => released_ended
      next => exact consistent
  next dimmer => exact consistent.released dimmer
  next => exact consistent

theorem of_operations (operations : List Operation) :
    (Roster.ofOperations operations).Consistent :=
  List.foldlRecOn operations Roster.after start fun _ consistent operation _ =>
    consistent.after operation

end Consistent

end Roster

end Dimming
