import Dimming.Mapping
import Mathlib.Data.List.Nodup

/-!
# Mappings without repeated keys

However a mapping is built up, a key stands in it once. Entries of different keys are a mapping as
they stand, and what is put in under one key leaves the entries of the others where they are.
-/

set_option autoImplicit false

namespace Dimming

namespace Mapping

variable {Key Value : Type} [DecidableEq Key]
variable {key : Key} {value : Value} {entry : Key × Value} {mapping changes : Mapping Key Value}

section Entries

theorem mem_put (inside : entry ∈ put key value mapping) :
    entry = (key, value) ∨ entry ∈ mapping := by
  induction mapping with
  | nil => exact Or.inl (List.mem_singleton.1 inside)
  | cons first rest ih =>
      rw [put] at inside
      split at inside
      · exact (List.mem_cons.1 inside).imp_right (List.mem_cons_of_mem first)
      · rcases List.mem_cons.1 inside with rfl | later
        · exact Or.inr List.mem_cons_self
        · exact (ih later).imp_right (List.mem_cons_of_mem first)

theorem mem_override (inside : entry ∈ override mapping changes) :
    entry ∈ changes ∨ entry ∈ mapping := by
  induction changes generalizing mapping with
  | nil => exact Or.inr inside
  | cons change changes ih =>
      rcases ih inside with later | earlier
      · exact Or.inl (List.mem_cons_of_mem change later)
      · rcases mem_put earlier with rfl | old
        · exact Or.inl List.mem_cons_self
        · exact Or.inr old

theorem mem_of_entries (inside : entry ∈ ofEntries changes) : entry ∈ changes :=
  (mem_override inside).resolve_right List.not_mem_nil

theorem get_without_self (key : Key) (mapping : Mapping Key Value) :
    (without key mapping).get? key = none := by
  induction mapping with
  | nil => rfl
  | cons first rest ih =>
      rw [without, List.filter_cons]
      by_cases same : first.1 = key
      · rw [if_neg (by simpa using same)]
        exact ih
      · rw [if_pos (by simpa using same), get?, if_neg same]
        exact ih

theorem get_without_of_ne {other : Key} (different : key ≠ other) (mapping : Mapping Key Value) :
    (without key mapping).get? other = mapping.get? other := by
  induction mapping with
  | nil => rfl
  | cons first rest ih =>
      rw [without, List.filter_cons]
      by_cases same : first.1 = key
      · have apart : first.1 ≠ other := same ▸ different
        rw [if_neg (by simpa using same), get?, if_neg apart]
        exact ih
      · rw [if_pos (by simpa using same), get?, get?]
        exact ite_congr rfl (fun _ => rfl) fun _ => ih

theorem get_put (key : Key) (value : Value) (mapping : Mapping Key Value) (other : Key) :
    (put key value mapping).get? other = if key = other then some value else mapping.get? other := by
  induction mapping with
  | nil => rfl
  | cons first rest ih =>
      rw [put]
      by_cases same : first.1 = key
      · rw [if_pos same, get?, get?, same]
        split <;> rfl
      · rw [if_neg same, get?, get?, ih]
        by_cases found : first.1 = other
        · rw [if_pos found, if_pos found, if_neg fun equal => same (found.trans equal.symm)]
        · rw [if_neg found, if_neg found]

theorem get_none_iff : mapping.get? key = none ↔ key ∉ mapping.map Prod.fst := by
  induction mapping with
  | nil => exact iff_of_true rfl List.not_mem_nil
  | cons first rest ih =>
      rw [get?, List.map_cons, List.mem_cons, not_or]
      by_cases same : first.1 = key
      · rw [if_pos same]
        exact iff_of_false (by simp) fun absent => absent.1 same.symm
      · rw [if_neg same, ih]
        exact ⟨fun absent => ⟨Ne.symm same, absent⟩, And.right⟩

theorem get_map {Other : Type} (change : Value → Other) (mapping : Mapping Key Value) (key : Key) :
    get? key (mapping.map fun entry => (entry.1, change entry.2)) =
      (mapping.get? key).map change := by
  induction mapping with
  | nil => rfl
  | cons first rest ih =>
      rw [List.map_cons, get?, get?, ih]
      split <;> rfl

theorem filter_put (keep : Key → Bool) (dropped : keep key = false) (value : Value)
    (mapping : Mapping Key Value) :
    (put key value mapping).filter (fun entry => keep entry.1) =
      mapping.filter fun entry => keep entry.1 := by
  induction mapping with
  | nil => simp [put, dropped]
  | cons first rest ih =>
      rw [put]
      split
      next same => simp [same, dropped]
      next => rw [List.filter_cons, List.filter_cons, ih]

end Entries

section Keys

theorem keys_put (key : Key) (value : Value) (mapping : Mapping Key Value) :
    (put key value mapping).map Prod.fst =
      if key ∈ mapping.map Prod.fst then mapping.map Prod.fst
      else mapping.map Prod.fst ++ [key] := by
  induction mapping with
  | nil => rfl
  | cons first rest ih =>
      rw [put]
      by_cases same : first.1 = key
      · rw [if_pos same]
        simp [same]
      · rw [if_neg same]
        simp only [List.map_cons]
        rw [ih]
        split
        next known => rw [if_pos (List.mem_cons_of_mem first.1 known)]
        next unknown =>
          rw [if_neg (List.not_mem_cons_of_ne_of_not_mem (Ne.symm same) unknown),
            List.cons_append]

theorem nodup_put (distinct : (mapping.map Prod.fst).Nodup) (key : Key) (value : Value) :
    ((put key value mapping).map Prod.fst).Nodup := by
  rw [keys_put]
  split
  next => exact distinct
  next unknown =>
      rw [← List.concat_eq_append]
      exact List.Nodup.concat unknown distinct

theorem nodup_without (distinct : (mapping.map Prod.fst).Nodup) (key : Key) :
    ((without key mapping).map Prod.fst).Nodup :=
  distinct.sublist (List.filter_sublist.map Prod.fst)

theorem get_eq_some_iff (distinct : (mapping.map Prod.fst).Nodup) :
    mapping.get? key = some value ↔ (key, value) ∈ mapping := by
  induction mapping with
  | nil => simp [get?]
  | cons first rest ih =>
      rw [List.map_cons, List.nodup_cons] at distinct
      rw [get?, List.mem_cons]
      by_cases same : first.1 = key
      · subst same
        have absent : (first.1, value) ∉ rest := fun inside =>
          distinct.1 (List.mem_map.2 ⟨_, inside, rfl⟩)
        rw [if_pos rfl, or_iff_left absent, Option.some_inj]
        exact ⟨fun same => same ▸ rfl, fun same => congrArg Prod.snd same.symm⟩
      · have apart : (key, value) ≠ first := fun equal => same (congrArg Prod.fst equal).symm
        rw [if_neg same, or_iff_right apart]
        exact ih distinct.2

theorem nodup_override (distinct : (mapping.map Prod.fst).Nodup) (changes : Mapping Key Value) :
    ((override mapping changes).map Prod.fst).Nodup := by
  induction changes generalizing mapping with
  | nil => exact distinct
  | cons change changes ih => exact ih (nodup_put distinct change.1 change.2)

theorem nodup_of_entries (entries : List (Key × Value)) :
    ((ofEntries entries).map Prod.fst).Nodup := by
  have empty : (([] : Mapping Key Value).map Prod.fst).Nodup := List.nodup_nil
  exact nodup_override empty entries

theorem get_override (distinct : (changes.map Prod.fst).Nodup) (mapping : Mapping Key Value)
    (key : Key) : (override mapping changes).get? key = (changes.get? key).or (mapping.get? key) := by
  induction changes generalizing mapping with
  | nil => rfl
  | cons change changes ih =>
      rw [List.map_cons, List.nodup_cons] at distinct
      have next : override mapping (change :: changes) =
          override (put change.1 change.2 mapping) changes := rfl
      rw [next, ih distinct.2, get_put, get?]
      by_cases same : change.1 = key
      · rw [if_pos same, if_pos same, get_none_iff.2 (same ▸ distinct.1)]
        rfl
      · rw [if_neg same, if_neg same]

theorem put_of_fresh (fresh : key ∉ mapping.map Prod.fst) :
    put key value mapping = mapping ++ [(key, value)] := by
  induction mapping with
  | nil => rfl
  | cons entry rest ih =>
      rw [List.map_cons, List.mem_cons, not_or] at fresh
      rw [put, if_neg (Ne.symm fresh.1), ih fresh.2, List.cons_append]

theorem override_of_nodup (distinct : ((mapping ++ changes).map Prod.fst).Nodup) :
    override mapping changes = mapping ++ changes := by
  induction changes generalizing mapping with
  | nil => exact (List.append_nil _).symm
  | cons entry changes ih =>
      have split : mapping ++ entry :: changes = mapping ++ [entry] ++ changes := by simp
      have fresh : entry.1 ∉ mapping.map Prod.fst := by
        intro inside
        rw [List.map_append, List.nodup_append] at distinct
        exact distinct.2.2 entry.1 inside entry.1 (by simp) rfl
      have next : override mapping (entry :: changes) =
          override (mapping ++ [entry]) changes := by
        rw [← put_of_fresh fresh]
        rfl
      rw [split] at distinct ⊢
      rw [next, ih distinct]

theorem of_entries_of_nodup {entries : List (Key × Value)}
    (distinct : (entries.map Prod.fst).Nodup) : ofEntries entries = entries :=
  override_of_nodup distinct

end Keys

end Mapping

end Dimming
