import Mathlib.Data.List.Nodup
import Mathlib.Data.List.Enum

set_option autoImplicit false

/-! The items of a list whose key is new, the first of each key. -/

namespace Firsts

variable {Item Key : Type} [DecidableEq Key]

/-- One pass with the keys seen so far. -/
def firsts (key : Item → Key) : List Key → List Item → List Item
  | _, [] => []
  | seen, item :: rest =>
      if key item ∈ seen then firsts key seen rest
      else item :: firsts key (key item :: seen) rest

variable {key : Item → Key} {seen seen' : List Key} {item : Item} {items : List Item}

theorem firsts_cons_seen (old : key item ∈ seen) :
    firsts key seen (item :: items) = firsts key seen items := if_pos old

theorem firsts_cons_new (new : key item ∉ seen) :
    firsts key seen (item :: items) = item :: firsts key (key item :: seen) items := if_neg new

theorem firsts_sublist : (firsts key seen items).Sublist items := by
  induction items generalizing seen with
  | nil => exact List.nil_sublist []
  | cons item items ih =>
      by_cases old : key item ∈ seen
      · rw [firsts_cons_seen old]
        exact ih.cons item
      · rw [firsts_cons_new old]
        exact ih.cons_cons item

/-- The keys that are kept: those that occur and are not seen before. -/
theorem mem_keys {one : Key} :
    one ∈ (firsts key seen items).map key ↔ one ∈ items.map key ∧ one ∉ seen := by
  induction items generalizing seen with
  | nil => simp [firsts]
  | cons item items ih =>
      by_cases old : key item ∈ seen
      · rw [firsts_cons_seen old, ih, List.map_cons, List.mem_cons]
        constructor
        · rintro ⟨member, new⟩
          exact ⟨.inr member, new⟩
        · rintro ⟨rfl | member, new⟩
          · exact absurd old new
          · exact ⟨member, new⟩
      · rw [firsts_cons_new old, List.map_cons, List.mem_cons, ih, List.map_cons, List.mem_cons,
          List.mem_cons, not_or]
        constructor
        · rintro (rfl | ⟨member, _, new⟩)
          · exact ⟨.inl rfl, old⟩
          · exact ⟨.inr member, new⟩
        · rintro ⟨rfl | member, new⟩
          · exact .inl rfl
          · by_cases same : one = key item
            · exact .inl same
            · exact .inr ⟨member, same, new⟩

theorem nodup_keys : ((firsts key seen items).map key).Nodup := by
  induction items generalizing seen with
  | nil => exact List.nodup_nil
  | cons item items ih =>
      by_cases old : key item ∈ seen
      · rw [firsts_cons_seen old]
        exact ih
      · rw [firsts_cons_new old, List.map_cons, List.nodup_cons]
        refine ⟨?_, ih⟩
        intro again
        exact (mem_keys.mp again).2 List.mem_cons_self

/-- Nothing is left of items whose keys are all seen. -/
theorem firsts_eq_nil (old : ∀ item ∈ items, key item ∈ seen) : firsts key seen items = [] := by
  rw [← @List.map_eq_nil_iff _ _ key, List.eq_nil_iff_forall_not_mem]
  intro one member
  obtain ⟨occurs, new⟩ := mem_keys.mp member
  obtain ⟨item, inside, rfl⟩ := List.mem_map.mp occurs
  exact new (old item inside)

/-- A pass with fewer keys seen changes nothing for a pass after it. -/
theorem firsts_firsts (fewer : seen' ⊆ seen) :
    firsts key seen (firsts key seen' items) = firsts key seen items := by
  induction items generalizing seen seen' with
  | nil => rfl
  | cons item items ih =>
      by_cases old' : key item ∈ seen'
      · rw [firsts_cons_seen old', firsts_cons_seen (fewer old'), ih fewer]
      · rw [firsts_cons_new old']
        by_cases old : key item ∈ seen
        · rw [firsts_cons_seen old, firsts_cons_seen old]
          exact ih (List.cons_subset.mpr ⟨old, fewer⟩)
        · rw [firsts_cons_new old, firsts_cons_new old]
          exact congrArg (item :: ·) (ih (List.cons_subset_cons _ fewer))

theorem firsts_map {Other : Type} (view : Other → Item) (others : List Other) :
    (firsts (fun other => key (view other)) seen others).map view =
      firsts key seen (others.map view) := by
  induction others generalizing seen with
  | nil => rfl
  | cons other others ih =>
      rw [List.map_cons]
      by_cases old : key (view other) ∈ seen
      · rw [firsts_cons_seen old]
        exact (congrArg (List.map view) (firsts_cons_seen old)).trans ih
      · rw [firsts_cons_new old]
        exact (congrArg (List.map view) (firsts_cons_new old)).trans
          (congrArg (view other :: ·) ih)

/-- The items whose key is neither seen nor that of an item before. -/
def newcomers (key : Item → Key) (seen : List Key) (items : List Item) : List Item :=
  (items.zipIdx.filter fun entry =>
    decide (key entry.1 ∉ seen ∧ key entry.1 ∉ (items.take entry.2).map key)).map Prod.fst

/-- The pass over what follows `before`, with the keys of `before` seen too. -/
theorem firsts_eq_newcomers_from {before : List Item} {keys : List Key}
    (passed : ∀ one, one ∈ keys ↔ one ∈ seen ∨ one ∈ before.map key) :
    firsts key keys items = ((items.zipIdx before.length).filter fun entry =>
      decide (key entry.1 ∉ seen ∧ key entry.1 ∉ ((before ++ items).take entry.2).map key)).map
        Prod.fst := by
  induction items generalizing before keys with
  | nil => rfl
  | cons item items ih =>
      have place : (before ++ item :: items).take before.length = before := List.take_left
      have shift : before ++ item :: items = (before ++ [item]) ++ items := by simp
      have length : before.length + 1 = (before ++ [item]).length := by simp
      rw [List.zipIdx_cons, List.filter_cons]
      simp only [place]
      by_cases old : key item ∈ keys
      · have stays : ∀ one, one ∈ keys ↔ one ∈ seen ∨ one ∈ (before ++ [item]).map key := by
          intro one
          rw [passed, List.map_append, List.mem_append, List.map_singleton, List.mem_singleton,
            ← or_assoc, iff_self_or]
          rintro rfl
          exact (passed _).mp old
        have refused : ¬(key item ∉ seen ∧ key item ∉ before.map key) := by
          rw [← not_or, not_not]
          exact (passed _).mp old
        rw [firsts_cons_seen old, if_neg (by simpa using refused), shift, length, ih stays]
      · have grows : ∀ one, one ∈ key item :: keys ↔
            one ∈ seen ∨ one ∈ (before ++ [item]).map key := by
          intro one
          rw [List.mem_cons, passed, List.map_append, List.mem_append, List.map_singleton,
            List.mem_singleton, or_comm, or_assoc]
        have accepted : key item ∉ seen ∧ key item ∉ before.map key := by
          rw [← not_or]
          exact mt (passed _).mpr old
        rw [firsts_cons_new old, if_pos (by simpa using accepted), List.map_cons, shift, length,
          ih grows]

theorem firsts_eq_newcomers : firsts key seen items = newcomers key seen items :=
  @firsts_eq_newcomers_from Item Key _ key seen items [] seen (by simp)

end Firsts
