import Mathlib.Data.List.Forall2
import Mathlib.Tactic.Common

set_option autoImplicit false

/-! Attempts that may fail, one after another, up to the first that does. -/

namespace Attempts

variable {Item Error Result : Type}

/-- The loop that gathers what the items give. -/
def gather (attempt : Item → Except Error (List Result)) :
    List Result → List Item → Except Error (List Result)
  | gathered, [] => .ok gathered
  | gathered, item :: rest =>
      match attempt item with
      | .ok more => gather attempt (gathered ++ more) rest
      | .error error => .error error

/-- An attempt that succeeds on the good items and fails on the others. -/
structure Decides (attempt : Item → Except Error Result) (good : Item → Prop)
    (gives : Item → Result → Prop) (blames : Item → Error → Prop) : Prop where
  ok : ∀ {item}, good item → ∃ result, attempt item = .ok result ∧ gives item result
  error : ∀ {item}, ¬good item → ∃ error, attempt item = .error error ∧ blames item error

/-- The error of the first item that is not good. -/
def BlamesFirst (good : Item → Prop) (blames : Item → Error → Prop) (items : List Item)
    (error : Error) : Prop :=
  ∃ front bad back, items = front ++ bad :: back ∧ (∀ item ∈ front, good item) ∧ ¬good bad ∧
    blames bad error

variable {attempt : Item → Except Error Result} {good : Item → Prop}
  {gives : Item → Result → Prop} {blames : Item → Error → Prop} {item : Item} {items : List Item}
  {error : Error}

theorem BlamesFirst.here (bad : ¬good item) (blamed : blames item error) :
    BlamesFirst good blames (item :: items) error := by
  refine ⟨[], item, items, rfl, ?_, bad, blamed⟩
  intro other member
  cases member

theorem BlamesFirst.later (first : good item) (blamed : BlamesFirst good blames items error) :
    BlamesFirst good blames (item :: items) error := by
  obtain ⟨front, bad, back, shape, before, offends, blames⟩ := blamed
  refine ⟨item :: front, bad, back, by rw [shape]; rfl, ?_, offends, blames⟩
  intro other member
  cases List.mem_cons.mp member with
  | inl same => exact same ▸ first
  | inr earlier => exact before other earlier

/-- Items that share an error. -/
theorem BlamesFirst.same {failure : Error}
    (blamed : BlamesFirst good (fun _ error => error = failure) items error) : error = failure := by
  obtain ⟨_, _, _, _, _, _, same⟩ := blamed
  exact same

theorem map_gives {View : Type} {view : Result → View} {expected : Item → View}
    {results : List Result}
    (given : List.Forall₂ (fun item result => view result = expected item) items results) :
    results.map view = items.map expected := by
  induction given with
  | nil => rfl
  | cons first rest ih => rw [List.map_cons, List.map_cons, first, ih]

theorem Decides.mapM (decides : Decides attempt good gives blames) :
    Decides (fun items : List Item => items.mapM attempt) (fun items => ∀ item ∈ items, good item)
      (List.Forall₂ gives) (BlamesFirst good blames) := by
  constructor
  · intro items all
    induction items with
    | nil => exact ⟨[], rfl, .nil⟩
    | cons item rest ih =>
      obtain ⟨result, done, given⟩ := decides.ok (all item List.mem_cons_self)
      obtain ⟨results, others, follow⟩ :=
        ih fun other member => all other (List.mem_cons_of_mem _ member)
      refine ⟨result :: results, ?_, .cons given follow⟩
      rw [List.mapM_cons, done, others]
      rfl
  · intro items some'
    induction items with
    | nil => exact absurd (fun item member => nomatch member) some'
    | cons item rest ih =>
      by_cases first : good item
      · have later : ¬∀ other ∈ rest, good other := by
          intro all
          apply some'
          intro other member
          cases List.mem_cons.mp member with
          | inl same => exact same ▸ first
          | inr held => exact all other held
        obtain ⟨result, done, given⟩ := decides.ok first
        obtain ⟨error, failed, blamed⟩ := ih later
        refine ⟨error, ?_, blamed.later first⟩
        rw [List.mapM_cons, done, failed]
        rfl
      · obtain ⟨error, failed, blamed⟩ := decides.error first
        refine ⟨error, ?_, .here first blamed⟩
        rw [List.mapM_cons, failed]
        rfl

/-- The loop ends at the first item that fails, whatever comes after it. -/
theorem gather_first {attempt : Item → Except Error (List Result)} {front back : List Item}
    {bad : Item} (gathered : List Result)
    (before : ∀ item ∈ front, ∃ results, attempt item = .ok results)
    (failed : attempt bad = .error error) :
    Attempts.gather attempt gathered (front ++ bad :: back) = .error error := by
  induction front generalizing gathered with
  | nil => rw [List.nil_append, Attempts.gather, failed]
  | cons item rest ih =>
    obtain ⟨results, done⟩ := before item List.mem_cons_self
    rw [List.cons_append, Attempts.gather, done]
    exact ih _ fun other member => before other (List.mem_cons_of_mem _ member)

/-- The loop gives what every item gives, in order, or nothing. -/
theorem Decides.gather {attempt : Item → Except Error (List Result)} {expected : Item → List Result}
    (decides : Decides attempt good (fun item results => results = expected item) blames)
    (gathered : List Result) :
    Decides (Attempts.gather attempt gathered) (fun items => ∀ item ∈ items, good item)
      (fun items results => results = gathered ++ items.flatMap expected)
      (BlamesFirst good blames) := by
  constructor
  · intro items all
    induction items generalizing gathered with
    | nil => exact ⟨gathered, rfl, by simp⟩
    | cons item rest ih =>
      obtain ⟨results, done, rfl⟩ := decides.ok (all item List.mem_cons_self)
      obtain ⟨results, others, rfl⟩ :=
        ih (gathered ++ expected item) fun other member => all other (List.mem_cons_of_mem _ member)
      refine ⟨_, ?_, rfl⟩
      rw [Attempts.gather, done]
      dsimp only
      rw [others, List.flatMap_cons, List.append_assoc]
  · intro items some'
    induction items generalizing gathered with
    | nil => exact absurd (fun item member => nomatch member) some'
    | cons item rest ih =>
      by_cases first : good item
      · rw [List.forall_mem_cons] at some'
        obtain ⟨results, done, _⟩ := decides.ok first
        obtain ⟨error, failed, blamed⟩ := ih (gathered ++ results) (not_and.mp some' first)
        refine ⟨error, ?_, blamed.later first⟩
        rw [Attempts.gather, done]
        exact failed
      · obtain ⟨error, failed, blamed⟩ := decides.error first
        refine ⟨error, ?_, .here first blamed⟩
        rw [Attempts.gather, failed]

end Attempts
