import Soc360.Scans.Config

set_option autoImplicit false

/-! When two decoded documents are the same JSON value. -/

namespace Scans

mutual

/-- The same JSON value: a number is its value, and no boolean is a number. -/
def Json.same : Json → Json → Bool
  | .null, other => match other with
    | .null => true
    | _ => false
  | .bool value, other => match other with
    | .bool value' => value == value'
    | _ => false
  | .int value, other => !other.isBool && other.number? == some (value : ℚ)
  | .float value, other => !other.isBool && other.number? == some value
  | .str value, other => match other with
    | .str value' => value == value'
    | _ => false
  | .arr items, other => match other with
    | .arr items' => sameItems items items'
    | _ => false
  | .obj fields, other => match other with
    | .obj fields' => fields.length == fields'.length && sameFields fields fields'
    | _ => false

def Json.sameItems : List Json → List Json → Bool
  | [], others => others.isEmpty
  | item :: items, others => match others with
    | [] => false
    | item' :: items' => item.same item' && sameItems items items'

def Json.sameFields : JsonObject → JsonObject → Bool
  | [], _ => true
  | (key, value) :: fields, others =>
      (match others.lookup key with
        | some value' => value.same value'
        | none => false) && sameFields fields others

end

mutual

/-- The keys of every object are distinct, as those of a `dict` are. -/
def Json.Distinct : Json → Prop
  | .arr items => Json.DistinctItems items
  | .obj fields => (fields.map Prod.fst).Nodup ∧ Json.DistinctFields fields
  | _ => True

def Json.DistinctItems : List Json → Prop
  | [] => True
  | item :: items => item.Distinct ∧ Json.DistinctItems items

def Json.DistinctFields : JsonObject → Prop
  | [] => True
  | (_, value) :: fields => value.Distinct ∧ Json.DistinctFields fields

end

mutual

/-- Python's `==` holds of the same values. -/
theorem Json.pyEq_of_same (value other : Json) (same : value.same other = true) :
    value.pyEq other = true := by
  cases value with
  | null => exact same
  | bool value =>
      cases other with
      | bool value' =>
          rw [Json.same, beq_iff_eq] at same
          rw [same, Json.pyEq, Json.number?, beq_self_eq_true]
      | null => cases same
      | int value' => cases same
      | float value' => cases same
      | str value' => cases same
      | arr items => cases same
      | obj fields => cases same
  | int value =>
      rw [Json.same, Bool.and_eq_true] at same
      exact same.2
  | float value =>
      rw [Json.same, Bool.and_eq_true] at same
      exact same.2
  | str value => exact same
  | arr items =>
      cases other with
      | arr items' => exact pyEqItems_of_same items items' same
      | null => cases same
      | bool value' => cases same
      | int value' => cases same
      | float value' => cases same
      | str value' => cases same
      | obj fields => cases same
  | obj fields =>
      cases other with
      | obj fields' =>
          rw [Json.same, Bool.and_eq_true] at same
          rw [Json.pyEq, same.1, pyEqFields_of_same fields fields' same.2, Bool.and_self]
      | null => cases same
      | bool value' => cases same
      | int value' => cases same
      | float value' => cases same
      | str value' => cases same
      | arr items => cases same

theorem Json.pyEqItems_of_same (items others : List Json)
    (same : Json.sameItems items others = true) : Json.pyEqItems items others = true := by
  cases items with
  | nil => exact same
  | cons item items =>
      cases others with
      | nil => cases same
      | cons item' items' =>
          rw [Json.sameItems, Bool.and_eq_true] at same
          rw [Json.pyEqItems, pyEq_of_same item item' same.1,
            pyEqItems_of_same items items' same.2, Bool.and_self]

theorem Json.pyEqFields_of_same (fields others : JsonObject)
    (same : Json.sameFields fields others = true) : Json.pyEqFields fields others = true := by
  cases fields with
  | nil => rfl
  | cons field fields =>
      obtain ⟨key, value⟩ := field
      rw [Json.sameFields, Bool.and_eq_true] at same
      rw [Json.pyEqFields, pyEqFields_of_same fields others same.2, Bool.and_true]
      cases found : others.lookup key with
      | none =>
          rw [found] at same
          cases same.1
      | some value' =>
          rw [found] at same
          exact pyEq_of_same value value' same.1

end

theorem lookup_of_mem {fields : JsonObject} {key : String} {value : Json}
    (distinct : (fields.map Prod.fst).Nodup) (member : (key, value) ∈ fields) :
    fields.lookup key = some value := by
  obtain ⟨front, back, rfl⟩ := List.append_of_mem member
  apply List.lookup_eq_some_iff.mpr
  refine ⟨front, back, rfl, ?_⟩
  intro field earlier
  rw [List.map_append, List.map_cons, List.nodup_append] at distinct
  have apart := distinct.2.2 field.1 (List.mem_map_of_mem earlier) key List.mem_cons_self
  exact bne_iff_ne.mpr apart.symm

mutual

theorem Json.same_refl (value : Json) (distinct : value.Distinct) : value.same value = true := by
  cases value with
  | null => rfl
  | bool value => exact beq_self_eq_true value
  | int value => exact beq_self_eq_true _
  | float value => exact beq_self_eq_true _
  | str value => exact beq_self_eq_true value
  | arr items => exact sameItems_refl items distinct
  | obj fields =>
      have found : ∀ field ∈ fields, fields.lookup field.1 = some field.2 :=
        fun _ member => lookup_of_mem distinct.1 member
      rw [Json.same, sameFields_refl fields fields found distinct.2, beq_self_eq_true,
        Bool.and_self]

theorem Json.sameItems_refl (items : List Json) (distinct : Json.DistinctItems items) :
    Json.sameItems items items = true := by
  cases items with
  | nil => rfl
  | cons item items =>
      rw [Json.sameItems, same_refl item distinct.1, sameItems_refl items distinct.2,
        Bool.and_self]

theorem Json.sameFields_refl (fields others : JsonObject)
    (found : ∀ field ∈ fields, others.lookup field.1 = some field.2)
    (distinct : Json.DistinctFields fields) : Json.sameFields fields others = true := by
  cases fields with
  | nil => rfl
  | cons field fields =>
      obtain ⟨key, value⟩ := field
      have here : others.lookup key = some value := found (key, value) List.mem_cons_self
      have later : ∀ field ∈ fields, others.lookup field.1 = some field.2 :=
        fun field member => found field (List.mem_cons_of_mem _ member)
      rw [Json.sameFields, here, sameFields_refl fields others later distinct.2, Bool.and_true]
      exact same_refl value distinct.1

end

/-- What Python finds different is another value. -/
theorem Json.not_same_of_not_pyEq {value other : Json} (differs : value.pyEq other ≠ true) :
    value.same other = false := by
  apply Bool.eq_false_iff.mpr
  intro same
  exact differs (pyEq_of_same value other same)

end Scans
