import Mathlib.Logic.Basic

set_option autoImplicit false

/-! A chain of checks: the first one that fails gives the error. -/

namespace Except

variable {Error Value Result : Type}

theorem bind_eq_ok {first : Except Error Value} {rest : Value → Except Error Result}
    {result : Result} :
    (first >>= rest) = .ok result ↔ ∃ value, first = .ok value ∧ rest value = .ok result := by
  cases first with
  | error reason => simp [bind, Except.bind]
  | ok value => simp [bind, Except.bind]

theorem bind_of_ok {first : Except Error Value} {rest : Value → Except Error Result}
    {value : Value} (passed : first = .ok value) : (first >>= rest) = rest value := by
  rw [passed]
  rfl

theorem ok_bind {rest : Value → Except Error Result} {value : Value} :
    (Except.ok value >>= rest) = rest value := rfl

theorem error_bind {rest : Value → Except Error Result} {error : Error} :
    (Except.error error >>= rest) = .error error := rfl

theorem bind_eq_error {first : Except Error Value} {rest : Value → Except Error Result}
    {error : Error} :
    (first >>= rest) = .error error ↔
      first = .error error ∨ ∃ value, first = .ok value ∧ rest value = .error error := by
  cases first with
  | error reason => simp [bind, Except.bind]
  | ok value => simp [bind, Except.bind]

theorem mapError_error {Raised : Type} {raise : Error → Raised} {error : Error} :
    (Except.error error : Except Error Value).mapError raise = .error (raise error) := rfl

theorem mapError_ok {Raised : Type} {raise : Error → Raised} {value : Value} :
    (Except.ok value : Except Error Value).mapError raise = .ok value := rfl

theorem mapError_eq_error {Raised : Type} {first : Except Error Value} {raise : Error → Raised}
    {raised : Raised} :
    first.mapError raise = .error raised ↔ ∃ error, first = .error error ∧ raise error = raised := by
  cases first with
  | error reason => simp [mapError_error]
  | ok value => simp [mapError_ok]

theorem mapError_eq_ok {Raised : Type} {first : Except Error Value} {raise : Error → Raised}
    {value : Value} : first.mapError raise = .ok value ↔ first = .ok value := by
  cases first with
  | error reason => simp [mapError_error]
  | ok value => simp [mapError_ok]

/-- Raise the error where the condition holds. -/
def refuse (condition : Bool) (error : Error) : Except Error Unit :=
  if condition then .error error else .ok ()

theorem refuse_ok {condition : Bool} {error : Error} {done : Unit} :
    refuse condition error = .ok done ↔ condition = false := by
  cases condition
  · simp [refuse]
  · simp [refuse]

theorem refuse_error {condition : Bool} {error raised : Error} :
    refuse condition error = .error raised ↔ condition = true ∧ error = raised := by
  cases condition
  · simp [refuse]
  · simp [refuse]

/-- Whatever the computation raises is among the given errors. -/
def RaisesOnly (holds : Error → Prop) (result : Except Error Value) : Prop :=
  ∀ error, result = .error error → holds error

section

variable {holds : Error → Prop}

theorem raisesOnly_ok {value : Value} : (Except.ok value : Except Error Value).RaisesOnly holds :=
  nofun

theorem raisesOnly_error {error : Error} :
    (Except.error error : Except Error Value).RaisesOnly holds ↔ holds error := by
  simp [RaisesOnly]

theorem raisesOnly_never {result : Except Error Value} :
    result.RaisesOnly (fun _ => False) ↔ ∃ value, result = .ok value := by
  cases result with
  | error reason => simp [RaisesOnly]
  | ok value => simp [RaisesOnly]

theorem raisesOnly_bind {first : Except Error Value} {rest : Value → Except Error Result} :
    (first >>= rest).RaisesOnly holds ↔
      first.RaisesOnly holds ∧ ∀ value, first = .ok value → (rest value).RaisesOnly holds := by
  cases first with
  | error reason => simp [RaisesOnly, bind, Except.bind]
  | ok value => simp [RaisesOnly, bind, Except.bind]

theorem raisesOnly_refuse {condition : Bool} {error : Error} :
    (refuse condition error).RaisesOnly holds ↔ (condition = true → holds error) := by
  cases condition with
  | false => simp [RaisesOnly, refuse]
  | true => simp [RaisesOnly, refuse]

/-- A check whose error is not among them. -/
theorem raisesOnly_refuse_bind {condition : Bool} {error : Error}
    {rest : Unit → Except Error Result} (stray : ¬ holds error) :
    (refuse condition error >>= rest).RaisesOnly holds ↔
      condition = false ∧ (rest ()).RaisesOnly holds := by
  cases condition with
  | false => simp [refuse, ok_bind]
  | true => simp [refuse, error_bind, raisesOnly_error, stray]

theorem raisesOnly_mapError {Raised : Type} {first : Except Error Value} {raise : Error → Raised}
    {holds : Raised → Prop} :
    (first.mapError raise).RaisesOnly holds ↔ first.RaisesOnly fun error => holds (raise error) := by
  cases first with
  | error reason => simp [RaisesOnly, mapError_error]
  | ok value => simp [RaisesOnly, mapError_ok]

end

end Except
