import Soc360.Auth.RateLimit

set_option autoImplicit false

/-! Calls of `record_failure` side by side, one Redis command at a time. -/

namespace RateLimit.Lockouts

/-- `observed` is who last counted on a key, and when that call began. -/
structure World where
  now : Time
  store : RateStore
  calls : Nat → Option Failure
  observed : RateKey → Option (Nat × Time)

inductive Label where
  | begin (task : Nat) (ip email : String)
  | command (task : Nat)
  | tick (elapsed : Time)

def World.initial (now : Time) : World := ⟨now, .empty, fun _ => none, fun _ => none⟩

section

variable (windowSeconds : Nat) (hashEmail : String → String)

def step (world : World) : Label → Option World
  | .begin task ip email =>
      match world.calls task with
      | none => some { world with
          calls := Function.update world.calls task (some (.begin hashEmail world.now ip email)) }
      | some _ => none
  | .command task =>
      match world.calls task with
      | none => none
      | some call =>
          (call.next windowSeconds world.now .ok world.store).map fun (stage, store) =>
            { world with
              store := store
              calls := Function.update world.calls task (some { call with stage := stage })
              observed :=
                match call.stage with
                | .increment key _ =>
                    Function.update world.observed key (some (task, call.start))
                | _ => world.observed }
  | .tick elapsed =>
      if 0 ≤ elapsed then
        some { world with
          now := world.now + elapsed, store := Expiring.sweep (world.now + elapsed) world.store }
      else none

def machine : Machine World Label where
  start := fun world => ∃ now, 0 ≤ now ∧ world = .initial now
  step := step windowSeconds hashEmail

/-- When a key goes away, or would go away after an EXPIRE now. -/
def deadline (now : Time) (store : RateStore) (key : RateKey) : Time :=
  ((store key).bind Entry.expiresAt).getD (now + keyTtl windowSeconds)

/-- No other call has raised the lock between the HGET of a call and its HSET, and what is left of
the lock when the call begins fits into the TTL together with the lockout that is added to it. -/
def CallFits (store : RateStore) (call : Failure) : Prop :=
  match call.stage with
  | .writeLock key failures current _ =>
      store.lockedUntil key ≤ current ∧
        max 0 (current - call.start) + lockoutSeconds failures ≤ keyTtl windowSeconds
  | _ => True

def Fits (world : World) : Label → Prop
  | .command task => ∀ call ∈ world.calls task, CallFits windowSeconds world.store call
  | _ => True

end

instance (windowSeconds : Nat) (store : RateStore) :
    ∀ call : Failure, Decidable (CallFits windowSeconds store call)
  | ⟨_, _, _, .writeLock _ _ _ _⟩ => inferInstanceAs (Decidable (_ ∧ _))
  | ⟨_, _, _, .increment _ _⟩ => .isTrue trivial
  | ⟨_, _, _, .expire _ _ _⟩ => .isTrue trivial
  | ⟨_, _, _, .readLock _ _ _⟩ => .isTrue trivial
  | ⟨_, _, _, .readIp⟩ => .isTrue trivial
  | ⟨_, _, _, .readEmail _⟩ => .isTrue trivial
  | ⟨_, _, _, .returned _⟩ => .isTrue trivial
  | ⟨_, _, _, .raised⟩ => .isTrue trivial

instance (windowSeconds : Nat) (world : World) :
    ∀ label, Decidable (Fits windowSeconds world label)
  | .begin _ _ _ => .isTrue trivial
  | .command task => inferInstanceAs (Decidable (∀ call ∈ world.calls task, _))
  | .tick _ => .isTrue trivial

/-- A count that calls for a lockout has one from the start of the call that made it, or that call
is still under way. -/
def Observed (world : World) (key : RateKey) : Prop :=
  0 < lockoutSeconds (world.store.failures key) →
    ∃ task start, world.observed key = some (task, start) ∧
      (start + lockoutSeconds (world.store.failures key) ≤ world.store.lockedUntil key ∨
        ∃ call, world.calls task = some call ∧ call.start = start ∧
          call.stage.On key (world.store.failures key))

/-- No lock outlives its key. -/
def Covered (windowSeconds : Nat) (now : Time) (store : RateStore) : Prop :=
  ∀ key entry time, store key = some entry → entry.value.lockedUntil = some time →
    time ≤ entry.expiresAt.getD (now + keyTtl windowSeconds)

/-- The key that a call has given its TTL, until it has locked it. -/
def Refreshed (key : RateKey) : Recording → Prop
  | .readLock key' _ _ => key' = key
  | .writeLock key' _ _ _ => key' = key
  | _ => False

/-- A key that a call has refreshed stays for the TTL since the call began, or is made anew. -/
def Timely (windowSeconds : Nat) (now : Time) (store : RateStore) (call : Failure) : Prop :=
  call.start ≤ now ∧ ∀ key, Refreshed key call.stage →
    call.start + keyTtl windowSeconds ≤ deadline windowSeconds now store key

structure Sound (windowSeconds : Nat) (world : World) : Prop where
  now : 0 ≤ world.now
  timely : ∀ task call, world.calls task = some call →
    Timely windowSeconds world.now world.store call
  within : Expiring.Each (· ≤ world.now + keyTtl windowSeconds) world.store
  covered : Covered windowSeconds world.now world.store
  observed : ∀ key, Observed world key

section

variable {windowSeconds : Nat} {hashEmail : String → String} {world next : World} {label : Label}
  {store : RateStore} {key : RateKey} {now time : Time} {call : Failure}

/-- A key whose count stays as it is, and whose lock does not shrink. -/
theorem Observed.keep (observed : Observed world key)
    (failures : next.store.failures key = world.store.failures key)
    (locked : world.store.lockedUntil key ≤ next.store.lockedUntil key)
    (observer : next.observed key = world.observed key)
    (calls : ∀ task call, world.calls task = some call →
      call.stage.On key (world.store.failures key) →
      0 < lockoutSeconds (world.store.failures key) →
      (∃ call', next.calls task = some call' ∧ call'.start = call.start ∧
        call'.stage.On key (world.store.failures key)) ∨
      call.start + lockoutSeconds (world.store.failures key) ≤ next.store.lockedUntil key) :
    Observed next key := by
  intro locks
  rw [failures] at locks ⊢
  obtain ⟨task, start, seen, held⟩ := observed locks
  refine ⟨task, start, observer.trans seen, ?_⟩
  rcases held with held | ⟨call, there, rfl, on⟩
  · exact .inl (le_trans held locked)
  · rcases calls task call there on locks with ⟨call', there', start', on'⟩ | held
    · exact .inr ⟨call', there', start', on'⟩
    · exact .inl held

theorem keyTtl_nonneg : 0 ≤ keyTtl windowSeconds := by
  unfold keyTtl
  positivity

theorem not_refreshed_turn {rest : List RateKey} : ¬Refreshed key (.turn rest) := by
  cases rest with
  | nil => exact id
  | cons first rest => exact id

theorem deadline_write {other : RateKey} {change : Option RateHash → RateHash} :
    deadline windowSeconds now (Expiring.write key change store) other =
      deadline windowSeconds now store other := by
  by_cases same : other = key
  · subst same
    rw [deadline, Expiring.write_self]
    rfl
  · rw [deadline, Expiring.write_other same]
    rfl

theorem deadline_hincrby {other : RateKey} : deadline windowSeconds now (store.hincrby key) other =
    deadline windowSeconds now store other := deadline_write

theorem deadline_hset {other : RateKey} : deadline windowSeconds now (store.hset key time) other =
    deadline windowSeconds now store other := deadline_write

/-- An EXPIRE brings no end of a key nearer. -/
theorem deadline_expire {other : RateKey}
    (within : Expiring.Each (· ≤ now + keyTtl windowSeconds) store) :
    deadline windowSeconds now store other ≤ deadline windowSeconds now
      (Expiring.expire key (now + keyTtl windowSeconds) store) other := by
  by_cases same : other = key
  · subst same
    unfold deadline
    rw [Expiring.expire_self]
    cases there : store other with
    | none => exact le_refl _
    | some entry =>
        change entry.expiresAt.getD _ ≤ now + keyTtl windowSeconds
        cases expires : entry.expiresAt with
        | none => exact le_refl _
        | some time => exact within other entry time there expires
  · unfold deadline
    rw [Expiring.expire_other same]

theorem deadline_expire_self : deadline windowSeconds now
    (Expiring.expire key (now + keyTtl windowSeconds) store) key = now + keyTtl windowSeconds := by
  unfold deadline
  rw [Expiring.expire_self]
  cases store key with
  | none => rfl
  | some entry => rfl

/-- Nor does time. -/
theorem deadline_sweep {elapsed : Time} (forward : 0 ≤ elapsed) :
    deadline windowSeconds now store key ≤
      deadline windowSeconds (now + elapsed) (Expiring.sweep (now + elapsed) store) key := by
  have later : now + keyTtl windowSeconds ≤ now + elapsed + keyTtl windowSeconds := by linarith
  unfold deadline
  cases there : store key with
  | none =>
      have gone : Expiring.sweep (now + elapsed) store key = none := by
        rw [Expiring.sweep, there]
        rfl
      rw [gone]
      exact later
  | some entry =>
      cases left : Expiring.sweep (now + elapsed) store key with
      | some kept =>
          have same := (Expiring.sweep_some.mp left).1
          cases there.symm.trans same
          change entry.expiresAt.getD _ ≤ entry.expiresAt.getD _
          cases entry.expiresAt with
          | none => exact later
          | some time => exact le_refl _
      | none =>
          obtain ⟨time, expires, past⟩ := Expiring.sweep_none there left
          have ttl : 0 ≤ keyTtl windowSeconds := keyTtl_nonneg
          change entry.expiresAt.getD _ ≤ now + elapsed + keyTtl windowSeconds
          rw [expires, Option.getD_some]
          linarith

theorem Covered.hincrby (covered : Covered windowSeconds now store) :
    Covered windowSeconds now (store.hincrby key) := by
  intro other entry time found locked
  by_cases same : other = key
  · subst same
    rw [RateStore.hincrby, Expiring.write_self] at found
    cases found
    cases there : store other with
    | none => simp [Expiring.get, there] at locked
    | some before =>
        simp only [Expiring.get, there, Option.map_some, Option.bind_some] at locked ⊢
        exact covered other before time there locked
  · rw [hincrby_other same] at found
    exact covered other entry time found locked

theorem Covered.expire (covered : Covered windowSeconds now store)
    (within : Expiring.Each (· ≤ now + keyTtl windowSeconds) store) :
    Covered windowSeconds now (Expiring.expire key (now + keyTtl windowSeconds) store) := by
  intro other entry time found locked
  by_cases same : other = key
  · subst same
    rw [Expiring.expire_self] at found
    obtain ⟨before, there, rfl⟩ := Option.map_eq_some_iff.mp found
    have bound := covered other before time there locked
    cases expires : before.expiresAt with
    | none => simpa [expires] using bound
    | some limit =>
        rw [expires] at bound
        exact le_trans bound (within other before limit there expires)
  · rw [Expiring.expire_other same] at found
    exact covered other entry time found locked

theorem Covered.hset (covered : Covered windowSeconds now store)
    (bound : time ≤ deadline windowSeconds now store key) :
    Covered windowSeconds now (store.hset key time) := by
  intro other entry time' found locked
  by_cases same : other = key
  · subst same
    rw [RateStore.hset, Expiring.write_self] at found
    cases found
    cases locked
    exact bound
  · rw [hset_other same] at found
    exact covered other entry time' found locked

theorem Covered.sweep (covered : Covered windowSeconds now store) {elapsed : Time}
    (forward : 0 ≤ elapsed) :
    Covered windowSeconds (now + elapsed) (Expiring.sweep (now + elapsed) store) := by
  intro key entry time found locked
  have bound := covered key entry time (Expiring.sweep_some.mp found).1 locked
  cases expires : entry.expiresAt with
  | none =>
      rw [expires] at bound
      simp only [Option.getD_none] at bound ⊢
      linarith
  | some limit =>
      rw [expires] at bound
      exact bound

/-- What is left of a key by the sweep is what it was. -/
theorem sweep_reads (key : RateKey) :
    (Expiring.sweep now store) key = none ∨
      RateStore.failures (Expiring.sweep now store) key = store.failures key ∧
        RateStore.lockedUntil (Expiring.sweep now store) key = store.lockedUntil key := by
  cases swept : Expiring.sweep now store key with
  | none => exact .inl rfl
  | some entry =>
      have found := (Expiring.sweep_some.mp swept).1
      refine .inr ⟨?_, ?_⟩
      · simp [RateStore.failures, Expiring.get, swept, found]
      · simp [RateStore.lockedUntil, Expiring.get, swept, found]

theorem failures_of_none (absent : store key = none) : store.failures key = 0 := by
  simp [RateStore.failures, Expiring.get, absent]

/-- The calls after a command of one of them: that of another task is the same. -/
theorem update_call {calls : Nat → Option Failure} {task other : Nat} {before : Failure}
    (after : Failure) (there : calls task = some before) (found : calls other = some call) :
    (other = task ∧ call = before ∧ Function.update calls task (some after) other = some after) ∨
      Function.update calls task (some after) other = some call := by
  by_cases same : other = task
  · subst same
    refine .inl ⟨rfl, Option.some.inj (found.symm.trans there), ?_⟩
    rw [Function.update_self]
  · refine .inr ?_
    rw [Function.update_of_ne same]
    exact found

/-- A command that leaves every count, shrinks no lock and loses no key, and whose call goes on with
the keys that it has counted on until they are locked. -/
structure Quiet (windowSeconds : Nat) (world : World) (call : Failure) (store : RateStore)
    (stage : Recording) : Prop where
  within : Expiring.Each (· ≤ world.now + keyTtl windowSeconds) store
  covered : Covered windowSeconds world.now store
  failures : ∀ key, store.failures key = world.store.failures key
  locked : ∀ key, world.store.lockedUntil key ≤ store.lockedUntil key
  present : ∀ key, (world.store key).isSome → (store key).isSome
  goesOn : ∀ key failures, call.stage.On key failures → 0 < lockoutSeconds failures →
    stage.On key failures ∨ call.start + lockoutSeconds failures ≤ store.lockedUntil key
  lasts : ∀ key, deadline windowSeconds world.now world.store key ≤
    deadline windowSeconds world.now store key
  refreshed : ∀ key, Refreshed key stage →
    call.start + keyTtl windowSeconds ≤ deadline windowSeconds world.now store key

/-- After a command of one task, the calls are timely if that call is, and no key ends earlier. -/
theorem Sound.timely_update (sound : Sound windowSeconds world) {task : Nat} {store : RateStore}
    {stage : Recording} (there : world.calls task = some call)
    (lasts : ∀ key, deadline windowSeconds world.now world.store key ≤
      deadline windowSeconds world.now store key)
    (refreshed : ∀ key, Refreshed key stage →
      call.start + keyTtl windowSeconds ≤ deadline windowSeconds world.now store key)
    (other : Nat) (call' : Failure)
    (found : Function.update world.calls task (some { call with stage := stage }) other =
      some call') : Timely windowSeconds world.now store call' := by
  by_cases same : other = task
  · subst same
    rw [Function.update_self] at found
    cases found
    exact ⟨(sound.timely other call there).1, refreshed⟩
  · rw [Function.update_of_ne same] at found
    obtain ⟨begun, before⟩ := sound.timely other call' found
    exact ⟨begun, fun key past => (before key past).trans (lasts key)⟩

theorem Sound.quiet (sound : Sound windowSeconds world) {task : Nat} {store : RateStore}
    {stage : Recording} (there : world.calls task = some call)
    (quiet : Quiet windowSeconds world call store stage) :
    Sound windowSeconds { world with
      store := store
      calls := Function.update world.calls task (some { call with stage := stage }) } := by
  refine ⟨sound.now, ?_, quiet.within, quiet.covered, ?_⟩
  · exact sound.timely_update there quiet.lasts quiet.refreshed
  intro key
  refine (sound.observed key).keep (quiet.failures key) (quiet.locked key) rfl ?_
  intro other call' found on locks
  rcases update_call { call with stage := stage } there found with
    ⟨rfl, rfl, updated⟩ | untouched
  · rcases quiet.goesOn key _ on locks with on' | held
    · exact .inl ⟨_, updated, rfl, on'⟩
    · exact .inr held
  · exact .inl ⟨call', untouched, rfl, on⟩

/-- The call that counts on a key becomes its observer. -/
theorem Sound.increment (sound : Sound windowSeconds world) {task : Nat} {rest : List RateKey}
    (there : world.calls task = some call) (stage : call.stage = .increment key rest) :
    Sound windowSeconds { world with
      store := world.store.hincrby key
      calls := Function.update world.calls task
        (some { call with stage := .expire key (world.store.failures key + 1) rest })
      observed := Function.update world.observed key (some (task, call.start)) } := by
  refine ⟨sound.now, ?_, each_hincrby sound.within, sound.covered.hincrby, ?_⟩
  · exact sound.timely_update there (fun _ => deadline_hincrby.ge) (fun _ past => past.elim)
  intro other
  by_cases same : other = key
  · subst same
    intro _
    refine ⟨task, call.start, by simp, .inr ⟨_, Function.update_self .., rfl, ?_⟩⟩
    exact ⟨rfl, hincrby_failures.symm⟩
  · have failures : (world.store.hincrby key).failures other = world.store.failures other := by
      simp [RateStore.failures, Expiring.get, same]
    refine (sound.observed other).keep failures ?_ ?_ ?_
    · exact hincrby_lockedUntil.ge
    · exact Function.update_of_ne same ..
    · intro task' call' found on _
      rcases update_call { call with
          stage := .expire key (world.store.failures key + 1) rest } there found with
        ⟨rfl, rfl, _⟩ | untouched
      · rw [stage] at on
        cases on
      · exact .inl ⟨call', untouched, rfl, on⟩

/-- A command that only reads. -/
theorem Sound.readOnly (sound : Sound windowSeconds world) {task : Nat} {stage : Recording}
    (there : world.calls task = some call)
    (goesOn : ∀ key failures, call.stage.On key failures → stage.On key failures)
    (refreshed : ∀ key, Refreshed key stage → Refreshed key call.stage) :
    Quiet windowSeconds world call world.store stage where
  within := sound.within
  covered := sound.covered
  failures _ := rfl
  locked _ := le_refl _
  present _ there := there
  goesOn key failures on _ := .inl (goesOn key failures on)
  lasts _ := le_refl _
  refreshed key past := (sound.timely task call there).2 key (refreshed key past)

theorem Sound.expire (sound : Sound windowSeconds world) {task : Nat} {failures : Nat}
    {rest : List RateKey} (there : world.calls task = some call)
    (stage : call.stage = .expire key failures rest) :
    Quiet windowSeconds world call
      (Expiring.expire key (world.now + keyTtl windowSeconds) world.store)
      (if 0 < lockoutSeconds failures then .readLock key failures rest else .turn rest) := by
  refine ⟨sound.within.expire (le_refl _), sound.covered.expire sound.within, ?_, ?_, ?_, ?_,
    fun _ => deadline_expire sound.within, ?_⟩
  · intro other
    simp [RateStore.failures]
  · intro other
    simp [RateStore.lockedUntil]
  · intro other present
    by_cases same : other = key
    · subst same
      simpa using present
    · simpa [same] using present
  · intro other failures' on locks
    rw [stage] at on
    obtain ⟨rfl, rfl⟩ := on
    rw [if_pos locks]
    exact .inl ⟨rfl, rfl⟩
  · intro other past
    split at past
    next =>
      cases past
      have begun := (sound.timely task call there).1
      rw [deadline_expire_self]
      linarith
    next => exact (not_refreshed_turn past).elim

theorem Sound.writeLock (sound : Sound windowSeconds world) {task : Nat} {failures : Nat}
    {current : Time} {rest : List RateKey} (there : world.calls task = some call)
    (stage : call.stage = .writeLock key failures current rest)
    (fits : CallFits windowSeconds world.store call) :
    Quiet windowSeconds world call
      (world.store.hset key (newLockedUntil call.start current failures)) (.turn rest) := by
  unfold CallFits at fits
  rw [stage] at fits
  obtain ⟨unraised, extends_⟩ := fits
  have fromStart := le_max_left call.start current
  have fromCurrent := le_max_right call.start current
  have lockout : (0 : Time) ≤ lockoutSeconds failures := Nat.cast_nonneg _
  have lasting : call.start + keyTtl windowSeconds ≤
      deadline windowSeconds world.now world.store key := by
    refine (sound.timely task call there).2 key ?_
    rw [stage]
    rfl
  refine ⟨each_hset sound.within, ?_, fun _ => hset_failures, ?_, ?_, ?_,
    fun _ => deadline_hset.ge,
    fun _ past => (not_refreshed_turn past).elim⟩
  · apply sound.covered.hset
    have ahead : newLockedUntil call.start current failures =
        call.start + (max 0 (current - call.start) + lockoutSeconds failures) := by
      rw [newLockedUntil, ← add_assoc, ← max_add_add_left, add_zero, add_sub_cancel]
    rw [ahead]
    linarith
  · intro other
    by_cases same : other = key
    · subst same
      rw [hset_lockedUntil, newLockedUntil]
      linarith
    · simp [RateStore.lockedUntil, Expiring.get, same]
  · intro other present
    by_cases same : other = key
    · subst same
      simp [RateStore.hset]
    · simpa [same] using present
  · intro other failures' on _
    rw [stage] at on
    obtain ⟨rfl, rfl⟩ := on
    refine .inr ?_
    rw [hset_lockedUntil, newLockedUntil]
    linarith

/-- A command counts on a key, or it is quiet. -/
theorem command_cases (sound : Sound windowSeconds world) {task : Nat}
    (fits : Fits windowSeconds world (.command task))
    (taken : step windowSeconds hashEmail world (.command task) = some next) :
    ∃ call, world.calls task = some call ∧
      ((∃ key rest, call.stage = .increment key rest ∧
        next = { world with
          store := world.store.hincrby key
          calls := Function.update world.calls task
            (some { call with stage := .expire key (world.store.failures key + 1) rest })
          observed := Function.update world.observed key (some (task, call.start)) }) ∨
      ∃ store stage, Quiet windowSeconds world call store stage ∧
        next = { world with
          store := store
          calls := Function.update world.calls task (some { call with stage := stage }) }) := by
  simp only [step] at taken
  split at taken
  next => cases taken
  next call there =>
    refine ⟨call, there, ?_⟩
    cases stage : call.stage with
    | increment key rest =>
        simp only [Failure.next, stage, Fate.branch_ok, Fate.settle_ok, Option.map_some,
          Option.some.injEq] at taken
        exact .inl ⟨key, rest, rfl, taken.symm⟩
    | expire key failures rest =>
        simp only [Failure.next, stage, Fate.branch_ok, Fate.settle_ok, Option.map_some,
          Option.some.injEq] at taken
        exact .inr ⟨_, _, sound.expire there stage, taken.symm⟩
    | readLock key failures rest =>
        simp only [Failure.next, stage, Fate.branch_ok, Option.map_some, Option.some.injEq] at taken
        refine .inr ⟨_, _, sound.readOnly there ?_ ?_, taken.symm⟩
        · intro other failures' on
          rw [stage] at on
          exact on
        · intro other past
          rw [stage]
          exact past
    | writeLock key failures current rest =>
        simp only [Failure.next, stage, Fate.branch_ok, Fate.settle_ok, Option.map_some,
          Option.some.injEq] at taken
        exact .inr ⟨_, _, sound.writeLock there stage (fits call there), taken.symm⟩
    | readIp =>
        simp only [Failure.next, stage, Fate.branch_ok, Option.map_some, Option.some.injEq] at taken
        refine .inr ⟨_, _, sound.readOnly there ?_ ?_, taken.symm⟩
        · intro other failures' on
          rw [stage] at on
          cases on
        · intro other past
          cases past
    | readEmail ipData =>
        simp only [Failure.next, stage, Fate.branch_ok, Option.map_some, Option.some.injEq] at taken
        refine .inr ⟨_, _, sound.readOnly there ?_ ?_, taken.symm⟩
        · intro other failures' on
          rw [stage] at on
          cases on
        · intro other past
          cases past
    | returned status =>
        simp only [Failure.next, stage, Option.map_none] at taken
        cases taken
    | raised =>
        simp only [Failure.next, stage, Option.map_none] at taken
        cases taken

theorem Sound.tick (sound : Sound windowSeconds world) {elapsed : Time} (forward : 0 ≤ elapsed) :
    Sound windowSeconds { world with
      now := world.now + elapsed
      store := Expiring.sweep (world.now + elapsed) world.store } := by
  refine ⟨add_nonneg sound.now forward, ?_, ?_, sound.covered.sweep forward, ?_⟩
  · intro task call there
    obtain ⟨begun, before⟩ := sound.timely task call there
    exact ⟨by linarith, fun key past => (before key past).trans (deadline_sweep forward)⟩
  · refine sound.within.sweep.mono ?_
    intro time bound
    change time ≤ world.now + elapsed + keyTtl windowSeconds
    linarith
  · intro key locks
    have swept := @sweep_reads world.store (world.now + elapsed) key
    rcases swept with gone | ⟨failures, locked⟩
    · rw [failures_of_none gone] at locks
      exact absurd locks (by decide)
    · refine (sound.observed key).keep failures locked.ge rfl ?_ locks
      intro task call there on _
      exact .inl ⟨call, there, rfl, on⟩

theorem Sound.step (sound : Sound windowSeconds world) (fits : Fits windowSeconds world label)
    (taken : step windowSeconds hashEmail world label = some next) : Sound windowSeconds next := by
  cases label with
  | begin task ip email =>
      simp only [Lockouts.step] at taken
      split at taken
      next fresh =>
        cases taken
        refine ⟨sound.now, ?_, sound.within, sound.covered, ?_⟩
        · intro other call there
          by_cases same : other = task
          · subst same
            cases (Function.update_self ..).symm.trans there
            exact ⟨le_refl _, fun _ past => False.elim past⟩
          · exact sound.timely other call ((Function.update_of_ne same ..).symm.trans there)
        intro key
        refine (sound.observed key).keep rfl (le_refl _) rfl ?_
        intro other call there on _
        have differ : other ≠ task := by
          rintro rfl
          rw [fresh] at there
          cases there
        refine .inl ⟨call, ?_, rfl, on⟩
        exact (Function.update_of_ne differ ..).trans there
      next => cases taken
  | command task =>
      obtain ⟨call, there, ⟨key, rest, stage, rfl⟩ | ⟨store, stage, quiet, rfl⟩⟩ :=
        command_cases sound fits taken
      · exact sound.increment there stage
      · exact sound.quiet there quiet
  | tick elapsed =>
      simp only [Lockouts.step] at taken
      split at taken
      next forward =>
        cases taken
        exact sound.tick forward
      next => cases taken

theorem Sound.reachable (reached : (machine windowSeconds hashEmail).ReachableBy
    (Fits windowSeconds) world) : Sound windowSeconds world := by
  apply reached.invariant
  · rintro state ⟨now, begun, rfl⟩
    refine ⟨begun, ?_, ?_, ?_, ?_⟩
    · intro task call there
      cases there
    · intro key entry time found
      cases found
    · intro key entry time found
      cases found
    · intro key locks
      rw [failures_of_none rfl] at locks
      exact absurd locks (by decide)
  · intro state next label _ before fits taken
    exact before.step fits taken

/-- A step shrinks no lock of a key that it leaves, and a key goes away only when its lock is
over. -/
theorem Sound.locks (sound : Sound windowSeconds world) (fits : Fits windowSeconds world label)
    (taken : Lockouts.step windowSeconds hashEmail world label = some next)
    (there : (world.store key).isSome) :
    (next.store key).isSome ∧ world.store.lockedUntil key ≤ next.store.lockedUntil key ∨
      next.store key = none ∧ world.store.lockedUntil key ≤ next.now := by
  cases label with
  | begin task ip email =>
      simp only [Lockouts.step] at taken
      split at taken
      next =>
        cases taken
        exact .inl ⟨there, le_refl _⟩
      next => cases taken
  | command task =>
      obtain ⟨call, _, ⟨key', rest, _, rfl⟩ | ⟨store, stage, quiet, rfl⟩⟩ :=
        command_cases sound fits taken
      · refine .inl ⟨?_, hincrby_lockedUntil.ge⟩
        by_cases same : key = key'
        · subst same
          simp [RateStore.hincrby]
        · simpa [same] using there
      · exact .inl ⟨quiet.present key there, quiet.locked key⟩
  | tick elapsed =>
      simp only [Lockouts.step] at taken
      split at taken
      next forward =>
        cases taken
        have swept := @sweep_reads world.store (world.now + elapsed) key
        cases left : Expiring.sweep (world.now + elapsed) world.store key with
        | some entry =>
            rcases swept with gone | ⟨_, locked⟩
            · rw [gone] at left
              cases left
            · exact .inl ⟨by simp [left], locked.ge⟩
        | none =>
            refine .inr ⟨left, ?_⟩
            obtain ⟨entry, found⟩ := Option.isSome_iff_exists.mp there
            obtain ⟨time, expires, past⟩ := Expiring.sweep_none found left
            have positive : 0 ≤ world.now + elapsed := add_nonneg sound.now forward
            cases locked : entry.value.lockedUntil with
            | none =>
                simpa [RateStore.lockedUntil, Expiring.get, found, locked] using positive
            | some bound =>
                have covered := sound.covered key entry bound found locked
                rw [expires, Option.getD_some] at covered
                simpa [RateStore.lockedUntil, Expiring.get, found, locked] using
                  le_trans covered past
      next => cases taken

/-- Locks are neither cut short nor lost with their key, and a count that calls for a lockout ends
up with it, in every run in which no lock is raised between the two commands of a call and no lock
is extended past the TTL. -/
theorem lockouts_kept
    (reached : (machine windowSeconds hashEmail).ReachableBy (Fits windowSeconds) world) :
    (∀ label next, Fits windowSeconds world label →
      Lockouts.step windowSeconds hashEmail world label = some next →
      ∀ key, (world.store key).isSome →
        (next.store key).isSome ∧ world.store.lockedUntil key ≤ next.store.lockedUntil key ∨
          next.store key = none ∧ world.store.lockedUntil key ≤ next.now) ∧
    ((∀ task call, world.calls task = some call → call.stage.isOver = true) →
      ∀ key, 0 < lockoutSeconds (world.store.failures key) →
        ∃ task start, world.observed key = some (task, start) ∧
          start + lockoutSeconds (world.store.failures key) ≤ world.store.lockedUntil key) ∧
    ∀ key entry time, world.store key = some entry → entry.expiresAt = some time →
      world.now < world.store.lockedUntil key →
        world.store.lockedUntil key - world.now ≤ time - world.now := by
  have sound := Sound.reachable reached
  refine ⟨?_, ?_, ?_⟩
  · intro label next fits taken key there
    exact sound.locks fits taken there
  · intro settled key locks
    obtain ⟨task, start, seen, held | ⟨call, there, _, on⟩⟩ := sound.observed key locks
    · exact ⟨task, start, seen, held⟩
    · have underWay := on.not_over
      rw [settled task call there] at underWay
      cases underWay
  · intro key entry time found expires ahead
    have positive := sound.now
    cases locked : entry.value.lockedUntil with
    | none =>
        simp only [RateStore.lockedUntil, Expiring.get, found, Option.map_some, Option.bind_some,
          locked, Option.getD_none] at ahead
        linarith
    | some bound =>
        have covered := sound.covered key entry bound found locked
        rw [expires, Option.getD_some] at covered
        simp only [RateStore.lockedUntil, Expiring.get, found, Option.map_some, Option.bind_some,
          locked, Option.getD_some]
        linarith

end

/-! Five failures, then two more at the same time. -/

/-- The hash of the one address below. -/
def hashEmail (_ : String) : String := "9f9525db8142fd3c"

def anaKey : RateKey := .ip "192.0.2.7"

def begin (task : Nat) : Label := .begin task "192.0.2.7" "ana@acme.es"

def commands (task count : Nat) : List Label := List.replicate count (.command task)

def failedFive : List Label :=
  (List.range 5).flatMap fun task => begin task :: commands task 6

/-- The sixth failure counts and reads its lock; the seventh, which began 100 seconds later, reads
the same and writes first. -/
def crossing : List Label :=
  failedFive ++ [begin 5] ++ commands 5 3 ++ [.tick 100, begin 6] ++ commands 6 4

theorem crossing_shortens :
    ∃ world next, (machine 86400 hashEmail).Reachable world ∧
      Lockouts.step 86400 hashEmail world (.command 5) = some next ∧
      world.store.lockedUntil anaKey = 280 ∧ next.store.lockedUntil anaKey = 180 := by
  have run : ((machine 86400 hashEmail).exec (.initial 0) crossing).bind (fun world =>
      (Lockouts.step 86400 hashEmail world (.command 5)).map fun next =>
        (world.store.lockedUntil anaKey, next.store.lockedUntil anaKey)) = some (280, 180) := by
    decide +kernel
  obtain ⟨world, run, after⟩ := Option.bind_eq_some_iff.mp run
  obtain ⟨next, taken, locks⟩ := Option.map_eq_some_iff.mp after
  obtain ⟨before, after⟩ := Prod.mk.inj locks
  exact ⟨world, next, Machine.Reachable.exec (.start ⟨0, le_refl _, rfl⟩) run, taken, before, after⟩

/-- The seventh failure reads what the sixth wrote. -/
def inTurn : List Label :=
  failedFive ++ [begin 5] ++ commands 5 3 ++ [.tick 100, begin 6, .command 5] ++ commands 6 4 ++
    commands 5 6 ++ commands 6 6

theorem lockouts_kept_in_turn :
    ∃ world entry time, (machine 86400 hashEmail).exec (.initial 0) inTurn = some world ∧
      world.store anaKey = some entry ∧ entry.expiresAt = some time ∧
      world.store.lockedUntil anaKey = 360 ∧ 360 - world.now ≤ time - world.now := by
  have run : ((machine 86400 hashEmail).exec (.initial 0) inTurn).map (fun world =>
      (world.now, world.store anaKey)) = some (100, some ⟨⟨7, some 360⟩, some 90100⟩) := by
    decide +kernel
  obtain ⟨world, run, after⟩ := Option.map_eq_some_iff.mp run
  obtain ⟨now, found⟩ := Prod.mk.inj after
  have fitting : (machine 86400 hashEmail).Allows (Fits 86400) (.initial 0) inTurn := by
    decide +kernel
  have reached : (machine 86400 hashEmail).ReachableBy (Fits 86400) world :=
    Machine.ReachableBy.exec (.start ⟨0, le_refl _, rfl⟩) fitting run
  have locked : world.store.lockedUntil anaKey = 360 := by
    simp [RateStore.lockedUntil, Expiring.get, found]
  have ahead : world.now < world.store.lockedUntil anaKey := by
    rw [now, locked]
    norm_num
  have covered := (lockouts_kept reached).2.2 anaKey _ 90100 found rfl ahead
  rw [locked] at covered
  exact ⟨world, _, 90100, run, found, rfl, locked, covered⟩

end RateLimit.Lockouts
