import Soc360.Auth.Lockouts

set_option autoImplicit false

/-! The two counters of failed logins, with commands that may fail and processes that may stop. -/

namespace RateLimit.Unlocking

/-- `login_attempts:`, with the hash of the address. -/
abbrev AttemptStore := Expiring String Nat

/-- `LOGIN_ATTEMPTS_WINDOW_SECONDS`. -/
def attemptsWindow : Time := 900

/-- `_check_account_lockout` refuses. -/
def accountLocked (attempts : Option Nat) : Bool := attempts.any (loginAttemptsMax ≤ ·)

/-- `record_failure`, `record_success` with the keys left to delete, `_record_failed_attempt` before
its INCR and before its EXPIRE, and `_clear_login_attempts`. -/
inductive Task where
  | recordFailure (call : Failure)
  | recordSuccess (keys : List RateKey)
  | incrAttempts (key : String)
  | expireAttempts (key : String)
  | clearAttempts (key : String)
  | ended
  deriving DecidableEq, Repr

def Task.isOver : Task → Bool
  | recordFailure call => call.stage.isOver
  | recordSuccess [] => true
  | ended => true
  | _ => false

/-- `tasks` are all calls so far. -/
structure World where
  now : Time
  rates : RateStore
  attempts : AttemptStore
  tasks : List Task

inductive Label where
  | recordFailure (ip email : String)
  | recordSuccess (ip email : String)
  | recordFailedAttempt (email : String)
  | clearLoginAttempts (email : String)
  | command (task : Nat) (fate : Fate)
  | stop (task : Nat)
  | tick (elapsed : Time)

def World.initial (now : Time) : World := ⟨now, .empty, .empty, []⟩

section

variable (windowSeconds : Nat) (hashEmail hashLogin : String → String)

/-- The next command of a call. Its errors are the end of it, whether it swallows them or its
caller does. -/
def Task.next (now : Time) (fate : Fate) (rates : RateStore) (attempts : AttemptStore) :
    Task → Option (Task × RateStore × AttemptStore)
  | recordFailure call =>
      (call.next windowSeconds now fate rates).map fun (stage, rates) =>
        (recordFailure { call with stage := stage }, rates, attempts)
  | recordSuccess [] => none
  | recordSuccess (key :: rest) =>
      some (fate.branch (recordSuccess rest) ended, fate.settle (Expiring.delete key) rates, attempts)
  | incrAttempts key =>
      let count := (attempts.get key).getD 0 + 1
      let proceed := if count = 1 then expireAttempts key else ended
      some (fate.branch proceed ended, rates, fate.settle (Expiring.write key fun _ => count) attempts)
  | expireAttempts key =>
      some (ended, rates, fate.settle (Expiring.expire key (now + attemptsWindow)) attempts)
  | clearAttempts key => some (ended, rates, fate.settle (Expiring.delete key) attempts)
  | ended => none

def World.begin (world : World) (task : Task) : World :=
  { world with tasks := world.tasks ++ [task] }

def step (world : World) : Label → Option World
  | .recordFailure ip email =>
      some (world.begin (.recordFailure (.begin hashEmail world.now ip email)))
  | .recordSuccess ip email =>
      some (world.begin (.recordSuccess [.ip ip, .email (hashEmail email)]))
  | .recordFailedAttempt email => some (world.begin (.incrAttempts (hashLogin email)))
  | .clearLoginAttempts email => some (world.begin (.clearAttempts (hashLogin email)))
  | .command index fate =>
      match world.tasks[index]? with
      | none => none
      | some task =>
          (task.next windowSeconds world.now fate world.rates world.attempts).map
            fun (task, rates, attempts) =>
              ⟨world.now, rates, attempts, world.tasks.set index task⟩
  | .stop index => some { world with tasks := world.tasks.set index .ended }
  | .tick elapsed =>
      if 0 ≤ elapsed then
        let now := world.now + elapsed
        some ⟨now, Expiring.sweep now world.rates, Expiring.sweep now world.attempts, world.tasks⟩
      else none

def machine : Machine World Label where
  start := fun world => ∃ now, 0 ≤ now ∧ world = .initial now
  step := step windowSeconds hashEmail hashLogin

end

/-- An increment that makes a new key does not lose its reply, an EXPIRE takes effect where the key
has no expiry, and an HSET finds its key. -/
def Task.Fits (fate : Fate) (rates : RateStore) (attempts : AttemptStore) : Task → Prop
  | recordFailure call =>
      match call.stage with
      | .increment key _ => rates key = none → fate ≠ .lost
      | .expire key _ _ => Expiring.Lasting rates key → fate ≠ .failed
      | .writeLock key _ _ _ => rates key = none → fate = .failed
      | _ => True
  | incrAttempts key => attempts key = none → fate ≠ .lost
  | expireAttempts key => Expiring.Lasting attempts key → fate ≠ .failed
  | _ => True

/-- A call that is to give its key an expiry is not stopped before. -/
def Task.MayStop (rates : RateStore) (attempts : AttemptStore) : Task → Prop
  | recordFailure call =>
      match call.stage with
      | .expire key _ _ => ¬Expiring.Lasting rates key
      | _ => True
  | expireAttempts key => ¬Expiring.Lasting attempts key
  | _ => True

def Fits (world : World) : Label → Prop
  | .command index fate => ∀ task ∈ world.tasks[index]?, task.Fits fate world.rates world.attempts
  | .stop index => ∀ task ∈ world.tasks[index]?, task.MayStop world.rates world.attempts
  | _ => True

instance (fate : Fate) (rates : RateStore) (attempts : AttemptStore) :
    (task : Task) → Decidable (task.Fits fate rates attempts)
  | .recordFailure ⟨_, _, _, .increment key _⟩ =>
      inferInstanceAs (Decidable (rates key = none → fate ≠ .lost))
  | .recordFailure ⟨_, _, _, .expire key _ _⟩ =>
      inferInstanceAs (Decidable (Expiring.Lasting rates key → fate ≠ .failed))
  | .recordFailure ⟨_, _, _, .writeLock key _ _ _⟩ =>
      inferInstanceAs (Decidable (rates key = none → fate = .failed))
  | .recordFailure ⟨_, _, _, .readLock _ _ _⟩ => .isTrue trivial
  | .recordFailure ⟨_, _, _, .readIp⟩ => .isTrue trivial
  | .recordFailure ⟨_, _, _, .readEmail _⟩ => .isTrue trivial
  | .recordFailure ⟨_, _, _, .returned _⟩ => .isTrue trivial
  | .recordFailure ⟨_, _, _, .raised⟩ => .isTrue trivial
  | .incrAttempts key => inferInstanceAs (Decidable (attempts key = none → fate ≠ .lost))
  | .expireAttempts key =>
      inferInstanceAs (Decidable (Expiring.Lasting attempts key → fate ≠ .failed))
  | .recordSuccess _ => .isTrue trivial
  | .clearAttempts _ => .isTrue trivial
  | .ended => .isTrue trivial

instance (rates : RateStore) (attempts : AttemptStore) :
    (task : Task) → Decidable (task.MayStop rates attempts)
  | .recordFailure ⟨_, _, _, .expire key _ _⟩ =>
      inferInstanceAs (Decidable ¬Expiring.Lasting rates key)
  | .recordFailure ⟨_, _, _, .increment _ _⟩ => .isTrue trivial
  | .recordFailure ⟨_, _, _, .writeLock _ _ _ _⟩ => .isTrue trivial
  | .recordFailure ⟨_, _, _, .readLock _ _ _⟩ => .isTrue trivial
  | .recordFailure ⟨_, _, _, .readIp⟩ => .isTrue trivial
  | .recordFailure ⟨_, _, _, .readEmail _⟩ => .isTrue trivial
  | .recordFailure ⟨_, _, _, .returned _⟩ => .isTrue trivial
  | .recordFailure ⟨_, _, _, .raised⟩ => .isTrue trivial
  | .expireAttempts key => inferInstanceAs (Decidable ¬Expiring.Lasting attempts key)
  | .recordSuccess _ => .isTrue trivial
  | .incrAttempts _ => .isTrue trivial
  | .clearAttempts _ => .isTrue trivial
  | .ended => .isTrue trivial

instance (world : World) : (label : Label) → Decidable (Fits world label)
  | .command index fate => inferInstanceAs
      (Decidable (∀ task ∈ world.tasks[index]?, task.Fits fate world.rates world.attempts))
  | .stop index => inferInstanceAs
      (Decidable (∀ task ∈ world.tasks[index]?, task.MayStop world.rates world.attempts))
  | .recordFailure _ _ => .isTrue trivial
  | .recordSuccess _ _ => .isTrue trivial
  | .recordFailedAttempt _ => .isTrue trivial
  | .clearLoginAttempts _ => .isTrue trivial
  | .tick _ => .isTrue trivial

/-- A failed attempt begins. -/
def Label.isAttempt : Label → Bool
  | recordFailure _ _ => true
  | recordFailedAttempt _ => true
  | _ => false

/-- A call that is about to give the key an expiry. -/
def Task.Expires (key : RateKey) : Task → Prop
  | recordFailure call => ∃ failures rest, call.stage = .expire key failures rest
  | _ => False

structure Sound (windowSeconds : Nat) (world : World) : Prop where
  now : 0 ≤ world.now
  ratesExpire : Expiring.Each (fun time => world.now < time ∧
    time ≤ world.now + keyTtl windowSeconds) world.rates
  attemptsExpire : Expiring.Each (fun time => world.now < time ∧
    time ≤ world.now + attemptsWindow) world.attempts
  rates : ∀ key, Expiring.Lasting world.rates key →
    ∃ task ∈ world.tasks, task.Expires key
  attempts : ∀ key, Expiring.Lasting world.attempts key → .expireAttempts key ∈ world.tasks

section

variable {windowSeconds : Nat} {hashEmail hashLogin : String → String} {world next : World}
  {label : Label} {rates rates' : RateStore} {attempts attempts' : AttemptStore} {now : Time}
  {fate : Fate} {call : Failure} {stage : Recording} {task task' : Task}

/-- An EXPIRE that takes effect where it has to leaves no key of its own without an expiry. -/
theorem lasting_expire {Key Value : Type} [DecidableEq Key] {store : Expiring Key Value}
    {key key' : Key} {time : Time} (fits : Expiring.Lasting store key' → fate ≠ .failed)
    (lasting : Expiring.Lasting (fate.settle (Expiring.expire key' time) store) key) :
    key ≠ key' ∧ Expiring.Lasting store key := by
  cases fate with
  | ok => exact Expiring.Lasting.of_expire lasting
  | lost => exact Expiring.Lasting.of_expire lasting
  | failed =>
      refine ⟨?_, lasting⟩
      rintro rfl
      exact fits lasting rfl

theorem lasting_delete {Key Value : Type} [DecidableEq Key] {store : Expiring Key Value}
    {key key' : Key}
    (lasting : Expiring.Lasting (fate.settle (Expiring.delete key') store) key) :
    Expiring.Lasting store key := by
  cases fate with
  | failed => exact lasting
  | ok => exact (Expiring.Lasting.of_delete lasting).2
  | lost => exact (Expiring.Lasting.of_delete lasting).2

/-- What a command of `record_failure` does to the expiries. -/
theorem failure_each {holds : Time → Prop} (each : Expiring.Each holds rates)
    (given : holds (now + keyTtl windowSeconds))
    (taken : call.next windowSeconds now fate rates = some (stage, rates')) :
    Expiring.Each holds rates' := by
  unfold Failure.next at taken
  split at taken
  next key rest _ =>
    cases taken
    exact fate.settle_preserves (Expiring.Each holds) each (each_hincrby each)
  next key failures rest _ =>
    cases taken
    exact fate.settle_preserves (Expiring.Each holds) each (each.expire given)
  next => cases taken; exact each
  next key failures current rest _ =>
    cases taken
    exact fate.settle_preserves (Expiring.Each holds) each (each_hset each)
  next => cases taken; exact each
  next => cases taken; exact each
  next => cases taken
  next => cases taken

/-- A key without an expiry after a command of `record_failure` is one that the call has just made
and is about to give its expiry, or it was there before and the call does not see to it. -/
theorem failure_lasting (fits : (Task.recordFailure call).Fits fate rates attempts)
    (taken : call.next windowSeconds now fate rates = some (stage, rates')) {key : RateKey}
    (lasting : Expiring.Lasting rates' key) :
    (∃ failures rest, stage = .expire key failures rest) ∨
      Expiring.Lasting rates key ∧ ∀ failures rest, call.stage ≠ .expire key failures rest := by
  cases staged : call.stage with
  | increment key' rest =>
      simp only [Failure.next, staged, Option.some.injEq, Prod.mk.injEq] at taken
      obtain ⟨rfl, rfl⟩ := taken
      simp only [Task.Fits, staged] at fits
      cases fate with
      | ok =>
          rcases lasting_hincrby lasting with before | ⟨rfl, _⟩
          · exact .inr ⟨before, by simp⟩
          · exact .inl ⟨_, _, rfl⟩
      | failed => exact .inr ⟨lasting, by simp⟩
      | lost =>
          rcases lasting_hincrby lasting with before | ⟨_, fresh⟩
          · exact .inr ⟨before, by simp⟩
          · exact absurd rfl (fits fresh)
  | expire key' failures rest =>
      simp only [Failure.next, staged, Option.some.injEq, Prod.mk.injEq] at taken
      obtain ⟨_, rfl⟩ := taken
      simp only [Task.Fits, staged] at fits
      have other := lasting_expire fits lasting
      refine .inr ⟨other.2, ?_⟩
      intro failures' rest' same
      cases same
      exact other.1 rfl
  | readLock key' failures rest =>
      simp only [Failure.next, staged, Option.some.injEq, Prod.mk.injEq] at taken
      obtain ⟨_, rfl⟩ := taken
      exact .inr ⟨lasting, by simp⟩
  | writeLock key' failures current rest =>
      simp only [Failure.next, staged, Option.some.injEq, Prod.mk.injEq] at taken
      obtain ⟨_, rfl⟩ := taken
      simp only [Task.Fits, staged] at fits
      have before : Expiring.Lasting rates key := by
        cases fate with
        | failed => exact lasting
        | ok =>
            rcases lasting_hset lasting with before | ⟨_, fresh⟩
            · exact before
            · cases fits fresh
        | lost =>
            rcases lasting_hset lasting with before | ⟨_, fresh⟩
            · exact before
            · cases fits fresh
      exact .inr ⟨before, by simp⟩
  | readIp =>
      simp only [Failure.next, staged, Option.some.injEq, Prod.mk.injEq] at taken
      obtain ⟨_, rfl⟩ := taken
      exact .inr ⟨lasting, by simp⟩
  | readEmail ipData =>
      simp only [Failure.next, staged, Option.some.injEq, Prod.mk.injEq] at taken
      obtain ⟨_, rfl⟩ := taken
      exact .inr ⟨lasting, by simp⟩
  | returned status => simp [Failure.next, staged] at taken
  | raised => simp [Failure.next, staged] at taken

/-- What a command does to the expiries of the two stores. -/
theorem next_each {holds holds' : Time → Prop} (each : Expiring.Each holds rates)
    (each' : Expiring.Each holds' attempts) (given : holds (now + keyTtl windowSeconds))
    (given' : holds' (now + attemptsWindow))
    (taken : task.next windowSeconds now fate rates attempts = some (task', rates', attempts')) :
    Expiring.Each holds rates' ∧ Expiring.Each holds' attempts' := by
  cases task with
  | recordFailure call =>
      obtain ⟨⟨stage, rates''⟩, step, same⟩ := Option.map_eq_some_iff.mp taken
      cases same
      exact ⟨failure_each each given step, each'⟩
  | recordSuccess keys =>
      cases keys with
      | nil => cases taken
      | cons key rest =>
          cases taken
          exact ⟨fate.settle_preserves (Expiring.Each holds) each each.delete, each'⟩
  | incrAttempts key =>
      cases taken
      exact ⟨each, fate.settle_preserves (Expiring.Each holds') each' each'.write⟩
  | expireAttempts key =>
      cases taken
      exact ⟨each, fate.settle_preserves (Expiring.Each holds') each' (each'.expire given')⟩
  | clearAttempts key =>
      cases taken
      exact ⟨each, fate.settle_preserves (Expiring.Each holds') each' each'.delete⟩
  | ended => cases taken

theorem next_rates_lasting (fits : task.Fits fate rates attempts)
    (taken : task.next windowSeconds now fate rates attempts = some (task', rates', attempts'))
    {key : RateKey} (lasting : Expiring.Lasting rates' key) :
    task'.Expires key ∨ Expiring.Lasting rates key ∧ ¬task.Expires key := by
  cases task with
  | recordFailure call =>
      obtain ⟨⟨stage, rates''⟩, step, same⟩ := Option.map_eq_some_iff.mp taken
      cases same
      rcases failure_lasting fits step lasting with expires | ⟨before, other⟩
      · exact .inl expires
      · refine .inr ⟨before, ?_⟩
        rintro ⟨failures, rest, stage⟩
        exact other failures rest stage
  | recordSuccess keys =>
      cases keys with
      | nil => cases taken
      | cons key' rest =>
          cases taken
          exact .inr ⟨lasting_delete lasting, id⟩
  | incrAttempts key' => cases taken; exact .inr ⟨lasting, id⟩
  | expireAttempts key' => cases taken; exact .inr ⟨lasting, id⟩
  | clearAttempts key' => cases taken; exact .inr ⟨lasting, id⟩
  | ended => cases taken

theorem next_attempts_lasting (fits : task.Fits fate rates attempts)
    (taken : task.next windowSeconds now fate rates attempts = some (task', rates', attempts'))
    {key : String} (lasting : Expiring.Lasting attempts' key) :
    task' = .expireAttempts key ∨
      Expiring.Lasting attempts key ∧ task ≠ .expireAttempts key := by
  cases task with
  | recordFailure call =>
      obtain ⟨⟨stage, rates''⟩, step, same⟩ := Option.map_eq_some_iff.mp taken
      cases same
      exact .inr ⟨lasting, by simp⟩
  | recordSuccess keys =>
      cases keys with
      | nil => cases taken
      | cons key' rest => cases taken; exact .inr ⟨lasting, by simp⟩
  | incrAttempts key' =>
      cases taken
      cases fate with
      | failed => exact .inr ⟨lasting, by simp⟩
      | ok =>
          rw [Fate.settle_ok] at lasting
          rcases lasting.of_write with before | ⟨rfl, fresh⟩
          · exact .inr ⟨before, by simp⟩
          · refine .inl ?_
            simp [Expiring.get, fresh]
      | lost =>
          rw [Fate.settle_lost] at lasting
          rcases lasting.of_write with before | ⟨_, fresh⟩
          · exact .inr ⟨before, by simp⟩
          · exact absurd rfl (fits fresh)
  | expireAttempts key' =>
      cases taken
      have other := lasting_expire fits lasting
      exact .inr ⟨other.2, by simpa using other.1.symm⟩
  | clearAttempts key' =>
      cases taken
      exact .inr ⟨lasting_delete lasting, by simp⟩
  | ended => cases taken

/-- Another call is still there after a command of one of them. -/
theorem mem_set_other {tasks : List Task} {index : Nat} {other : Task}
    (there : tasks[index]? = some task) (member : other ∈ tasks) (differ : other ≠ task) :
    other ∈ tasks.set index task' := by
  obtain ⟨position, found⟩ := List.mem_iff_getElem?.mp member
  have apart : index ≠ position := by
    rintro rfl
    exact differ (Option.some.inj (found.symm.trans there))
  apply List.mem_iff_getElem?.mpr
  exact ⟨position, (List.getElem?_set_ne apart).trans found⟩

theorem mem_set_self {tasks : List Task} {index : Nat} (there : tasks[index]? = some task) :
    task' ∈ tasks.set index task' := by
  have inside := (List.getElem?_eq_some_iff.mp there).1
  apply List.mem_iff_getElem?.mpr
  exact ⟨index, by simp [inside]⟩

theorem Sound.command (sound : Sound windowSeconds world) {index : Nat}
    (fits : Fits world (.command index fate))
    (taken : step windowSeconds hashEmail hashLogin world (.command index fate) = some next) :
    Sound windowSeconds next := by
  simp only [step] at taken
  split at taken
  next => cases taken
  next task there =>
    obtain ⟨⟨task', rates', attempts'⟩, took, rfl⟩ := Option.map_eq_some_iff.mp taken
    have taskFits := fits task there
    have positive : 0 < keyTtl windowSeconds := by
      unfold keyTtl
      positivity
    obtain ⟨ratesExpire, attemptsExpire⟩ := next_each sound.ratesExpire sound.attemptsExpire
      ⟨by linarith, le_refl _⟩ ⟨by simp [attemptsWindow], le_refl _⟩ took
    refine ⟨sound.now, ratesExpire, attemptsExpire, ?_, ?_⟩
    · intro key lasting
      rcases next_rates_lasting taskFits took lasting with expires | ⟨before, other⟩
      · exact ⟨task', mem_set_self there, expires⟩
      · obtain ⟨waiting, member, expires⟩ := sound.rates key before
        refine ⟨waiting, mem_set_other there member ?_, expires⟩
        rintro rfl
        exact other expires
    · intro key lasting
      rcases next_attempts_lasting taskFits took lasting with rfl | ⟨before, other⟩
      · exact mem_set_self there
      · exact mem_set_other there (sound.attempts key before) (Ne.symm other)

theorem Sound.stop (sound : Sound windowSeconds world) {index : Nat}
    (fits : Fits world (.stop index)) :
    Sound windowSeconds { world with tasks := world.tasks.set index .ended } := by
  refine ⟨sound.now, sound.ratesExpire, sound.attemptsExpire, ?_, ?_⟩
  · intro key lasting
    obtain ⟨waiting, member, expires⟩ := sound.rates key lasting
    cases there : world.tasks[index]? with
    | none =>
        rw [List.set_eq_of_length_le (List.getElem?_eq_none_iff.mp there)]
        exact ⟨waiting, member, expires⟩
    | some task =>
        refine ⟨waiting, mem_set_other there member ?_, expires⟩
        rintro rfl
        have mayStop := fits waiting there
        cases waiting with
        | recordFailure call =>
            obtain ⟨failures, rest, stage⟩ := expires
            simp only [Task.MayStop, stage] at mayStop
            exact mayStop lasting
        | recordSuccess keys => cases expires
        | incrAttempts key => cases expires
        | expireAttempts key => cases expires
        | clearAttempts key => cases expires
        | ended => cases expires
  · intro key lasting
    have member := sound.attempts key lasting
    cases there : world.tasks[index]? with
    | none =>
        rw [List.set_eq_of_length_le (List.getElem?_eq_none_iff.mp there)]
        exact member
    | some task =>
        apply mem_set_other there member
        rintro rfl
        exact fits _ there lasting

theorem Sound.begin (sound : Sound windowSeconds world) (task : Task) :
    Sound windowSeconds (world.begin task) := by
  refine ⟨sound.now, sound.ratesExpire, sound.attemptsExpire, ?_, ?_⟩
  · intro key lasting
    obtain ⟨waiting, member, expires⟩ := sound.rates key lasting
    exact ⟨waiting, List.mem_append_left _ member, expires⟩
  · intro key lasting
    exact List.mem_append_left _ (sound.attempts key lasting)

theorem Sound.tick (sound : Sound windowSeconds world) {elapsed : Time} (forward : 0 ≤ elapsed) :
    Sound windowSeconds ⟨world.now + elapsed, Expiring.sweep (world.now + elapsed) world.rates,
      Expiring.sweep (world.now + elapsed) world.attempts, world.tasks⟩ := by
  refine ⟨add_nonneg sound.now forward, ?_, ?_, ?_, ?_⟩
  · intro key entry time found expires
    have before := sound.ratesExpire.sweep key entry time found expires
    refine ⟨Expiring.sweep_ahead key entry time found expires, ?_⟩
    change time ≤ world.now + elapsed + keyTtl windowSeconds
    linarith [before.2]
  · intro key entry time found expires
    have before := sound.attemptsExpire.sweep key entry time found expires
    refine ⟨Expiring.sweep_ahead key entry time found expires, ?_⟩
    change time ≤ world.now + elapsed + attemptsWindow
    linarith [before.2]
  · intro key lasting
    exact sound.rates key lasting.of_sweep
  · intro key lasting
    exact sound.attempts key lasting.of_sweep

theorem step_tick {elapsed : Time} (forward : 0 ≤ elapsed) :
    step windowSeconds hashEmail hashLogin world (.tick elapsed) =
      some ⟨world.now + elapsed, Expiring.sweep (world.now + elapsed) world.rates,
        Expiring.sweep (world.now + elapsed) world.attempts, world.tasks⟩ := if_pos forward

theorem Sound.step (sound : Sound windowSeconds world) (fits : Fits world label)
    (taken : step windowSeconds hashEmail hashLogin world label = some next) :
    Sound windowSeconds next := by
  cases label with
  | recordFailure ip email =>
      cases taken
      exact sound.begin _
  | recordSuccess ip email =>
      cases taken
      exact sound.begin _
  | recordFailedAttempt email =>
      cases taken
      exact sound.begin _
  | clearLoginAttempts email =>
      cases taken
      exact sound.begin _
  | command index fate => exact sound.command fits taken
  | stop index =>
      cases taken
      exact sound.stop fits
  | tick elapsed =>
      simp only [Unlocking.step] at taken
      split at taken
      next forward =>
        cases taken
        exact sound.tick forward
      next => cases taken

theorem Sound.reachable (reached : (machine windowSeconds hashEmail hashLogin).ReachableBy Fits
    world) : Sound windowSeconds world := by
  apply reached.invariant
  · rintro state ⟨now, begun, rfl⟩
    refine ⟨begun, ?_, ?_, ?_, ?_⟩
    · intro key entry time found
      cases found
    · intro key entry time found
      cases found
    · rintro key ⟨entry, found, _⟩
      cases found
    · rintro key ⟨entry, found, _⟩
      cases found
  · intro state next label _ before fits taken
    exact before.step fits taken

/-- A call that only deletes keys, if it is not over. -/
def Task.Deletes : Task → Prop
  | recordFailure call => call.stage.isOver = true
  | recordSuccess _ => True
  | clearAttempts _ => True
  | ended => True
  | _ => False

theorem Task.deletes_of_isOver (settled : task.isOver = true) : task.Deletes := by
  cases task with
  | recordFailure call => exact settled
  | recordSuccess keys => trivial
  | clearAttempts key => trivial
  | ended => trivial
  | incrAttempts key => cases settled
  | expireAttempts key => cases settled

theorem failure_over (settled : call.stage.isOver = true) :
    call.next windowSeconds now fate rates = none := by
  unfold Failure.next
  cases stage : call.stage with
  | returned status => rfl
  | raised => rfl
  | increment _ _ => simp [stage, Recording.isOver] at settled
  | expire _ _ _ => simp [stage, Recording.isOver] at settled
  | readLock _ _ _ => simp [stage, Recording.isOver] at settled
  | writeLock _ _ _ _ => simp [stage, Recording.isOver] at settled
  | readIp => simp [stage, Recording.isOver] at settled
  | readEmail _ => simp [stage, Recording.isOver] at settled

/-- Every key that is there expires, in time. -/
def Ends {Key Value : Type} (now limit : Time) (store : Expiring Key Value) : Prop :=
  Expiring.Each (fun time => now < time ∧ time ≤ limit) store ∧ ∀ key, ¬Expiring.Lasting store key

theorem Ends.delete {Key Value : Type} [DecidableEq Key] {store : Expiring Key Value} {limit : Time}
    (ends : Ends now limit store) (key : Key) (fate : Fate) :
    Ends now limit (fate.settle (Expiring.delete key) store) := by
  apply fate.settle_preserves (Ends now limit) ends
  refine ⟨ends.1.delete, ?_⟩
  intro other lasting
  exact ends.2 other lasting.of_delete.2

theorem Ends.sweep {Key Value : Type} {store : Expiring Key Value} {limit later : Time}
    (ends : Ends now limit store) : Ends later limit (Expiring.sweep later store) := by
  refine ⟨?_, ?_⟩
  · intro key entry time found expires
    exact ⟨Expiring.sweep_ahead key entry time found expires,
      (ends.1.sweep key entry time found expires).2⟩
  · intro key lasting
    exact ends.2 key lasting.of_sweep

/-- Nothing is left when the limit has passed. -/
theorem Ends.empty {Key Value : Type} {store : Expiring Key Value} {limit : Time}
    (ends : Ends now limit store) (passed : limit ≤ now) (key : Key) : store key = none := by
  cases found : store key with
  | none => rfl
  | some entry =>
      cases expires : entry.expiresAt with
      | none => exact absurd ⟨entry, found, expires⟩ (ends.2 key)
      | some time =>
          obtain ⟨ahead, bound⟩ := ends.1 key entry time found expires
          linarith

/-- No failed attempt is under way, and both stores come to an end. -/
structure Settling (ratesLimit attemptsLimit : Time) (world : World) : Prop where
  rates : Ends world.now ratesLimit world.rates
  attempts : Ends world.now attemptsLimit world.attempts
  tasks : ∀ task ∈ world.tasks, task.Deletes

theorem Settling.begin {ratesLimit attemptsLimit : Time}
    (settling : Settling ratesLimit attemptsLimit world) (deletes : task.Deletes) :
    Settling ratesLimit attemptsLimit (world.begin task) := by
  refine ⟨settling.rates, settling.attempts, ?_⟩
  intro other member
  rcases List.mem_append.mp member with member | member
  · exact settling.tasks other member
  · rw [List.mem_singleton.mp member]
    exact deletes

theorem deletes_next {ratesLimit attemptsLimit : Time} (deletes : task.Deletes)
    (ratesEnd : Ends now ratesLimit rates) (attemptsEnd : Ends now attemptsLimit attempts)
    (taken : task.next windowSeconds now fate rates attempts = some (task', rates', attempts')) :
    task'.Deletes ∧ Ends now ratesLimit rates' ∧ Ends now attemptsLimit attempts' := by
  cases task with
  | recordFailure call =>
      simp only [Task.next, failure_over deletes, Option.map_none] at taken
      cases taken
  | recordSuccess keys =>
      cases keys with
      | nil => cases taken
      | cons key rest =>
          cases taken
          refine ⟨?_, ratesEnd.delete key fate, attemptsEnd⟩
          cases fate <;> trivial
  | clearAttempts key =>
      cases taken
      exact ⟨trivial, ratesEnd, attemptsEnd.delete key fate⟩
  | ended => cases taken
  | incrAttempts key => cases deletes
  | expireAttempts key => cases deletes

theorem Settling.step {ratesLimit attemptsLimit : Time}
    (settling : Settling ratesLimit attemptsLimit world) (quiet : label.isAttempt = false)
    (taken : step windowSeconds hashEmail hashLogin world label = some next) :
    Settling ratesLimit attemptsLimit next := by
  cases label with
  | recordFailure ip email => cases quiet
  | recordFailedAttempt email => cases quiet
  | recordSuccess ip email =>
      cases taken
      exact settling.begin trivial
  | clearLoginAttempts email =>
      cases taken
      exact settling.begin trivial
  | command index fate =>
      simp only [Unlocking.step] at taken
      split at taken
      next => cases taken
      next task there =>
        obtain ⟨⟨task', rates', attempts'⟩, took, rfl⟩ := Option.map_eq_some_iff.mp taken
        have member : task ∈ world.tasks := List.mem_iff_getElem?.mpr ⟨index, there⟩
        obtain ⟨deletes, ratesEnd, attemptsEnd⟩ :=
          deletes_next (settling.tasks task member) settling.rates settling.attempts took
        refine ⟨ratesEnd, attemptsEnd, ?_⟩
        intro other member
        rcases List.mem_or_eq_of_mem_set member with member | rfl
        · exact settling.tasks other member
        · exact deletes
  | stop index =>
      cases taken
      refine ⟨settling.rates, settling.attempts, ?_⟩
      intro other member
      rcases List.mem_or_eq_of_mem_set member with member | rfl
      · exact settling.tasks other member
      · trivial
  | tick elapsed =>
      simp only [Unlocking.step] at taken
      split at taken
      next =>
        cases taken
        exact ⟨settling.rates.sweep, settling.attempts.sweep, settling.tasks⟩
      next => cases taken

/-- With no call under way every key expires, and without further failed attempts nothing is locked
once their times to live have passed, in every run that gives each new key its expiry. -/
theorem lockouts_end
    (reached : (machine windowSeconds hashEmail hashLogin).ReachableBy Fits world)
    (idle : ∀ task ∈ world.tasks, task.isOver = true) :
    (∀ key entry, world.rates key = some entry → entry.expiresAt.isSome) ∧
    (∀ key entry, world.attempts key = some entry → entry.expiresAt.isSome) ∧
    ∀ labels last, (∀ label ∈ labels, label.isAttempt = false) →
      (machine windowSeconds hashEmail hashLogin).exec world labels = some last →
      world.now + max (keyTtl windowSeconds) attemptsWindow ≤ last.now →
      ∀ ip email,
        (checked (Expiring.get last.rates (.ip ip)) (Expiring.get last.rates (.email
          (hashEmail email))) last.now).isLocked = false ∧
        accountLocked (Expiring.get last.attempts (hashLogin email)) = false := by
  have sound := Sound.reachable reached
  have ratesEnd : ∀ key, ¬Expiring.Lasting world.rates key := by
    intro key lasting
    obtain ⟨task, member, expires⟩ := sound.rates key lasting
    have settled := idle task member
    cases task with
    | recordFailure call =>
        obtain ⟨failures, rest, stage⟩ := expires
        simp [Task.isOver, stage, Recording.isOver] at settled
    | recordSuccess keys => cases expires
    | incrAttempts key => cases expires
    | expireAttempts key => cases expires
    | clearAttempts key => cases expires
    | ended => cases expires
  have attemptsEnd : ∀ key, ¬Expiring.Lasting world.attempts key := by
    intro key lasting
    have settled := idle _ (sound.attempts key lasting)
    cases settled
  refine ⟨?_, ?_, ?_⟩
  · intro key entry found
    apply Option.isSome_iff_ne_none.mpr
    intro forever
    exact ratesEnd key ⟨entry, found, forever⟩
  · intro key entry found
    apply Option.isSome_iff_ne_none.mpr
    intro forever
    exact attemptsEnd key ⟨entry, found, forever⟩
  · intro labels last quiet run passed ip email
    have allows : (machine windowSeconds hashEmail hashLogin).Allows
        (fun _ label => label.isAttempt = false) world labels := by
      apply Machine.allows_of_forall
      intro label member _
      exact quiet label member
    have settling : Settling (world.now + keyTtl windowSeconds) (world.now + attemptsWindow)
        last := by
      refine allows.preserves ?_ ?_ run
      · intro state next label before quiet taken
        exact before.step quiet taken
      · refine ⟨⟨sound.ratesExpire, ratesEnd⟩, ⟨sound.attemptsExpire, attemptsEnd⟩, ?_⟩
        intro task member
        exact Task.deletes_of_isOver (idle task member)
    have left := le_max_left (keyTtl windowSeconds) attemptsWindow
    have right := le_max_right (keyTtl windowSeconds) attemptsWindow
    have noRates : ∀ key, Expiring.get last.rates key = none := by
      intro key
      rw [Expiring.get, settling.rates.empty (by linarith) key]
      rfl
    have noAttempts : ∀ key, Expiring.get last.attempts key = none := by
      intro key
      rw [Expiring.get, settling.attempts.empty (by linarith) key]
      rfl
    rw [noRates, noRates, noAttempts]
    refine ⟨?_, rfl⟩
    have later : ¬last.now < 0 := by
      have begun := sound.now
      have positive : 0 < attemptsWindow := by simp [attemptsWindow]
      linarith
    simp only [checked, Option.bind_none, Option.getD_none, if_neg later]

end

/-! Failed logins of one address. -/

open Lockouts (hashEmail)

/-- The hash of the one address below in the other keys. -/
def hashLogin (_ : String) : String :=
  "9f9525db8142fd3c8860243e483684f7060742b1bc4ed41bb8b251b1618378c0"

def ana : String := "ana@acme.es"

/-- The first of ten failed logins counts, and then its EXPIRE fails. -/
def unexpired : List Label :=
  [.recordFailedAttempt ana, .command 0 .ok, .command 0 .failed] ++
    (List.range 9).flatMap fun index =>
      [.recordFailedAttempt ana, .command (index + 1) .ok, .tick 3600]

theorem failed_expire_locks :
    ∃ world, (machine 86400 hashEmail hashLogin).Reachable world ∧
      (∀ task ∈ world.tasks, task.isOver = true) ∧
      world.attempts (hashLogin ana) = some ⟨10, none⟩ ∧
      ∀ elapsed : Time, 0 ≤ elapsed →
        ∃ next, Unlocking.step 86400 hashEmail hashLogin world (.tick elapsed) = some next ∧
          accountLocked (Expiring.get next.attempts (hashLogin ana)) = true := by
  have run : ((machine 86400 hashEmail hashLogin).exec (.initial 0) unexpired).map (fun world =>
      (world.attempts (hashLogin ana), decide (∀ task ∈ world.tasks, task.isOver = true))) =
        some (some ⟨10, none⟩, true) := by
    decide +kernel
  obtain ⟨world, run, after⟩ := Option.map_eq_some_iff.mp run
  obtain ⟨found, settled⟩ := Prod.mk.inj after
  refine ⟨world, Machine.Reachable.exec (.start ⟨0, le_refl _, rfl⟩) run, of_decide_eq_true settled,
    found, ?_⟩
  intro elapsed forward
  refine ⟨_, step_tick forward, ?_⟩
  have kept : Expiring.sweep (world.now + elapsed) world.attempts (hashLogin ana) =
      some ⟨10, none⟩ := by
    rw [Expiring.sweep, found]
    rfl
  change accountLocked (Option.map Entry.value
    (Expiring.sweep (world.now + elapsed) world.attempts (hashLogin ana))) = true
  rw [kept]
  rfl

/-- Ten failed logins in a row, of which the first takes effect as a whole. -/
def expired : List Label :=
  [.recordFailedAttempt ana, .command 0 .ok, .command 0 .lost] ++
    (List.range 9).flatMap fun index => [.recordFailedAttempt ana, .command (index + 1) .ok]

theorem lockouts_end_of_ten :
    ∃ world last, (machine 86400 hashEmail hashLogin).exec (.initial 0) expired = some world ∧
      accountLocked (Expiring.get world.attempts (hashLogin ana)) = true ∧
      (machine 86400 hashEmail hashLogin).exec world [.tick 90000] = some last ∧
      accountLocked (Expiring.get last.attempts (hashLogin ana)) = false := by
  have run : ((machine 86400 hashEmail hashLogin).exec (.initial 0) expired).map (fun world =>
      (world.now, accountLocked (Expiring.get world.attempts (hashLogin ana)),
        decide (∀ task ∈ world.tasks, task.isOver = true))) = some (0, true, true) := by
    decide +kernel
  obtain ⟨world, run, after⟩ := Option.map_eq_some_iff.mp run
  obtain ⟨now, after⟩ := Prod.mk.inj after
  obtain ⟨locked, settled⟩ := Prod.mk.inj after
  have fitting : (machine 86400 hashEmail hashLogin).Allows Fits (.initial 0) expired := by
    decide +kernel
  have reached : (machine 86400 hashEmail hashLogin).ReachableBy Fits world :=
    Machine.ReachableBy.exec (.start ⟨0, le_refl _, rfl⟩) fitting run
  have quiet : ∀ label ∈ [Label.tick 90000], label.isAttempt = false := by decide
  have ticked : (machine 86400 hashEmail hashLogin).exec world [.tick 90000] =
      some ⟨world.now + 90000, Expiring.sweep (world.now + 90000) world.rates,
        Expiring.sweep (world.now + 90000) world.attempts, world.tasks⟩ := by
    rw [Machine.exec_cons]
    change (Unlocking.step 86400 hashEmail hashLogin world (.tick 90000)).bind _ = _
    rw [step_tick (by norm_num)]
    rfl
  refine ⟨world, _, run, locked, ticked, ?_⟩
  have passed : world.now + max (keyTtl 86400) attemptsWindow ≤ world.now + 90000 := by
    rw [now]
    norm_num [keyTtl, attemptsWindow]
  exact ((lockouts_end reached (of_decide_eq_true settled)).2.2 _ _ quiet ticked passed "" ana).2

end RateLimit.Unlocking
