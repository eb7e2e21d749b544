import Mathlib.Data.Rat.Floor
import Soc360.Store.Expiring
import Soc360.Store.Fault
import Soc360.Store.Machine

set_option autoImplicit false

namespace RateLimit

/-- `ratelimit:ip:` and `ratelimit:email:`, the latter with the hash of the address. -/
inductive RateKey where
  | ip (ip : String)
  | email (hash : String)
  deriving DecidableEq, Repr

/-- The hash of a key. A field `failures` that is not there counts as 0. -/
structure RateHash where
  failures : Nat
  lockedUntil : Option Time
  deriving DecidableEq, Repr

abbrev RateStore := Expiring RateKey RateHash

/-- `_LOCKOUT_TABLE`. -/
def lockoutTable : List (Nat × Nat) :=
  [(5, 3 * 60), (10, 15 * 60), (15, 60 * 60), (20, 4 * 60 * 60), (25, 24 * 60 * 60)]

/-- The loop of `_get_lockout_seconds`. -/
def lastExceeded (failures : Nat) : List (Nat × Nat) → Nat → Nat
  | [], result => result
  | (threshold, seconds) :: rest, result =>
      if threshold < failures then lastExceeded failures rest seconds else result

/-- `_get_lockout_seconds`. -/
def lockoutSeconds (failures : Nat) : Nat := lastExceeded failures lockoutTable 0

/-- `LOGIN_ATTEMPTS_MAX`. -/
def loginAttemptsMax : Nat := 10

/-- The TTL of a key, for a `RATE_LIMIT_WINDOW_SECONDS`. -/
def keyTtl (windowSeconds : Nat) : Time := windowSeconds + 3600

structure LockoutStatus where
  isLocked : Bool
  retryAfter : Option Int
  failures : Nat
  deriving DecidableEq, Repr

namespace RateStore

variable (store : RateStore) (key : RateKey)

def failures : Nat := ((store.get key).map RateHash.failures).getD 0

/-- `float(hget(key, "locked_until") or 0)`. -/
def lockedUntil : Time := ((store.get key).bind RateHash.lockedUntil).getD 0

/-- `HINCRBY key failures 1`. -/
def hincrby : RateStore :=
  store.write key fun found =>
    ⟨(found.map RateHash.failures).getD 0 + 1, found.bind RateHash.lockedUntil⟩

/-- `HSET key locked_until time`. -/
def hset (time : Time) : RateStore :=
  store.write key fun found => ⟨(found.map RateHash.failures).getD 0, some time⟩

end RateStore

/-- The end of `RateLimiter.check`, with what its two HGETALL read. -/
def checked (ipData emailData : Option RateHash) (now : Time) : LockoutStatus :=
  let locked (data : Option RateHash) : Time := (data.bind RateHash.lockedUntil).getD 0
  let failures (data : Option RateHash) : Nat := (data.map RateHash.failures).getD 0
  if now < locked ipData then ⟨true, some ⌊locked ipData - now⌋, failures ipData⟩
  else if now < locked emailData then ⟨true, some ⌊locked emailData - now⌋, failures emailData⟩
  else ⟨false, none, max (failures ipData) (failures emailData)⟩

/-- Where `record_failure` stands between two commands. `rest` are the keys that it has not come
to yet. -/
inductive Recording where
  | increment (key : RateKey) (rest : List RateKey)
  | expire (key : RateKey) (failures : Nat) (rest : List RateKey)
  | readLock (key : RateKey) (failures : Nat) (rest : List RateKey)
  | writeLock (key : RateKey) (failures : Nat) (current : Time) (rest : List RateKey)
  | readIp
  | readEmail (ipData : Option RateHash)
  | returned (status : LockoutStatus)
  | raised
  deriving DecidableEq, Repr

/-- A call of `record_failure`, with the time at which it began. -/
structure Failure where
  start : Time
  ip : RateKey
  email : RateKey
  stage : Recording
  deriving DecidableEq, Repr

/-- The next turn of the loop, or the check after it. -/
def Recording.turn : List RateKey → Recording
  | [] => .readIp
  | key :: rest => .increment key rest

/-- `_hash_email` is a parameter. -/
def Failure.begin (hashEmail : String → String) (start : Time) (ip email : String) : Failure :=
  let ipKey := .ip ip
  let emailKey := .email (hashEmail email)
  ⟨start, ipKey, emailKey, .turn [ipKey, emailKey]⟩

/-- `new_locked_until`. -/
def newLockedUntil (start current : Time) (failures : Nat) : Time :=
  max start current + lockoutSeconds failures

/-- The next command of `record_failure` and where it leads. -/
def Failure.next (windowSeconds : Nat) (now : Time) (fate : Fate) (store : RateStore)
    (call : Failure) : Option (Recording × RateStore) :=
  match call.stage with
  | .increment key rest =>
      some (fate.branch (.expire key (store.failures key + 1) rest) .raised,
        fate.settle (RateStore.hincrby · key) store)
  | .expire key failures rest =>
      let proceed :=
        if 0 < lockoutSeconds failures then .readLock key failures rest else .turn rest
      some (fate.branch proceed .raised,
        fate.settle (Expiring.expire key (now + keyTtl windowSeconds)) store)
  | .readLock key failures rest =>
      some (fate.branch (.writeLock key failures (store.lockedUntil key) rest) .raised, store)
  | .writeLock key failures current rest =>
      some (fate.branch (.turn rest) .raised,
        fate.settle (RateStore.hset · key (newLockedUntil call.start current failures)) store)
  | .readIp => some (fate.branch (.readEmail (store.get call.ip)) .raised, store)
  | .readEmail ipData =>
      some (fate.branch (.returned (checked ipData (store.get call.email) now)) .raised, store)
  | .returned _ => none
  | .raised => none

def Recording.isOver : Recording → Bool
  | returned _ => true
  | raised => true
  | _ => false

/-- The command that a call waits to send on a key after it has counted on it. -/
def Recording.On (key : RateKey) (failures : Nat) : Recording → Prop
  | expire key' failures' _ => key' = key ∧ failures' = failures
  | readLock key' failures' _ => key' = key ∧ failures' = failures
  | writeLock key' failures' _ _ => key' = key ∧ failures' = failures
  | _ => False

section

variable {store : RateStore} {key other : RateKey} {time : Time} {failures : Nat}

theorem Recording.On.not_over {stage : Recording} (on : stage.On key failures) :
    stage.isOver = false := by
  cases stage with
  | expire _ _ _ => rfl
  | readLock _ _ _ => rfl
  | writeLock _ _ _ _ => rfl
  | increment _ _ => cases on
  | readIp => cases on
  | readEmail _ => cases on
  | returned _ => cases on
  | raised => cases on

theorem each_hincrby {holds : Time → Prop} (each : Expiring.Each holds store) :
    Expiring.Each holds (store.hincrby key) := each.write

theorem each_hset {holds : Time → Prop} (each : Expiring.Each holds store) :
    Expiring.Each holds (store.hset key time) := each.write

theorem lasting_hincrby (lasting : Expiring.Lasting (store.hincrby key) other) :
    Expiring.Lasting store other ∨ other = key ∧ store key = none := lasting.of_write

theorem lasting_hset (lasting : Expiring.Lasting (store.hset key time) other) :
    Expiring.Lasting store other ∨ other = key ∧ store key = none := lasting.of_write

@[simp] theorem hincrby_lockedUntil : (store.hincrby key).lockedUntil other =
    store.lockedUntil other := by
  by_cases same : other = key
  · subst same
    simp [RateStore.lockedUntil, RateStore.hincrby, Expiring.get]
  · simp [RateStore.lockedUntil, RateStore.hincrby, Expiring.get, same]

@[simp] theorem hincrby_failures : (store.hincrby key).failures key = store.failures key + 1 := by
  simp [RateStore.failures, RateStore.hincrby, Expiring.get]

@[simp] theorem hincrby_other (differ : other ≠ key) : (store.hincrby key) other = store other := by
  simp [RateStore.hincrby, differ]

@[simp] theorem hset_lockedUntil : (store.hset key time).lockedUntil key = time := by
  simp [RateStore.lockedUntil, RateStore.hset, Expiring.get]

@[simp] theorem hset_failures : (store.hset key time).failures other = store.failures other := by
  by_cases same : other = key
  · subst same
    simp [RateStore.failures, RateStore.hset, Expiring.get]
  · simp [RateStore.failures, RateStore.hset, Expiring.get, same]

@[simp] theorem hset_other (differ : other ≠ key) : (store.hset key time) other = store other := by
  simp [RateStore.hset, differ]

@[simp] theorem expire_get (store : RateStore) :
    Expiring.get (Expiring.expire key time store) other = Expiring.get store other := by
  by_cases same : other = key
  · subst same
    cases found : store other with
    | none => simp [Expiring.get, found]
    | some entry => simp [Expiring.get, found]
  · simp [Expiring.get, same]

end

end RateLimit
