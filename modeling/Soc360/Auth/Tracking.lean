import Soc360.Auth.Denylist
import Soc360.Store.Machine

set_option autoImplicit false

namespace Auth

/-- The session services of one user on a shared Redis. `tracked` and `untracked` record
the completed calls; a revocation is known by the number of its call. -/
structure Sessions where
  redis : Redis
  revokers : Nat → Option Revocation
  tracked : List Jti
  untracked : List Jti

/-- One Redis command of one process. -/
inductive SessionLabel where
  | trackJti (jti : Jti)
  | untrackJti (jti : Jti)
  | revokeAll (call : Nat)
  | revokeNext (call : Nat)

section

variable (user : UserId) (ttlSeconds : Seconds)

def Sessions.step (state : Sessions) : SessionLabel → Option Sessions
  | .trackJti jti => some { state with
      redis := state.redis.sadd user jti, tracked := jti :: state.tracked }
  | .untrackJti jti => some { state with
      redis := state.redis.srem user jti, untracked := jti :: state.untracked }
  | .revokeAll call =>
      match state.revokers call with
      | none => some { state with
          revokers := Function.update state.revokers call (some .reading) }
      | some _ => none
  | .revokeNext call =>
      (state.revokers call).bind fun revocation =>
        (revocation.next user ttlSeconds .ok state.redis).map fun (after, redis) =>
          { state with
            redis := redis, revokers := Function.update state.revokers call (some after) }

/-- Commands of any number of processes in any order, none of which fails. -/
def sessions : Machine Sessions SessionLabel where
  start state := (∀ call, state.revokers call = none) ∧ state.tracked = [] ∧ state.untracked = []
  step := Sessions.step user ttlSeconds

end

/-- A revocation in progress has read the JTI and is still to denylist it. -/
def Sessions.Awaiting (state : Sessions) (jti : Jti) : Prop :=
  ∃ call first todo, state.revokers call = some (.writing first todo) ∧ jti ∈ first :: todo

/-- The JTIs a mass revocation still has to reach. -/
def Sessions.Live (state : Sessions) (jti : Jti) : Prop :=
  jti ∈ state.tracked ∧ jti ∉ state.untracked

/-- A DELETE drops no live JTI that nobody has denylisted or read: no `track_jti` fell
between the SMEMBERS and the DELETE of its revocation. -/
def Covered (user : UserId) (state : Sessions) (label : SessionLabel) : Prop :=
  ∀ call, label = .revokeNext call → state.revokers call = some .deleting →
    ∀ jti, state.Live jti → jti ∈ state.redis.active user →
      state.redis.isTokenRevoked jti = true ∨ state.Awaiting jti

/-- The revocation invariant: a live JTI is denylisted, tracked or about to be denylisted. -/
def NoneEscaped (user : UserId) (state : Sessions) : Prop :=
  ∀ jti, state.Live jti → state.redis.isTokenRevoked jti = true ∨
    jti ∈ state.redis.active user ∨ state.Awaiting jti

theorem Sessions.Awaiting.other {state : Sessions} {jti : Jti} {call : Nat}
    {before after : Revocation} (awaiting : state.Awaiting jti)
    (held : state.revokers call = some before)
    (kept : ∀ first todo, before = .writing first todo → jti ∈ first :: todo →
      ∃ first' todo', after = .writing first' todo' ∧ jti ∈ first' :: todo')
    (redis : Redis) :
    Sessions.Awaiting { state with
      redis := redis, revokers := Function.update state.revokers call (some after) } jti := by
  obtain ⟨other, first, todo, writing, waiting⟩ := awaiting
  by_cases same : other = call
  · subst same
    rw [held] at writing
    obtain ⟨first', todo', moved, waiting⟩ := kept first todo (Option.some.inj writing) waiting
    exact ⟨other, first', todo', by simp [moved], waiting⟩
  · exact ⟨other, first, todo, by simpa [same] using writing, waiting⟩

section

variable {user : UserId} {ttlSeconds : Seconds} {state next : Sessions}

theorem NoneEscaped.track (safe : NoneEscaped user state) (jti : Jti) :
    NoneEscaped user { state with
      redis := state.redis.sadd user jti, tracked := jti :: state.tracked } := by
  rintro other ⟨tracked, untracked⟩
  rcases List.mem_cons.mp tracked with new | old
  · subst new
    refine .inr (.inl ?_)
    simp [Redis.sadd]
  · rcases safe other ⟨old, untracked⟩ with revoked | active | awaiting
    · exact .inl revoked
    · refine .inr (.inl ?_)
      simpa [Redis.sadd] using .inr active
    · exact .inr (.inr awaiting)

theorem NoneEscaped.untrack (safe : NoneEscaped user state) (jti : Jti) :
    NoneEscaped user { state with
      redis := state.redis.srem user jti, untracked := jti :: state.untracked } := by
  rintro other ⟨tracked, untracked⟩
  simp only [List.mem_cons, not_or] at untracked
  rcases safe other ⟨tracked, untracked.2⟩ with revoked | active | awaiting
  · exact .inl revoked
  · refine .inr (.inl ?_)
    simpa [Redis.srem] using ⟨active, untracked.1⟩
  · exact .inr (.inr awaiting)

theorem NoneEscaped.start (safe : NoneEscaped user state) {call : Nat}
    (unused : state.revokers call = none) :
    NoneEscaped user { state with
      revokers := Function.update state.revokers call (some .reading) } := by
  intro other live
  rcases safe other live with revoked | active | ⟨holder, first, todo, writing, waiting⟩
  · exact .inl revoked
  · exact .inr (.inl active)
  · refine .inr (.inr ⟨holder, first, todo, ?_, waiting⟩)
    have differ : holder ≠ call := by
      rintro rfl
      rw [unused] at writing
      cases writing
    simpa [differ] using writing

theorem NoneEscaped.command (safe : NoneEscaped user state) {call : Nat}
    (covered : Covered user state (.revokeNext call))
    {revocation after : Revocation} {redis : Redis}
    (held : state.revokers call = some revocation)
    (taken : revocation.next user ttlSeconds .ok state.redis = some (after, redis)) :
    NoneEscaped user { state with
      redis := redis, revokers := Function.update state.revokers call (some after) } := by
  intro jti live
  cases revocation with
  | reading =>
      have kept : redis = state.redis := by
        simp only [Revocation.next] at taken
        split at taken <;> cases taken <;> rfl
      subst kept
      rcases safe jti live with revoked | active | awaiting
      · exact .inl revoked
      · exact .inr (.inl active)
      · refine .inr (.inr (awaiting.other held ?_ _))
        intro first todo same
        cases same
  | writing first todo =>
      cases taken
      rcases safe jti live with revoked | active | awaiting
      · left
        rw [Fate.settle_ok, Redis.setRevoked_revoked, revoked, Bool.or_true]
      · exact .inr (.inl active)
      · by_cases now : jti = first
        · left
          rw [Fate.settle_ok, Redis.setRevoked_revoked]
          simp [now]
        · refine .inr (.inr (awaiting.other held ?_ _))
          intro head tail same waiting
          cases same
          have later : jti ∈ todo := (List.mem_cons.mp waiting).resolve_left now
          cases todo with
          | nil => cases later
          | cons second rest => exact ⟨second, rest, rfl, later⟩
  | deleting =>
      cases taken
      have still (awaiting : state.Awaiting jti) : Sessions.Awaiting { state with
          redis := state.redis.delActive user
          revokers := Function.update state.revokers call (some .returned) } jti := by
        refine awaiting.other held ?_ _
        intro first todo same
        cases same
      rcases safe jti live with revoked | active | awaiting
      · exact .inl revoked
      · rcases covered call rfl held jti live active with revoked | awaiting
        · exact .inl revoked
        · exact .inr (.inr (still awaiting))
      · exact .inr (.inr (still awaiting))
  | returned => cases taken
  | raised command => cases taken

theorem NoneEscaped.step {label : SessionLabel} (safe : NoneEscaped user state)
    (covered : Covered user state label)
    (taken : state.step user ttlSeconds label = some next) : NoneEscaped user next := by
  cases label with
  | trackJti jti =>
      cases taken
      exact safe.track jti
  | untrackJti jti =>
      cases taken
      exact safe.untrack jti
  | revokeAll call =>
      simp only [Sessions.step] at taken
      split at taken
      next unused =>
        cases taken
        exact safe.start unused
      next => cases taken
  | revokeNext call =>
      obtain ⟨revocation, held, taken⟩ := Option.bind_eq_some_iff.mp taken
      obtain ⟨⟨after, redis⟩, command, rfl⟩ := Option.map_eq_some_iff.mp taken
      exact safe.command covered held command

/-- No JTI escapes a mass revocation, in the runs whose DELETEs are covered. -/
theorem no_jti_escapes (user : UserId) (ttlSeconds : Seconds) {state : Sessions}
    (reached : (sessions user ttlSeconds).ReachableBy (Covered user) state)
    (completed : ∀ call revocation, state.revokers call = some revocation →
      revocation = .returned) {jti : Jti} (tracked : jti ∈ state.tracked)
    (kept : jti ∉ state.untracked) :
    state.redis.isTokenRevoked jti = true ∨ jti ∈ state.redis.active user := by
  have safe : NoneEscaped user state := by
    refine reached.invariant ?_ ?_
    · rintro state ⟨_, none_tracked, _⟩ other ⟨member, _⟩
      rw [none_tracked] at member
      cases member
    · intro before next label _ safe covered taken
      exact safe.step covered taken
  rcases safe jti ⟨tracked, kept⟩ with revoked | active | ⟨call, first, todo, writing, _⟩
  · exact .inl revoked
  · exact .inr active
  · cases completed call _ writing

end

/-- One session tracked before the revocation reads the set, and one after. -/
def lateTrack : List SessionLabel :=
  [.trackJti "jti-a", .revokeAll 0, .revokeNext 0, .trackJti "jti-b", .revokeNext 0,
    .revokeNext 0]

/-- The second session is neither denylisted nor tracked once everything is over. -/
theorem late_track_escapes :
    ∃ state, (sessions 1 900).exec ⟨.empty, fun _ => none, [], []⟩ lateTrack = some state ∧
      (∀ call revocation, state.revokers call = some revocation → revocation = .returned) ∧
      "jti-b" ∈ state.tracked ∧ "jti-b" ∉ state.untracked ∧
      state.redis.isTokenRevoked "jti-b" = false ∧ "jti-b" ∉ state.redis.active 1 := by
  refine ⟨_, rfl, ?_, by decide, by decide, by decide, by decide⟩
  intro call revocation held
  by_cases same : call = 0
  · subst same
    simpa using held.symm
  · simp [same] at held

theorem covered_of_label {user : UserId} {state : Sessions} {label : SessionLabel}
    (other : ∀ call, label = .revokeNext call → state.revokers call ≠ some .deleting) :
    Covered user state label :=
  fun call same held => absurd held (other call same)

/-- One session is tracked and then revoked. -/
def trackedRevocation : List SessionLabel :=
  [.trackJti "jti-a", .revokeAll 0, .revokeNext 0, .revokeNext 0, .revokeNext 0]

theorem no_jti_escapes_tracked :
    ∃ state, (sessions 1 900).exec ⟨.empty, fun _ => none, [], []⟩ trackedRevocation =
        some state ∧
      (state.redis.isTokenRevoked "jti-a" = true ∨ "jti-a" ∈ state.redis.active 1) := by
  have allows : (sessions 1 900).Allows (Covered 1) ⟨.empty, fun _ => none, [], []⟩
      trackedRevocation := by
    refine ⟨covered_of_label (by simp), ?_⟩
    rintro _ ⟨rfl⟩
    refine ⟨covered_of_label (by simp), ?_⟩
    rintro _ ⟨rfl⟩
    refine ⟨covered_of_label (by simp), ?_⟩
    rintro _ ⟨rfl⟩
    refine ⟨covered_of_label (by simp), ?_⟩
    rintro _ ⟨rfl⟩
    refine ⟨?_, fun _ _ => trivial⟩
    intro call _ _ jti live active
    left
    rw [List.mem_singleton.mp active]
    decide
  refine ⟨_, rfl, ?_⟩
  refine no_jti_escapes 1 900 (Machine.ReachableBy.exec (.start ⟨fun _ => rfl, rfl, rfl⟩)
    allows rfl) ?_ (by decide) (by decide)
  intro call revocation held
  by_cases same : call = 0
  · subst same
    simpa using held.symm
  · simp [same] at held

end Auth
