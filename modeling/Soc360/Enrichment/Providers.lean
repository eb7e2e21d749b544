import Mathlib.Algebra.Order.Monoid.WithTop
import Mathlib.Algebra.Order.Ring.Rat
import Soc360.Enrichment.Service

set_option autoImplicit false

namespace Enrichment

/-! What a provider sends. -/

inductive Subscript where
  | key (name : String)
  | index (index : Nat)

/-- `value[subscript]`, or nothing where Python raises. -/
def subscript : Loaded → Subscript → Option Loaded
  | .obj fields, .key name => fields.lookup (codePoints name)
  | .arr items, .index index => items[index]?
  | .str text, .index index => text[index]?.map fun point => .str [point]
  | _, _ => none

inductive HttpProvider where
  | openAICompat
  | anthropic
  | gemini
  deriving DecidableEq, Repr

namespace HttpProvider

def contentPath : HttpProvider → List Subscript
  | openAICompat => [.key "choices", .index 0, .key "message", .key "content"]
  | anthropic => [.key "content", .index 0, .key "text"]
  | gemini => [.key "candidates", .index 0, .key "content", .key "parts", .index 0, .key "text"]

/-- `_parse_response`. -/
def parseResponse (provider : HttpProvider) (data : Loaded) : Option Loaded :=
  provider.contentPath.foldlM subscript data

end HttpProvider

/-! `_BaseHTTPProvider.complete`. -/

/-- What becomes of a `post`. There is no body where `response.json()` raises. -/
inductive Reply where
  | timeoutException
  | httpError
  | otherException
  | response (statusCode : Nat) (body : Option Loaded)

/-- `LLM_RETRY_MAX_ATTEMPTS`. -/
def retryMaxAttempts : Nat := 3

/-- `LLM_RETRYABLE_STATUS_CODES`. -/
def retryableStatusCodes : List Nat := [429, 500, 502, 503, 504]

/-- `LLM_RETRY_BACKOFF_BASE_SECONDS * (2 ** (attempt - 1))`. -/
def backoff (attempt : Nat) : ℚ≥0 := 1 * 2 ^ (attempt - 1)

/-- Seconds. What hangs takes for ever. -/
abbrev Duration := WithTop ℚ≥0

/-- A turn of the loop, or nothing where the loop goes on. -/
def HttpProvider.turn (provider : HttpProvider) (attempt : Nat) :
    Reply → Option Completion
  | .timeoutException => some (.error .timeout)
  | .httpError => some (.error .transport)
  | .otherException => some (.error .other)
  | .response statusCode body =>
      if statusCode = 451 then some (.error .contentFilter)
      else if statusCode = 429 then
        if attempt < retryMaxAttempts then none else some (.error .rateLimit)
      else if statusCode ∈ retryableStatusCodes then
        if attempt < retryMaxAttempts then none else some (.error .response)
      else if ¬(200 ≤ statusCode ∧ statusCode ≤ 299) then some (.error .response)
      else
        match body.bind provider.parseResponse with
        | none => some (.error .response)
        | some content => some (.ok content)

structure Attempt where
  duration : Duration
  reply : Reply

/-- The loop from an attempt on, with how long it takes. -/
def HttpProvider.completeFrom (provider : HttpProvider) (attempts : Nat → Attempt) :
    Nat → Nat → Duration × Completion
  | 0, _ => (0, .error .unexpected)
  | left + 1, attempt =>
      let post := attempts attempt
      match provider.turn attempt post.reply with
      | some outcome => (post.duration, outcome)
      | none =>
          let later := completeFrom provider attempts left (attempt + 1)
          (post.duration + backoff attempt + later.1, later.2)

def HttpProvider.complete (provider : HttpProvider) (attempts : Nat → Attempt) :
    Duration × Completion :=
  provider.completeFrom attempts retryMaxAttempts 1

section

variable {provider : HttpProvider} {attempts : Nat → Attempt}

/-- A turn that goes on is not the last. -/
theorem turn_none {attempt : Nat} {reply : Reply} (goesOn : provider.turn attempt reply = none) :
    attempt < retryMaxAttempts := by
  unfold HttpProvider.turn at goesOn
  repeat' split at goesOn
  all_goals first
    | assumption
    | cases goesOn

/-- The line after the loop is not reached. -/
theorem completeFrom_expected {left attempt : Nat} (some' : left ≠ 0)
    (turns : attempt + left = retryMaxAttempts + 1) :
    (provider.completeFrom attempts left attempt).2 ≠ .error .unexpected := by
  induction left generalizing attempt with
  | zero => exact absurd rfl some'
  | succ left ih =>
      rw [HttpProvider.completeFrom]
      cases turn : provider.turn attempt (attempts attempt).reply with
      | none =>
          have early := turn_none turn
          exact ih (by omega) (by omega)
      | some outcome =>
          rintro same
          simp only at same
          subst same
          unfold HttpProvider.turn at turn
          repeat' split at turn
          all_goals simp at turn

theorem complete_expected : (provider.complete attempts).2 ≠ .error .unexpected :=
  completeFrom_expected (by decide) rfl

end

/-! The citations check puts no character into the text that is not of the text or of the mark. -/

section

variable {texts : Texts} {finding : EnrichmentInput} {text : String}

theorem citationEnd_split {taken found left rest : List Char} {least : Nat}
    (ended : citationEnd texts taken least rest = some (found, left)) :
    found ++ left = taken ++ rest := by
  rw [citationEnd] at ended
  split at ended
  next =>
    cases ended
    rw [List.append_assoc, List.takeWhile_append_dropWhile]
  next => cases ended

theorem citationMatcher_split {before : Option Char} {rest taken left : List Char}
    (found : citationMatcher texts before rest = some (taken, left)) : taken ++ left = rest := by
  unfold citationMatcher at found
  split at found
  next => cases found
  next =>
    split at found
    next c second e number =>
      split at found
      next => cases found
      next =>
        split at found
        next =>
          split at found
          next y₁ y₂ y₃ y₄ number =>
            split at found
            next => exact citationEnd_split found
            next => cases found
          next => cases found
        next =>
          split at found
          next => exact citationEnd_split found
          next => cases found
    next => cases found

theorem mem_checkCitations {char : Char}
    (member : char ∈ (checkCitations texts text finding).text.toList) :
    char ∈ text.toList ∨ char ∈ "[unverified reference removed]".toList := by
  rw [checkCitations, String.toList_ofList] at member
  obtain ⟨piece, found, inside⟩ := List.mem_flatMap.mp member
  have within := Python.pieces_within (fun _ _ _ _ => citationMatcher_split) _ _ _ piece found
  cases piece with
  | inl other =>
      rw [List.mem_singleton.mp inside]
      exact .inl within
  | inr taken =>
      simp only at inside
      split at inside
      next => exact .inr inside
      next => exact .inl (within inside)

theorem storable_checkCitations (stored : text.storable = true) :
    (checkCitations texts text finding).text.storable = true := by
  rw [String.storable_iff] at stored ⊢
  intro member
  rcases mem_checkCitations member with inside | inside
  · exact stored inside
  · exact absurd inside (by decide)

end

end Enrichment
