import Soc360.Text.Urls

set_option autoImplicit false

/-! Where the login page sends its user. -/

namespace Frontend.Redirects

open Urls

section

variable {Origin : Type} [DecidableEq Origin] (authority : List Char → Option Origin)
  (origin : Origin)

/-- `FALLBACK`. -/
def fallback : List Char := ['/']

/-- `sanitizeRedirect`, at the origin of the window. A value that is not a string is `none`. -/
def sanitizeRedirect (value : Option (List Char)) : List Char :=
  match value with
  | none => fallback
  | some value =>
      if ¬['/'] <+: value then fallback
      else
        match parse authority origin value with
        | none => fallback
        | some (targetOrigin, target) =>
            if targetOrigin ≠ origin ∨ ['/', '/'] <+: target.pathname ∨
                "/login".toList <+: target.pathname then fallback
            else target.pathname ++ target.search ++ target.hash

/-- `validateLoginSearch`: what the page keeps of its `redirect`. -/
def validateLoginSearch (redirect : Option (Option (List Char))) : Option (List Char) :=
  redirect.map (sanitizeRedirect authority origin)

/-- The `href` that the login page navigates to. -/
def destination (redirect : Option (Option (List Char))) : List Char :=
  sanitizeRedirect authority origin (validateLoginSearch authority origin redirect)

/-- A text that the browser takes for itself, within the application and off its login page. -/
structure Local (text : List Char) (target : Parts) : Prop where
  parses : parse authority origin text = some (origin, target)
  written : target.href = text
  single : ¬['/', '/'] <+: target.pathname
  elsewhere : ¬"/login".toList <+: target.pathname

end

section

variable {Origin : Type} {authority : List Char → Option Origin} {origin : Origin}
  {text : List Char} {target : Parts}

theorem local_fallback : Local authority origin fallback ⟨[[]], none, none⟩ where
  parses := rfl
  written := rfl
  single := by decide
  elsewhere := by decide

theorem Local.rooted (stays : Local authority origin text target) : ['/'] <+: text := by
  have canonical := parse_canonical stays.parses
  rw [← stays.written]
  cases path : target.path with
  | nil => exact absurd path canonical.path
  | cons first others =>
    refine ⟨first ++ others.flatMap (fun segment => '/' :: segment) ++ target.search ++
      target.hash, ?_⟩
    simp only [Parts.href, Parts.pathname, path, List.flatMap_cons, List.cons_append,
      List.append_assoc, List.nil_append]

variable [DecidableEq Origin]

theorem sanitizeRedirect_local (value : Option (List Char)) :
    ∃ target, Local authority origin (sanitizeRedirect authority origin value) target := by
  unfold sanitizeRedirect
  split
  next => exact ⟨_, local_fallback⟩
  next value =>
    split
    next => exact ⟨_, local_fallback⟩
    next =>
      split
      next => exact ⟨_, local_fallback⟩
      next targetOrigin target parsed =>
        split
        next => exact ⟨_, local_fallback⟩
        next accepted =>
          simp only [not_or] at accepted
          obtain ⟨_, single, elsewhere⟩ := accepted
          have canonical := parse_canonical parsed
          exact ⟨target.normal, Parts.parse_href authority origin canonical single,
            target.href_normal, single, elsewhere⟩

/-- A local text is kept as it is. -/
theorem Local.kept (stays : Local authority origin text target) :
    sanitizeRedirect authority origin (some text) = text := by
  unfold sanitizeRedirect
  simp only [stays.rooted, not_true_eq_false, if_false, stays.parses, ne_eq, stays.single,
    stays.elsewhere, or_self]
  exact stays.written

/-- Whatever the page is asked for, it navigates within the origin of its window and not back to
itself, and what was checked once is not changed by a second check. -/
theorem redirect_stays (authority : List Char → Option Origin) (origin : Origin)
    (redirect : Option (Option (List Char))) :
    (∃ target, Local authority origin (destination authority origin redirect) target) ∧
    (∀ value, redirect = some value →
      destination authority origin redirect = sanitizeRedirect authority origin value) ∧
    ∀ text target, Local authority origin text target →
      destination authority origin (some (some text)) = text := by
  have once (value : Option (List Char)) : destination authority origin (some value) =
      sanitizeRedirect authority origin value := by
    obtain ⟨target, stays⟩ := @sanitizeRedirect_local _ authority origin _ value
    exact stays.kept
  refine ⟨sanitizeRedirect_local _, ?_, ?_⟩
  · rintro value rfl
    exact once value
  · intro text target stays
    rw [once, stays.kept]

/-- A tab does not hide the second slash. -/
example : sanitizeRedirect (fun host => if host = "soc".toList then some 1 else some 2) 1
    (some "/\t/evil.com".toList) = ['/'] := by decide

end

end Frontend.Redirects
