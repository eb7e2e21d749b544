import Soc360.Payloads.Crashes
import Soc360.Payloads.Tenants
import Soc360.Text.Hyphens
import Soc360.Text.Numerals

set_option autoImplicit false

/-! The slugs that `create_tenant` stores. -/

namespace Payloads

open Hyphens (Hyphenated Groups joined orHyphen words)
open Tenants (Tenant)

/-- `[a-z0-9]`. -/
def slugChar (char : Char) : Bool :=
  0x61 ≤ char.toNat && char.toNat ≤ 0x7a || 0x30 ≤ char.toNat && char.toNat ≤ 0x39

/-- `slugRe`. -/
def slugPattern : Regex := Hyphens.pattern slugChar

/-- One or more groups of `[a-z0-9]+` joined by single hyphens, of 3 to 100 characters, and not in
use. -/
structure SlugSound (slugs : List String) (slug : String) : Prop where
  wellFormed : Hyphenated slugChar slug.toList
  fits : 3 ≤ slug.length ∧ slug.length ≤ 100
  unused : slug ∉ slugs

section

variable (library : Library)

def isBlank (char : Char) : Bool := Python.isSpace char || char == '_'

/-- The ASCII letters, digits and separators of a name in NFKD, in lower case. -/
def nameText (name : String) : List Char :=
  (Python.strip (((library.nfkd name).toList.filter fun char => char.toNat < 128).map
    Char.toLower)).filter fun char =>
      Python.isAlnum char || char == '_' || Python.isSpace char || char == '-'

/-- Its runs of letters and digits. -/
def nameWords (name : String) : List (List Char) := words (orHyphen isBlank) (nameText library name)

end

section

variable {library : Library} {name slug : String}

theorem strip_subset (text : List Char) : Python.strip text ⊆ text := by
  intro char member
  exact (List.dropWhile_sublist _).subset (List.rdropWhile_prefix _ _ |>.subset member)

theorem nameWords_groups : Groups slugChar (nameWords library name) := by
  intro group member
  obtain ⟨solid, apart⟩ := Hyphens.words_groups (nameText library name) group member
  refine ⟨solid, ?_⟩
  intro char inside
  have stays := apart char inside
  have named := Hyphens.mem_words member inside
  obtain ⟨stripped, kept⟩ := List.mem_filter.mp named
  obtain ⟨source, _, rfl⟩ := List.mem_map.mp (strip_subset _ stripped)
  have lower := Python.isUpper_toLower source
  simp only [Hyphens.stays, orHyphen, Hyphens.isHyphen, isBlank, Bool.not_eq_true',
    Bool.or_eq_false_iff] at stays
  simp only [stays.1.1, stays.1.2, stays.2, Bool.or_false] at kept
  simp only [Python.isAlnum, Python.isLetter, lower, Bool.false_or] at kept
  exact kept

/-- `_generate_slug` joins the words of the name. -/
theorem generateSlug_eq : generateSlug library name =
    if nameWords library name = [] then .error (.refused 400)
    else .ok (String.ofList ((joined (nameWords library name)).take 100)) := by
  have trimmed : ((Python.sub (Python.runOf Hyphens.isHyphen 1) (fun _ => ['-'])
      (Python.sub (Python.runOf isBlank 1) (fun _ => ['-']) (nameText library name))).dropWhile
        Hyphens.isHyphen).rdropWhile Hyphens.isHyphen = joined (nameWords library name) := by
    rw [Hyphens.sub_runOf, Hyphens.sub_runOf, Hyphens.collapse_collapse]
    exact Hyphens.trim_collapse rfl _
  have unfolded : generateSlug library name =
      if ((Python.sub (Python.runOf Hyphens.isHyphen 1) (fun _ => ['-'])
        (Python.sub (Python.runOf isBlank 1) (fun _ => ['-']) (nameText library name))).dropWhile
          Hyphens.isHyphen).rdropWhile Hyphens.isHyphen = [] then .error (.refused 400)
      else .ok (String.ofList ((((Python.sub (Python.runOf Hyphens.isHyphen 1) (fun _ => ['-'])
        (Python.sub (Python.runOf isBlank 1) (fun _ => ['-']) (nameText library name))).dropWhile
          Hyphens.isHyphen).rdropWhile Hyphens.isHyphen).take 100)) := rfl
  rw [unfolded, trimmed]
  by_cases nobody : nameWords library name = []
  · rw [nobody, if_pos rfl]
    rfl
  · rw [if_neg nobody, if_neg (Hyphenated.ne_nil ⟨_, nobody, nameWords_groups, rfl⟩)]

/-- The search looks up the slug and the suffixes up to the last one. -/
theorem searchSlug_lookups (slugs : List String) (baseSlug slug : String) (suffix : Nat)
    (within : suffix ≤ maxSlugAttempts + 1) :
    (searchSlug slugs baseSlug slug suffix).2.length ≤ maxSlugAttempts + 2 - suffix := by
  fun_induction searchSlug slugs baseSlug slug suffix with
  | case1 slug suffix taken exhausted =>
      rw [List.length_singleton]
      omega
  | case2 slug suffix taken left result looked found ih =>
      have later := ih (by omega)
      rw [found] at later
      change looked.length ≤ _ at later
      rw [List.length_cons]
      omega
  | case3 slug suffix free =>
      rw [List.length_singleton]
      omega

/-! What is stored. -/

variable {state : State} {body : TenantCreateBody} {data : TenantCreate} {row : NewTenant}

/-- A given slug has no newline at its end. A generated one is in use, or the words of the name
are at least three characters with their hyphens, the hundredth of which is no hyphen. -/
def SlugCondition (library : Library) (state : State) (data : TenantCreate) : Prop :=
  match data.slug with
  | some slug => slug.toList.getLast? ≠ some '\n'
  | none =>
      let base := joined (nameWords library data.name)
      String.ofList (base.take 100) ∉ state.slugs → 3 ≤ base.length ∧ base[99]? ≠ some '-'

theorem slugChar_newline : slugChar '\n' = false := by decide

theorem slugChar_hyphen : slugChar '-' = false := by decide

/-- Neither a hyphen nor a newline ends a well-formed slug. -/
theorem wellFormed_getLast {text : List Char} {char : Char} (wellFormed : Hyphenated slugChar text)
    (other : slugChar char = false) : text.getLast? ≠ some char := by
  obtain ⟨last, found, accepted⟩ := wellFormed.getLast
  rw [found]
  rintro ⟨rfl⟩
  rw [other] at accepted
  cases accepted

/-- The pattern accepts a well-formed slug, also with a newline after it. -/
theorem given_wellFormed_iff (valid : slugPattern.matchesStart slug.toList = true) :
    Hyphenated slugChar slug.toList ↔ slug.toList.getLast? ≠ some '\n' := by
  constructor
  · intro wellFormed
    exact wellFormed_getLast wellFormed slugChar_newline
  · intro unended
    rcases Hyphens.matches_pattern.mp valid with wellFormed | ⟨line, shape, _⟩
    · exact wellFormed
    · rw [shape, List.getLast?_append] at unended
      exact absurd rfl unended

/-- Words cut after the hundredth character end in a hyphen, where that is one. -/
theorem base_wellFormed_iff {text : List Char} (wellFormed : Hyphenated slugChar text) :
    Hyphenated slugChar (text.take 100) ↔ text[99]? ≠ some '-' := by
  have last : (text.take 100).getLast? = text[99]?.or text.getLast? := List.getLast?_take
  constructor
  · intro cut hyphen
    rw [hyphen, Option.some_or] at last
    exact wellFormed_getLast cut slugChar_hyphen last
  · intro other
    apply wellFormed.take (by decide)
    rw [last]
    cases found : text[99]? with
    | none => exact wellFormed_getLast wellFormed slugChar_hyphen
    | some char =>
        rw [found] at other
        exact other

theorem numeral_wellFormed (number : Nat) : Hyphenated slugChar (toString number).toList := by
  have digits : (toString number).toList = Nat.toDigits 10 number := Nat.toList_repr
  rw [digits]
  apply Hyphenated.single Nat.toDigits_ne_nil
  intro char member
  have digit := Numerals.isDigit_toDigits member
  rw [slugChar, Bool.or_eq_true]
  exact .inr digit

/-- A suffix goes after a hyphen, and leaves no room for a cut. -/
theorem suffixed_sound {text : List Char} {suffix : Nat} (wellFormed : Hyphenated slugChar text)
    (fits : (suffixed (String.ofList (text.take 100)) suffix).length ≤ 100) :
    Hyphenated slugChar (suffixed (String.ofList (text.take 100)) suffix).toList ∧
      3 ≤ (suffixed (String.ofList (text.take 100)) suffix).length := by
  have digits : 0 < (toString suffix).length := by
    rw [← String.length_toList]
    exact List.length_pos_iff.mpr (numeral_wellFormed suffix).ne_nil
  have letters : 0 < text.length := List.length_pos_iff.mpr wellFormed.ne_nil
  have length : (suffixed (String.ofList (text.take 100)) suffix).length =
      (text.take 100).length + 1 + (toString suffix).length := by
    rw [suffixed, String.length_append, String.length_append, String.length_ofList]
    rfl
  have whole : text.take 100 = text := by
    apply List.take_of_length_le
    rw [length, List.length_take] at fits
    omega
  rw [whole] at length ⊢
  refine ⟨?_, by omega⟩
  rw [suffixed, String.toList_append, String.toList_append, String.toList_ofList,
    List.append_assoc]
  exact wellFormed.append (numeral_wellFormed suffix)

theorem createTenant_data (valid : body.validate library = .ok data) :
    ∀ slug, data.slug = some slug →
      library.assets.reMatch slugRe slug = true ∧ 3 ≤ slug.length ∧ slug.length ≤ 100 := by
  rw [TenantCreateBody.validate] at valid
  split at valid
  next => cases valid
  next =>
    cases read : body.fields library with
    | none =>
        rw [read] at valid
        cases valid
    | some fields =>
        rw [read] at valid
        cases valid
        exact fields_validSlug read

/-- The slug of a new row is the one that is chosen, and fits its column. -/
theorem createTenant_slug (valid : body.validate library = .ok data)
    (created : createTenant library state body = .ok (some row)) :
    data.chooseSlug library state = .ok row.slug ∧ row.slug.length ≤ 100 := by
  rw [createTenant, valid, Except.ok_bind] at created
  obtain ⟨slug, chosen, created⟩ := Except.bind_eq_ok.mp created
  obtain ⟨maxAssets, _, created⟩ := Except.bind_eq_ok.mp created
  obtain ⟨_, _, created⟩ := Except.bind_eq_ok.mp created
  obtain ⟨_, fits, created⟩ := Except.bind_eq_ok.mp created
  obtain ⟨_, _, created⟩ := Except.bind_eq_ok.mp created
  cases created
  have within := of_decide_eq_false (Except.refuse_ok.mp fits)
  exact ⟨chosen, Nat.not_lt.mp within⟩

/-- The search of a free slug makes at most a hundred lookups, and the slug of a tenant that is
stored is well formed, if and only if the condition on the body and the slugs in use holds. -/
theorem slug_sound_iff
    (reads : ∀ text, library.assets.reMatch slugRe text = slugPattern.matchesStart text.toList)
    (valid : body.validate library = .ok data) :
    (∀ baseSlug, (searchSlug state.slugs baseSlug baseSlug 2).2.length ≤ 100) ∧
      ∀ row, createTenant library state body = .ok (some row) →
        (SlugSound state.slugs row.slug ↔ SlugCondition library state data) := by
  constructor
  · intro baseSlug
    exact searchSlug_lookups state.slugs baseSlug baseSlug 2 (by decide)
  · intro row created
    obtain ⟨chosen, fits⟩ := createTenant_slug valid created
    generalize row.slug = slug at chosen fits ⊢
    rw [TenantCreate.chooseSlug] at chosen
    rw [SlugCondition]
    cases given : data.slug with
    | some sent =>
        rw [given] at chosen
        obtain ⟨_, free, same⟩ := Except.bind_eq_ok.mp chosen
        cases same
        have unused := of_decide_eq_false (Except.refuse_ok.mp free)
        obtain ⟨accepted, least, most⟩ := createTenant_data valid _ given
        rw [reads] at accepted
        have iff := given_wellFormed_iff accepted
        constructor
        · intro sound
          exact iff.mp sound.wellFormed
        · intro unended
          exact ⟨iff.mpr unended, ⟨least, most⟩, unused⟩
    | none =>
        rw [given] at chosen
        obtain ⟨baseSlug, generated, found⟩ := Except.bind_eq_ok.mp chosen
        rw [generateSlug_eq] at generated
        split at generated
        next => cases generated
        next some' =>
          cases generated
          have wellFormed : Hyphenated slugChar (joined (nameWords library data.name)) :=
            ⟨_, some', nameWords_groups, rfl⟩
          rcases @searchSlug_cases state.slugs _ (String.ofList
              ((joined (nameWords library data.name)).take 100)) 2 with
            ⟨free, passed⟩ | ⟨taken, suffix, _, _, _, free, passed⟩ | ⟨_, _, raised⟩
          · rw [passed] at found
            cases found
            have cut := base_wellFormed_iff wellFormed
            have length : (String.ofList ((joined (nameWords library data.name)).take 100)).length =
                min 100 (joined (nameWords library data.name)).length := by
              rw [String.length_ofList, List.length_take]
            constructor
            · intro sound _
              have wellFormed' := sound.wellFormed
              have least := sound.fits.1
              rw [String.toList_ofList] at wellFormed'
              exact ⟨by omega, cut.mp wellFormed'⟩
            · intro condition
              obtain ⟨least, other⟩ := condition free
              refine ⟨?_, ⟨by omega, fits⟩, free⟩
              rw [String.toList_ofList]
              exact cut.mpr other
          · rw [passed] at found
            cases found
            obtain ⟨wellFormed', least⟩ := suffixed_sound wellFormed fits
            exact iff_of_true ⟨wellFormed', ⟨least, fits⟩, free⟩ fun unused => absurd taken unused
          · rw [raised] at found
            cases found

/-- `plainLibrary` with the pattern. -/
def slugLibrary : Library :=
  { plainLibrary with
    assets := { plainLibrary.assets with
      reMatch := fun _ text => slugPattern.matchesStart text.toList } }

def named (name : String) (slug : Sent String) : TenantCreateBody :=
  ⟨.value name, slug, .unset, .unset, .unset, false⟩

def freshTenant (name slug : String) : NewTenant :=
  ⟨⟨name, "free", 10, true, some .defaults⟩, slug⟩

theorem slug_sound_iff_acme : SlugSound usersOnly.slugs "acme-2" := by
  have valid : (named "Acme" (.value "acme-2")).validate slugLibrary =
      .ok ⟨"Acme", some "acme-2", .free, 10, .defaults⟩ := by decide +kernel
  have created : createTenant slugLibrary usersOnly (named "Acme" (.value "acme-2")) =
      .ok (some (freshTenant "Acme" "acme-2")) := by decide +kernel
  have unended : SlugCondition slugLibrary usersOnly
      ⟨"Acme", some "acme-2", .free, 10, .defaults⟩ := by
    change "acme-2".toList.getLast? ≠ some '\n'
    decide +kernel
  exact ((slug_sound_iff (fun _ => rfl) valid).2 _ created).mpr unended

/-- The slug `"acme\n"` is accepted and stored, and so is the `"go"` of a name of two letters. -/
theorem slugs_not_sound :
    (∃ data row, (named "Acme" (.value "acme\n")).validate slugLibrary = .ok data ∧
      createTenant slugLibrary usersOnly (named "Acme" (.value "acme\n")) = .ok (some row) ∧
      ¬SlugSound usersOnly.slugs row.slug) ∧
    ∃ data row, (named "Go" .unset).validate slugLibrary = .ok data ∧
      createTenant slugLibrary usersOnly (named "Go" .unset) = .ok (some row) ∧
      ¬SlugSound usersOnly.slugs row.slug := by
  constructor
  · refine ⟨⟨"Acme", some "acme\n", .free, 10, .defaults⟩, freshTenant "Acme" "acme\n",
      by decide +kernel, by decide +kernel, ?_⟩
    intro sound
    exact wellFormed_getLast sound.wellFormed slugChar_newline (by decide +kernel)
  · have valid : (named "Go" .unset).validate slugLibrary =
        .ok ⟨"Go", none, .free, 10, .defaults⟩ := by decide +kernel
    have generated : generateSlug slugLibrary "Go" = .ok "go" := by decide +kernel
    have chosen : TenantCreate.chooseSlug slugLibrary usersOnly
        ⟨"Go", none, .free, 10, .defaults⟩ = .ok "go" := by
      rw [TenantCreate.chooseSlug]
      simp only [generated, Except.ok_bind]
      rw [searchSlug, if_neg (by decide)]
    refine ⟨⟨"Go", none, .free, 10, .defaults⟩, freshTenant "Go" "go", valid, ?_, ?_⟩
    · rw [createTenant, valid, Except.ok_bind, chosen, Except.ok_bind]
      decide +kernel
    · intro sound
      exact absurd sound.fits.1 (by decide +kernel)

end

end Payloads
