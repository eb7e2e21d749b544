import Soc360.Text.Joined
import Soc360.Text.Python
import Soc360.Vulnerabilities.Closing

set_option autoImplicit false

namespace Vulnerabilities

open Joined (marks pieces)
open Scans (JsonObject)

/-- What `finding_identity` is given of a finding. -/
structure Finding where
  metadata : Option JsonObject
  cveId : Option String
  title : String

namespace Finding

variable (texts : Texts) (finding : Finding)

def identity : String := findingIdentity texts finding.metadata finding.cveId finding.title

/-- The inner `field` of `finding_identity`. -/
def field (name : String) : String :=
  match (finding.metadata.getD []).lookup name with
  | none => ""
  | some .null => ""
  | some value => texts.strip (texts.str value)

/-- The normalised script, host, port, protocol and CVE. -/
def surface : List String :=
  [texts.lower (finding.field texts "script_id"), texts.lower (finding.field texts "host"),
    finding.field texts "port", texts.lower (finding.field texts "protocol"),
    texts.upper (texts.strip (finding.cveId.getD ""))]

def normalTitle : String := texts.lower (texts.strip finding.title)

/-- Some field of the surface is not empty. -/
def Observed : Prop := ∃ field ∈ finding.surface texts, field ≠ ""

/-- Two findings have one surface, or none and one title. -/
def Same (other : Finding) : Prop :=
  (finding.Observed texts ∧ other.Observed texts ∧ finding.surface texts = other.surface texts) ∨
    (¬finding.Observed texts ∧ ¬other.Observed texts ∧
      finding.normalTitle texts = other.normalTitle texts)

/-- The texts that the identity is made of. -/
def words : List (List Char) :=
  if (finding.surface texts).all (· == "") then [(finding.normalTitle texts).toList]
  else (finding.surface texts).map String.toList

/-- How many bars each of the words has. -/
def bars : List Nat := marks '|' (finding.words texts)

/-- If two findings have equally many bars, those that join the words included, then they have
them in the same words. -/
def BarredAlike (other : Finding) : Prop :=
  (finding.bars texts).sum + (finding.bars texts).length =
      (other.bars texts).sum + (other.bars texts).length →
    finding.bars texts = other.bars texts

end Finding

section

variable {texts : Texts} {finding other : Finding}

theorem Finding.observed_iff :
    finding.Observed texts ↔ ¬(finding.surface texts).all (· == "") = true := by
  simp [Finding.Observed]

theorem Finding.words_observed (observed : finding.Observed texts) :
    finding.words texts = (finding.surface texts).map String.toList :=
  if_neg (Finding.observed_iff.mp observed)

theorem Finding.words_titled (untold : ¬finding.Observed texts) :
    finding.words texts = [(finding.normalTitle texts).toList] := by
  rw [Finding.observed_iff, not_not] at untold
  exact if_pos untold

theorem Finding.words_nonempty : finding.words texts ≠ [] := by
  by_cases observed : finding.Observed texts
  · rw [Finding.words_observed observed]
    simp [Finding.surface]
  · rw [Finding.words_titled observed]
    simp

/-- The identity is the words joined by bars. A title stands alone. -/
theorem Finding.identity_toList :
    (finding.identity texts).toList = ['|'].intercalate (finding.words texts) := by
  have shape : finding.identity texts =
      if (finding.surface texts).all (· == "") then finding.normalTitle texts
      else "|".intercalate (finding.surface texts) := rfl
  rw [shape, Finding.words]
  split
  next => simp
  next => exact String.toList_intercalate

theorem Finding.identity_eq_iff : finding.identity texts = other.identity texts ↔
    pieces '|' (finding.words texts) = pieces '|' (other.words texts) := by
  rw [← String.toList_inj, Finding.identity_toList, Finding.identity_toList]
  exact Joined.intercalate_eq_iff Finding.words_nonempty Finding.words_nonempty

/-- The five fields are never taken for a title. -/
theorem Finding.same_iff :
    finding.Same texts other ↔ finding.words texts = other.words texts := by
  have injective : Function.Injective (List.map String.toList) :=
    List.map_injective_iff.mpr fun _ _ => String.toList_injective
  by_cases observed : finding.Observed texts <;> by_cases observed' : other.Observed texts
  · rw [Finding.words_observed observed, Finding.words_observed observed', injective.eq_iff]
    simp [Finding.Same, observed, observed']
  · rw [Finding.words_observed observed, Finding.words_titled observed']
    simp [Finding.Same, observed, observed', Finding.surface]
  · rw [Finding.words_titled observed, Finding.words_observed observed']
    simp [Finding.Same, observed, observed', Finding.surface]
  · rw [Finding.words_titled observed, Finding.words_titled observed']
    simp [Finding.Same, observed, observed', String.toList_inj]

/-- The identity separates two findings unless they have equally many bars in different words. -/
theorem identity_separates (alike : finding.BarredAlike texts other) :
    finding.identity texts = other.identity texts ↔ finding.Same texts other := by
  rw [Finding.identity_eq_iff, Finding.same_iff]
  constructor
  · intro samePieces
    have sameTotal : (finding.bars texts).sum + (finding.bars texts).length =
        (other.bars texts).sum + (other.bars texts).length := by
      unfold Finding.bars
      rw [← Joined.length_pieces, ← Joined.length_pieces, samePieces]
    exact Joined.eq_iff.mpr ⟨samePieces, alike sameTotal⟩
  · intro sameWords
    rw [sameWords]

/-- In particular it separates findings without bars. -/
theorem Finding.BarredAlike.of_barless (barless : ∀ count ∈ finding.bars texts, count = 0)
    (barless' : ∀ count ∈ other.bars texts, count = 0) : finding.BarredAlike texts other := by
  intro sameTotal
  rw [List.eq_replicate_of_mem barless, List.eq_replicate_of_mem barless'] at sameTotal ⊢
  simpa using sameTotal

end

/-! A bar in the name of a script. -/

/-- Python's functions, on the texts below. -/
def shortTexts : Texts where
  str value :=
    match value with
    | .str text => text
    | _ => "None"
  strip text := String.ofList (Python.strip text.toList)
  lower := String.toLower
  upper := String.toUpper

def scripted (script host : String) : Finding :=
  ⟨some [("script_id", .str script), ("host", .str host)], none, script ++ " on " ++ host⟩

theorem scripts_separated :
    ((scripted "a|b" "c").identity shortTexts = (scripted "A|B" "d").identity shortTexts ↔
      (scripted "a|b" "c").Same shortTexts (scripted "A|B" "d")) ∧
    ((scripted "a" "c").identity shortTexts = (scripted "A" "c").identity shortTexts ↔
      (scripted "a" "c").Same shortTexts (scripted "A" "c")) := by
  refine ⟨identity_separates ?_, identity_separates (.of_barless ?_ ?_)⟩
  · exact fun _ => by decide +kernel
  · decide +kernel
  · decide +kernel

theorem barred_scripts_collide :
    ¬∀ finding other : Finding, finding.identity shortTexts = other.identity shortTexts ↔
      finding.Same shortTexts other := by
  intro separated
  have same := (separated (scripted "a|b" "c") (scripted "a" "b|c")).mp (by decide +kernel)
  rw [Finding.same_iff] at same
  revert same
  decide +kernel

end Vulnerabilities
