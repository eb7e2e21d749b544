import Soc360.Text.Doubles
import Soc360.Text.Pattern
import Soc360.Text.Python
import Soc360.Vulnerabilities.Closing

set_option autoImplicit false

namespace Nmap

open Pattern (boundary chars group opt plus seq star times word)
open Scans (Json JsonObject)
open Vulnerabilities (FindingDraft)

/-- The tables of Unicode that `\w`, `\d` and `float` look up. -/
structure Unicode where
  isWord : Char → Bool
  decimal : Char → Option Nat
  isWord_ascii : ∀ char, char.toNat < 128 → isWord char = (Python.isAlnum char || char == '_')
  isWord_longS : isWord 'ſ' = true
  isWord_space : ∀ char, Python.isSpace char = true → isWord char = false
  isWord_decimal : ∀ char, (decimal char).isSome = true → isWord char = true
  decimal_ascii : ∀ char, char.toNat < 128 →
    decimal char = if '0' ≤ char ∧ char ≤ '9' then some (char.toNat - 48) else none
  decimal_longS : decimal 'ſ' = none

structure ScriptFinding where
  scriptId : Option String
  output : Option String

/-- `NmapPort`, without what `extract_findings` does not read. -/
structure NmapPort where
  protocol : Option String
  portId : Nat
  scripts : List ScriptFinding

structure NmapHost where
  addresses : List String
  ports : List NmapPort
  hostScripts : List ScriptFinding

structure NmapReport where
  scanTypes : List String
  hosts : List NmapHost

def severityFromCvss : Option ℚ → String
  | none => "medium"
  | some score =>
      if 9 ≤ score then "critical"
      else if 7 ≤ score then "high"
      else if 4 ≤ score then "medium"
      else if 0 < score then "low" else "info"

/-- What a capital of a pattern stands for under `re.I`. Of the letters below, `S` alone has a
third form. -/
def caseless (letter char : Char) : Bool :=
  char == letter || char == letter.toLower || letter == 'S' && char == 'ſ'

def wordOf (letters : String) : Pattern := word (letters.toList.map caseless)

def isSign (char : Char) : Bool := char == '+' || char == '-'

section

variable (unicode : Unicode)

def Unicode.isDigit (char : Char) : Bool := (unicode.decimal char).isSome

def digit : Pattern := chars unicode.isDigit

/-- `\bNOT\s+VULNERABLE\b`. -/
def negatedMarker : Pattern :=
  seq (boundary unicode.isWord) (seq (wordOf "NOT") (seq (plus (chars Python.isSpace))
    (seq (wordOf "VULNERABLE") (boundary unicode.isWord))))

/-- `\bVULNERABLE\b`. -/
def marker : Pattern :=
  seq (boundary unicode.isWord) (seq (wordOf "VULNERABLE") (boundary unicode.isWord))

/-- `CVE-\d{4}-\d{4,}`. -/
def cvePattern : Pattern :=
  seq (word ("CVE-".toList.map fun letter char => char == letter)) (seq (times (digit unicode) 4)
    (seq (chars (· == '-')) (seq (times (digit unicode) 4) (star (digit unicode)))))

/-- `\bCVSS:\d(?:\.\d)?/\S*`. -/
def vectorPattern : Pattern :=
  seq (boundary unicode.isWord) (seq (wordOf "CVSS") (seq (chars (· == ':')) (seq (digit unicode)
    (seq (opt (seq (chars (· == '.')) (digit unicode))) (seq (chars (· == '/'))
      (star (chars fun char => !Python.isSpace char)))))))

/-- `v\d(?:\.\d)?`. -/
def versionPattern : Pattern :=
  seq (chars (caseless 'V')) (seq (digit unicode)
    (opt (seq (chars (· == '.')) (digit unicode))))

/-- `[^\d\n+-]`. -/
def isFiller (char : Char) : Bool := !(unicode.isDigit char || char == '\n' || isSign char)

/-- `[+-]?\d+(?:\.\d+)?`. -/
def numberPattern : Pattern :=
  seq (opt (chars isSign)) (seq (plus (digit unicode))
    (opt (seq (chars (· == '.')) (plus (digit unicode)))))

/-- `\bCVSS(?:v\d(?:\.\d)?)?[^\d\n+-]*([+-]?\d+(?:\.\d+)?)`. -/
def cvssPattern : Pattern :=
  seq (boundary unicode.isWord) (seq (wordOf "CVSS") (seq (opt (versionPattern unicode))
    (seq (star (chars (isFiller unicode))) (group (numberPattern unicode)))))

/-- The natural number that decimal digits write. -/
def natOf (digits : List Char) : Nat :=
  digits.foldl (fun value char => 10 * value + (unicode.decimal char).getD 0) 0

/-- The number that a text of the shape of `numberPattern` writes. -/
def numberOf (text : List Char) : ℚ :=
  let body := text.dropWhile isSign
  let whole := body.takeWhile (· != '.')
  let fraction := (body.dropWhile (· != '.')).drop 1
  let size : ℚ := natOf unicode (whole ++ fraction) / (10 ^ fraction.length : Nat)
  if text.head? = some '-' then -size else size

/-- `min(10.0, max(0.0, float(text)))`. What no finite double is near to is an infinity. -/
def clamped (text : List Char) : ℚ :=
  match Doubles.nearest (numberOf unicode text) with
  | some value => min 10 (max 0 value)
  | none => if numberOf unicode text < 0 then 0 else 10

/-- `round(_, 1)`: the decimal that the result prints as. -/
def roundTenths (value : ℚ) : ℚ := (Doubles.roundHalfEven (value * 10) : ℚ) / 10

def isVulnerable (output : List Char) : Bool :=
  ((marker unicode).search none
    ((negatedMarker unicode).delete output.length none output)).isSome

def cveOf (output : List Char) : Option (List Char) :=
  ((cvePattern unicode).search none output).map Found.taken

/-- The text that is read as the score. -/
def scoreText (output : List Char) : Option (List Char) :=
  ((cvssPattern unicode).search none
    ((vectorPattern unicode).delete output.length none output)).bind Found.captured

def cvssScore (output : List Char) : Option ℚ :=
  (scoreText unicode output).map fun text => roundTenths (clamped unicode text)

/-- A script with the address, the port and the protocol that it ran against. -/
structure Place where
  script : ScriptFinding
  address : String
  port : Option Nat
  protocol : Option String

/-- `script.output or ""`. -/
def Place.output (place : Place) : List Char := (place.script.output.getD "").toList

def shorten (width : Nat) (text : List Char) : String := String.ofList (text.take width)

/-- The draft of a vulnerable script. -/
def Place.draft (place : Place) : FindingDraft :=
  let score := cvssScore unicode place.output
  let suffix :=
    match place.port with
    | some port => ":" ++ toString port ++ "/" ++ place.protocol.getD "None"
    | none => ""
  { title := shorten 255
      (place.script.scriptId.getD "None" ++ " on " ++ place.address ++ suffix).toList
    description := shorten 8000 place.output
    severity := severityFromCvss score
    cveId := (cveOf unicode place.output).map (shorten 50)
    cvssScore := score
    metadata := [("source", .str "nmap"), ("script_id", Json.ofText? place.script.scriptId),
      ("host", .str place.address),
      ("port", match place.port with | some port => .int port | none => .null),
      ("protocol", Json.ofText? place.protocol),
      ("severity_source", .str (if score.isSome then "cvss" else "default"))] }

/-- The scripts of a host, and then those of its ports. -/
def NmapHost.places (host : NmapHost) : List Place :=
  let address := host.addresses.head?.getD "unknown"
  (host.hostScripts.map fun script => ⟨script, address, none, none⟩) ++
    host.ports.flatMap fun port =>
      port.scripts.map fun script => ⟨script, address, some port.portId, port.protocol⟩

def extractFindings (report : NmapReport) : List FindingDraft :=
  report.hosts.flatMap fun host => host.places.filterMap fun place =>
    if isVulnerable unicode place.output then some (place.draft unicode) else none

end

/-- The tables on ASCII and `ſ`, with no other word character. -/
def plainUnicode : Unicode where
  isWord char := Python.isAlnum char || char == '_' || char == 'ſ'
  decimal char := if '0' ≤ char ∧ char ≤ '9' then some (char.toNat - 48) else none
  isWord_ascii := by
    intro char ascii
    have other : (char == 'ſ') = false := by
      rw [beq_eq_false_iff_ne]
      rintro rfl
      revert ascii
      decide
    rw [other, Bool.or_false]
  isWord_longS := rfl
  isWord_space := by
    intro char space
    have plain : char ≠ '_' ∧ char ≠ 'ſ' := by
      constructor <;>
        · rintro rfl
          revert space
          decide
    simp only [Python.isSpace, decide_eq_true_eq, List.mem_cons, List.not_mem_nil, or_false]
      at space
    simp only [plain, beq_eq_false_iff_ne.mpr, ne_eq, not_false_eq_true, Bool.or_false,
      Python.isAlnum, Python.isLetter, Python.isUpper, Bool.or_eq_false_iff, Bool.and_eq_false_iff,
      decide_eq_false_iff_not]
    omega
  isWord_decimal := by
    intro char digit
    split at digit
    next range =>
      have low : 0x30 ≤ char.toNat := range.1
      have high : char.toNat ≤ 0x39 := range.2
      simp [Python.isAlnum, low, high]
    next => cases digit
  decimal_ascii _ _ := rfl
  decimal_longS := rfl

end Nmap
