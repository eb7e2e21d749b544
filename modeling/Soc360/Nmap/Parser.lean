import Soc360.Nmap.Integers
import Soc360.Scans.State
import Soc360.Store.Attempts

set_option autoImplicit false

namespace Nmap

open Attempts (BlamesFirst Decides gather)
open Scans (Transition checkTransition)
open Vulnerabilities (FindingDraft)

/-- An element of a tree, as `ElementTree` builds it. -/
structure Element where
  tag : String
  attrib : List (String × String)
  children : List Element

namespace Element

def get (element : Element) (name : String) : Option String := element.attrib.lookup name

/-- `findall`, of a path of tags. -/
def findall : List String → Element → List Element
  | [], element => [element]
  | tag :: path, element =>
      (element.children.filter fun child => child.tag == tag).flatMap (findall path)

def find (path : List String) (element : Element) : Option Element := (element.findall path).head?

/-- `_scripts`. -/
def scripts (path : List String) (element : Element) : List ScriptFinding :=
  (element.findall path).map fun script => ⟨script.get "id", script.get "output"⟩

/-- `_attributes`. -/
def attributes (path : List String) (name : String) (element : Element) : List String :=
  (element.findall path).filterMap fun child => child.get name

end Element

/-- What expat calls the handlers of `DefusedXMLParser` with. -/
inductive Construct where
  | doctypeDecl (name : String) (sysid pubid : Option String) (hasInternalSubset : Bool)
  | entityDecl
  | unparsedEntityDecl
  | externalEntityRef

/-- What the XML library makes of a document: its constructs up to the end or the first error,
and the root of one that is well formed. -/
structure Reading where
  constructs : List Construct
  root : Option Element

structure NmapParseError where
  reason : String

structure NmapService where
  name : Option String
  product : Option String
  version : Option String
  extrainfo : Option String

/-- `NmapPort`, with all that is read. -/
structure ParsedPort where
  protocol : Option String
  portId : Nat
  portId_le : portId ≤ 65535
  state : Option String
  service : Option NmapService
  scripts : List ScriptFinding

structure ParsedHost where
  addresses : List String
  hostnames : List String
  status : Option String
  osMatches : List String
  ports : List ParsedPort
  hostScripts : List ScriptFinding

structure ParsedReport where
  scanTypes : List String
  hosts : List ParsedHost

/-- What `extract_findings` reads. -/
def ParsedPort.kept (port : ParsedPort) : NmapPort :=
  ⟨port.protocol, port.portId, port.scripts⟩

def ParsedHost.kept (host : ParsedHost) : NmapHost :=
  ⟨host.addresses, host.ports.map ParsedPort.kept, host.hostScripts⟩

def ParsedReport.kept (report : ParsedReport) : NmapReport :=
  ⟨report.scanTypes, report.hosts.map ParsedHost.kept⟩

def requiredScanTypes : List String := ["syn", "udp"]

/-- A text that Python takes as true. -/
def truthy (text : Option String) : Bool := text.any (· != "")

/-- A handler of `_NmapXMLParser` raises. -/
def Construct.raises : Construct → Bool
  | doctypeDecl name sysid pubid hasInternalSubset =>
      name != "nmaprun" || truthy sysid || truthy pubid || hasInternalSubset
  | entityDecl => true
  | unparsedEntityDecl => true
  | externalEntityRef => true

section

variable (unicode : Unicode) (xml : String → Reading)

/-- `_port`. -/
def port (element : Element) : Except NmapParseError ParsedPort :=
  match readInt unicode ((element.get "portid").getD "").toList with
  | none => .error ⟨"invalid_port"⟩
  | some portId =>
      if range : 0 ≤ portId ∧ portId ≤ 65535 then
        .ok {
          protocol := element.get "protocol"
          portId := portId.toNat
          portId_le := by omega
          state := (element.find ["state"]).bind fun state => state.get "state"
          service := (element.find ["service"]).map fun service =>
            ⟨service.get "name", service.get "product", service.get "version",
              service.get "extrainfo"⟩
          scripts := element.scripts ["script"] }
      else .error ⟨"invalid_port"⟩

/-- `_host`. -/
def host (element : Element) : Except NmapParseError ParsedHost := do
  let ports ← (element.findall ["ports", "port"]).mapM (port unicode)
  return {
    addresses := element.attributes ["address"] "addr"
    hostnames := element.attributes ["hostnames", "hostname"] "name"
    status := (element.find ["status"]).bind fun status => status.get "state"
    osMatches := element.attributes ["os", "osmatch"] "name"
    ports := ports
    hostScripts := element.scripts ["hostscript", "script"] }

def parseNmapXml (data : String) : Except NmapParseError ParsedReport :=
  let reading := xml data
  if reading.constructs.any Construct.raises then .error ⟨"forbidden_xml_construct"⟩
  else
    match reading.root with
    | none => .error ⟨"malformed_xml"⟩
    | some root =>
        let scanTypes := root.attributes ["scaninfo"] "type"
        if root.tag ≠ "nmaprun" then .error ⟨"unexpected_root"⟩
        else if scanTypes = [] then .error ⟨"missing_scaninfo"⟩
        else if (root.find ["runstats", "finished"]).isNone then .error ⟨"incomplete_report"⟩
        else do
          let hosts ← (root.findall ["host"]).mapM (host unicode)
          return ⟨scanTypes, hosts⟩

def verifyScanTypes (report : ParsedReport) (required : List String) :
    Except NmapParseError Unit :=
  if required ⊆ report.scanTypes then .ok () else .error ⟨"scan_type_mismatch"⟩

/-- What the loop of `parse_node` does with a document. -/
def parseDocument (document : String) : Except NmapParseError (List FindingDraft) := do
  let report ← parseNmapXml unicode xml document
  verifyScanTypes report requiredScanTypes
  return extractFindings unicode report.kept

/-- The keys of `ScanState` that `parse_node` reads or writes. -/
structure ScanState where
  nmapDocuments : Option (List String)
  rawFindings : Option (List FindingDraft)
  error : Option String

/-- `state.get("nmap_documents", [])`. -/
def ScanState.documents (state : ScanState) : List String := state.nmapDocuments.getD []

def parseNode (state : ScanState) : ScanState :=
  match gather (parseDocument unicode xml) [] state.documents with
  | .error failure => { nmapDocuments := none, rawFindings := none, error := some failure.reason }
  | .ok drafts => { nmapDocuments := none, rawFindings := some drafts, error := none }

end

/-! What a complete document is and says, without the order in which the parser goes. -/

def Construct.Permitted (construct : Construct) : Prop :=
  ∃ sysid pubid, construct = .doctypeDecl "nmaprun" sysid pubid false ∧
    sysid.getD "" = "" ∧ pubid.getD "" = ""

/-- What a document is checked for. -/
inductive Check where
  | permitted
  | wellFormed
  | root
  | scaninfo
  | finished
  | ports
  | scanTypes
  deriving DecidableEq

namespace Check

def order : List Check := [permitted, wellFormed, root, scaninfo, finished, ports, scanTypes]

def reason : Check → String
  | permitted => "forbidden_xml_construct"
  | wellFormed => "malformed_xml"
  | root => "unexpected_root"
  | scaninfo => "missing_scaninfo"
  | finished => "incomplete_report"
  | ports => "invalid_port"
  | scanTypes => "scan_type_mismatch"

end Check

section

variable (unicode : Unicode)

/-- The id of a port is an integer in the range of ports. -/
def Element.Numbered (port : Element) : Prop :=
  ∃ text, port.get "portid" = some text ∧ ∃ literal : Literal unicode,
    literal.text = text.toList ∧ 0 ≤ literal.value ∧ literal.value ≤ 65535

def Reading.Passes (reading : Reading) : Check → Prop
  | .permitted => ∀ construct ∈ reading.constructs, construct.Permitted
  | .wellFormed => ∃ root, reading.root = some root
  | .root => ∃ root, reading.root = some root ∧ root.tag = "nmaprun"
  | .scaninfo => ∃ root, reading.root = some root ∧ ∃ info ∈ root.children,
      info.tag = "scaninfo" ∧ ∃ scanType, info.get "type" = some scanType
  | .finished => ∃ root, reading.root = some root ∧ ∃ stats ∈ root.children,
      stats.tag = "runstats" ∧ ∃ finished ∈ stats.children, finished.tag = "finished"
  | .ports => ∃ root, reading.root = some root ∧ ∀ host ∈ root.children, host.tag = "host" →
      ∀ table ∈ host.children, table.tag = "ports" →
        ∀ port ∈ table.children, port.tag = "port" → port.Numbered unicode
  | .scanTypes => ∃ root, reading.root = some root ∧ ∀ scanType ∈ requiredScanTypes,
      ∃ info ∈ root.children, info.tag = "scaninfo" ∧ info.get "type" = some scanType

def Reading.Complete (reading : Reading) : Prop := ∀ check, reading.Passes unicode check

/-- The first check that a document fails. -/
structure Reading.Offends (reading : Reading) (check : Check) : Prop where
  fails : ¬reading.Passes unicode check
  earlier : ∀ other, Check.order.idxOf other < Check.order.idxOf check →
    reading.Passes unicode other

def Element.saidPort (element : Element) : NmapPort where
  protocol := element.get "protocol"
  portId := ((readInt unicode ((element.get "portid").getD "").toList).getD 0).toNat
  scripts := element.scripts ["script"]

def Element.saidHost (element : Element) : NmapHost where
  addresses := element.attributes ["address"] "addr"
  ports := (element.findall ["ports", "port"]).map (saidPort unicode)
  hostScripts := element.scripts ["hostscript", "script"]

/-- The report of a tree in which every port is numbered. -/
def Element.said (root : Element) : NmapReport where
  scanTypes := root.attributes ["scaninfo"] "type"
  hosts := (root.findall ["host"]).map (saidHost unicode)

/-- The drafts of a document. -/
def Reading.drafts (reading : Reading) : List FindingDraft :=
  reading.root.elim [] fun root => extractFindings unicode (root.said unicode)

end

namespace Element

variable {element found : Element} {tag tag' name value : String} {path : List String}

theorem mem_findall_child :
    found ∈ element.findall [tag] ↔ found ∈ element.children ∧ found.tag = tag := by
  simp [findall]

theorem mem_findall_grandchild : found ∈ element.findall [tag, tag'] ↔
    ∃ child ∈ element.children, child.tag = tag ∧ found ∈ child.children ∧ found.tag = tag' := by
  simp [findall, and_assoc]

theorem find_eq_none :
    element.find path = none ↔ ∀ found, found ∉ element.findall path := by
  rw [find, List.head?_eq_none_iff, List.eq_nil_iff_forall_not_mem]

theorem mem_attributes : value ∈ element.attributes [tag] name ↔
    ∃ child ∈ element.children, child.tag = tag ∧ child.get name = some value := by
  simp [attributes, mem_findall_child, and_assoc]

end Element

theorem truthy_eq_false {text : Option String} : truthy text = false ↔ text.getD "" = "" := by
  cases text with
  | none => simp [truthy]
  | some text => simp [truthy]

theorem Construct.raises_eq_false (construct : Construct) :
    construct.raises = false ↔ construct.Permitted := by
  constructor
  · intro quiet
    cases construct with
    | doctypeDecl name sysid pubid hasInternalSubset =>
      simp only [raises, Bool.or_eq_false_iff, bne_eq_false_iff_eq] at quiet
      obtain ⟨⟨⟨rfl, system⟩, published⟩, rfl⟩ := quiet
      exact ⟨sysid, pubid, rfl, truthy_eq_false.mp system, truthy_eq_false.mp published⟩
    | entityDecl => cases quiet
    | unparsedEntityDecl => cases quiet
    | externalEntityRef => cases quiet
  · rintro ⟨sysid, pubid, rfl, system, published⟩
    rw [raises, truthy_eq_false.mpr system, truthy_eq_false.mpr published]
    rfl

section

variable {unicode : Unicode} {xml : String → Reading}

theorem numbered_iff {element : Element} : element.Numbered unicode ↔
    ∃ portId, readInt unicode ((element.get "portid").getD "").toList = some portId ∧
      0 ≤ portId ∧ portId ≤ 65535 := by
  constructor
  · rintro ⟨text, given, literal, written, low, high⟩
    refine ⟨literal.value, ?_, low, high⟩
    rw [given, Option.getD_some, ← written]
    exact literal.readInt_text
  · rintro ⟨portId, read, low, high⟩
    obtain ⟨literal, written, rfl⟩ := readInt_eq_some_iff.mp read
    cases given : element.get "portid" with
    | none =>
      rw [given] at written
      exact absurd written literal.text_nonempty
    | some text =>
      rw [given, Option.getD_some] at written
      exact ⟨text, given, literal, written, low, high⟩

theorem port_decides : Decides (port unicode) (Element.Numbered unicode)
    (fun element parsed => parsed.kept = element.saidPort unicode)
    fun _ failure => failure = ⟨"invalid_port"⟩ := by
  constructor
  · intro element numbered
    obtain ⟨portId, read, range⟩ := numbered_iff.mp numbered
    unfold port
    rw [read]
    dsimp only
    rw [dif_pos range]
    refine ⟨_, rfl, ?_⟩
    rw [Element.saidPort, read]
    rfl
  · intro element other
    refine ⟨_, ?_, rfl⟩
    unfold port
    cases read : readInt unicode ((element.get "portid").getD "").toList with
    | none => rfl
    | some portId =>
      have outside : ¬(0 ≤ portId ∧ portId ≤ 65535) := by
        intro range
        exact other (numbered_iff.mpr ⟨portId, read, range⟩)
      exact dif_neg outside

theorem host_decides : Decides (host unicode)
    (fun element => ∀ port ∈ element.findall ["ports", "port"], port.Numbered unicode)
    (fun element parsed => parsed.kept = element.saidHost unicode)
    fun _ failure => failure = ⟨"invalid_port"⟩ := by
  constructor
  · intro element numbered
    obtain ⟨ports, read, given⟩ := port_decides.mapM.ok numbered
    unfold host
    rw [read]
    refine ⟨_, rfl, ?_⟩
    have same := Attempts.map_gives given
    rw [Element.saidHost, ← same]
    rfl
  · intro element other
    obtain ⟨failure, read, blamed⟩ := port_decides.mapM.error other
    refine ⟨failure, ?_, blamed.same⟩
    unfold host
    rw [read]
    rfl

/-- A document that is not complete fails a first check. -/
theorem exists_offends {reading : Reading} (incomplete : ¬reading.Complete unicode) :
    ∃ check, reading.Offends unicode check := by
  obtain ⟨failing, fails⟩ := not_forall.mp incomplete
  obtain ⟨check, fails, least⟩ := WellFounded.has_min (measure Check.order.idxOf).wf
    {check | ¬reading.Passes unicode check} ⟨failing, fails⟩
  refine ⟨check, fails, ?_⟩
  intro other before
  by_contra fails'
  exact least other fails' before

namespace Reading

variable {reading : Reading} {root : Element}

theorem passes_permitted :
    reading.Passes unicode .permitted ↔ reading.constructs.any Construct.raises = false := by
  simp [Passes, Construct.raises_eq_false]

theorem passes_root (tree : reading.root = some root) :
    reading.Passes unicode .root ↔ root.tag = "nmaprun" := by
  simp [Passes, tree]

theorem passes_scaninfo (tree : reading.root = some root) :
    reading.Passes unicode .scaninfo ↔ root.attributes ["scaninfo"] "type" ≠ [] := by
  constructor
  · rintro ⟨root', same, info, held, tagged, scanType, given⟩
    cases tree.symm.trans same
    exact List.ne_nil_of_mem (Element.mem_attributes.mpr ⟨info, held, tagged, given⟩)
  · intro nonempty
    obtain ⟨scanType, member⟩ := List.exists_mem_of_ne_nil _ nonempty
    obtain ⟨info, held, tagged, given⟩ := Element.mem_attributes.mp member
    exact ⟨root, tree, info, held, tagged, scanType, given⟩

theorem passes_finished (tree : reading.root = some root) :
    reading.Passes unicode .finished ↔ root.find ["runstats", "finished"] ≠ none := by
  rw [ne_eq, Element.find_eq_none, not_forall_not]
  constructor
  · rintro ⟨root', same, stats, held, tagged, finished, inside, ended⟩
    cases tree.symm.trans same
    exact ⟨finished, Element.mem_findall_grandchild.mpr ⟨stats, held, tagged, inside, ended⟩⟩
  · rintro ⟨finished, member⟩
    obtain ⟨stats, held, tagged, inside, ended⟩ := Element.mem_findall_grandchild.mp member
    exact ⟨root, tree, stats, held, tagged, finished, inside, ended⟩

theorem passes_ports (tree : reading.root = some root) :
    reading.Passes unicode .ports ↔ ∀ host ∈ root.findall ["host"],
      ∀ port ∈ host.findall ["ports", "port"], port.Numbered unicode := by
  constructor
  · rintro ⟨root', same, numbered⟩ host member port member'
    cases tree.symm.trans same
    obtain ⟨held, tagged⟩ := Element.mem_findall_child.mp member
    obtain ⟨table, inside, tabled, listed, named⟩ := Element.mem_findall_grandchild.mp member'
    exact numbered host held tagged table inside tabled port listed named
  · intro numbered
    refine ⟨root, tree, ?_⟩
    intro host held tagged table inside tabled port listed named
    exact numbered host (Element.mem_findall_child.mpr ⟨held, tagged⟩) port
      (Element.mem_findall_grandchild.mpr ⟨table, inside, tabled, listed, named⟩)

theorem passes_scanTypes (tree : reading.root = some root) :
    reading.Passes unicode .scanTypes ↔
      requiredScanTypes ⊆ root.attributes ["scaninfo"] "type" := by
  simp [Passes, tree, List.subset_def, Element.mem_attributes]

end Reading

variable {document : String} {root : Element}

/-- The parser on a document of permitted constructs with a root. -/
theorem parseNmapXml_tree (permitted : (xml document).Passes unicode .permitted)
    (tree : (xml document).root = some root) :
    parseNmapXml unicode xml document =
      if root.tag ≠ "nmaprun" then .error ⟨"unexpected_root"⟩
      else if root.attributes ["scaninfo"] "type" = [] then .error ⟨"missing_scaninfo"⟩
      else if (root.find ["runstats", "finished"]).isNone then .error ⟨"incomplete_report"⟩
      else ((root.findall ["host"]).mapM (host unicode)).map
        fun hosts => ⟨root.attributes ["scaninfo"] "type", hosts⟩ := by
  unfold parseNmapXml
  dsimp only
  rw [Reading.passes_permitted.mp permitted, tree]
  rfl

/-- The parser on a document with a finished report: only its ports are left. -/
theorem parseNmapXml_finished (permitted : (xml document).Passes unicode .permitted)
    (tree : (xml document).root = some root) (named : (xml document).Passes unicode .root)
    (scaninfo : (xml document).Passes unicode .scaninfo)
    (finished : (xml document).Passes unicode .finished) :
    parseNmapXml unicode xml document =
      ((root.findall ["host"]).mapM (host unicode)).map
        fun hosts => ⟨root.attributes ["scaninfo"] "type", hosts⟩ := by
  rw [parseNmapXml_tree permitted tree,
    if_neg (not_not.mpr ((Reading.passes_root tree).mp named)),
    if_neg ((Reading.passes_scaninfo tree).mp scaninfo), if_neg]
  rw [Option.isNone_iff_eq_none]
  exact (Reading.passes_finished tree).mp finished

theorem parseDocument_complete (complete : (xml document).Complete unicode) :
    parseDocument unicode xml document = .ok ((xml document).drafts unicode) := by
  obtain ⟨root, tree⟩ := complete .wellFormed
  obtain ⟨hosts, read, given⟩ :=
    host_decides.mapM.ok ((Reading.passes_ports tree).mp (complete .ports))
  have same := Attempts.map_gives given
  have types := (Reading.passes_scanTypes tree).mp (complete .scanTypes)
  unfold parseDocument
  rw [parseNmapXml_finished (complete .permitted) tree (complete .root) (complete .scaninfo)
    (complete .finished), read]
  change (verifyScanTypes ⟨root.attributes ["scaninfo"] "type", hosts⟩ requiredScanTypes >>=
    fun _ => pure (extractFindings unicode ⟨_, hosts.map ParsedHost.kept⟩)) = _
  rw [verifyScanTypes, if_pos types, same, Reading.drafts, tree]
  rfl

theorem parseNmapXml_error {failure : NmapParseError}
    (failed : parseNmapXml unicode xml document = .error failure) :
    parseDocument unicode xml document = .error failure := by
  unfold parseDocument
  rw [failed]
  rfl

theorem parseDocument_offends {check : Check} (offends : (xml document).Offends unicode check) :
    parseDocument unicode xml document = .error ⟨check.reason⟩ := by
  obtain ⟨fails, earlier⟩ := offends
  cases check with
  | permitted =>
    apply parseNmapXml_error
    have raised : (xml document).constructs.any Construct.raises = true := by
      by_contra quiet
      exact fails (Reading.passes_permitted.mpr (Bool.eq_false_iff.mpr quiet))
    unfold parseNmapXml
    dsimp only
    rw [raised]
    rfl
  | wellFormed =>
    apply parseNmapXml_error
    have permitted := Reading.passes_permitted.mp (earlier .permitted (by decide))
    have rootless : (xml document).root = none :=
      Option.eq_none_iff_forall_ne_some.mpr fun root tree => fails ⟨root, tree⟩
    unfold parseNmapXml
    dsimp only
    rw [permitted, rootless]
    rfl
  | root =>
    apply parseNmapXml_error
    obtain ⟨root, tree⟩ := earlier .wellFormed (by decide)
    rw [parseNmapXml_tree (earlier .permitted (by decide)) tree,
      if_pos fun named => fails ((Reading.passes_root tree).mpr named)]
    rfl
  | scaninfo =>
    apply parseNmapXml_error
    obtain ⟨root, tree⟩ := earlier .wellFormed (by decide)
    have named := (Reading.passes_root tree).mp (earlier .root (by decide))
    have missing : root.attributes ["scaninfo"] "type" = [] := by
      by_contra nonempty
      exact fails ((Reading.passes_scaninfo tree).mpr nonempty)
    rw [parseNmapXml_tree (earlier .permitted (by decide)) tree, if_neg (not_not.mpr named),
      if_pos missing]
    rfl
  | finished =>
    apply parseNmapXml_error
    obtain ⟨root, tree⟩ := earlier .wellFormed (by decide)
    have named := (Reading.passes_root tree).mp (earlier .root (by decide))
    have scaninfo := (Reading.passes_scaninfo tree).mp (earlier .scaninfo (by decide))
    have missing : root.find ["runstats", "finished"] = none := by
      by_contra present
      exact fails ((Reading.passes_finished tree).mpr present)
    rw [parseNmapXml_tree (earlier .permitted (by decide)) tree, if_neg (not_not.mpr named),
      if_neg scaninfo, if_pos (Option.isNone_iff_eq_none.mpr missing)]
    rfl
  | ports =>
    apply parseNmapXml_error
    obtain ⟨root, tree⟩ := earlier .wellFormed (by decide)
    obtain ⟨failure, read, blamed⟩ :=
      host_decides.mapM.error fun numbered => fails ((Reading.passes_ports tree).mpr numbered)
    rw [parseNmapXml_finished (earlier .permitted (by decide)) tree (earlier .root (by decide))
      (earlier .scaninfo (by decide)) (earlier .finished (by decide)), read, blamed.same]
    rfl
  | scanTypes =>
    obtain ⟨root, tree⟩ := earlier .wellFormed (by decide)
    obtain ⟨hosts, read, _⟩ :=
      host_decides.mapM.ok ((Reading.passes_ports tree).mp (earlier .ports (by decide)))
    have fallback : ¬requiredScanTypes ⊆ root.attributes ["scaninfo"] "type" :=
      fun types => fails ((Reading.passes_scanTypes tree).mpr types)
    unfold parseDocument
    rw [parseNmapXml_finished (earlier .permitted (by decide)) tree (earlier .root (by decide))
      (earlier .scaninfo (by decide)) (earlier .finished (by decide)), read]
    change (verifyScanTypes ⟨root.attributes ["scaninfo"] "type", hosts⟩ requiredScanTypes >>=
      fun _ => _) = _
    rw [verifyScanTypes, if_neg fallback]
    rfl

theorem document_decides : Decides (parseDocument unicode xml)
    (fun document => (xml document).Complete unicode)
    (fun document drafts => drafts = (xml document).drafts unicode)
    (fun document failure => ∃ check, (xml document).Offends unicode check ∧
      failure.reason = check.reason) := by
  constructor
  · intro document complete
    exact ⟨_, parseDocument_complete complete, rfl⟩
  · intro document incomplete
    obtain ⟨check, offends⟩ := exists_offends incomplete
    exact ⟨_, parseDocument_offends offends, check, offends, rfl⟩

theorem parseNode_ok {state : ScanState}
    (complete : ∀ document ∈ state.documents, (xml document).Complete unicode) :
    parseNode unicode xml state = {
      nmapDocuments := none
      rawFindings := some (state.documents.flatMap fun document => (xml document).drafts unicode)
      error := none } := by
  obtain ⟨drafts, gathered, rfl⟩ := (document_decides.gather []).ok complete
  unfold parseNode
  rw [gathered]
  rfl

theorem parseNode_error {state : ScanState} {front back : List String} {bad : String}
    {check : Check} (shape : state.documents = front ++ bad :: back)
    (complete : ∀ document ∈ front, (xml document).Complete unicode)
    (offends : (xml bad).Offends unicode check) :
    parseNode unicode xml state =
      { nmapDocuments := none, rawFindings := none, error := some check.reason } := by
  have before : ∀ document ∈ front, ∃ drafts, parseDocument unicode xml document = .ok drafts :=
    fun document member => ⟨_, parseDocument_complete (complete document member)⟩
  unfold parseNode
  rw [shape, Attempts.gather_first [] before (parseDocument_offends offends)]

/-- Documents that are not all complete: one is the first that is not. -/
theorem exists_first {documents : List String}
    (some' : ¬∀ document ∈ documents, (xml document).Complete unicode) :
    ∃ front bad back check, documents = front ++ bad :: back ∧
      (∀ document ∈ front, (xml document).Complete unicode) ∧
      (xml bad).Offends unicode check := by
  obtain ⟨failure, _, front, bad, back, shape, before, _, check, offends, _⟩ :=
    (document_decides.gather []).error some'
  exact ⟨front, bad, back, check, shape, before, offends⟩

theorem checkTransition_failed {reason : String} (nonempty : reason ≠ "")
    (short : reason.length ≤ 64) (repr : String → String) (rawOutput : Option String) :
    ∃ args, checkTransition repr "failed" (some reason) rawOutput = .ok args := by
  have found : Scans.ScanStatus.ofString? "failed" = some .failed := by decide +kernel
  unfold checkTransition
  rw [found]
  dsimp only
  rw [dif_neg (by decide), dif_neg (by simp [nonempty]), dif_neg (by simp),
    dif_neg (by simp [short]), dif_neg (by simp)]
  exact ⟨_, rfl⟩

theorem Check.reason_bounds (check : Check) :
    check.reason ≠ "" ∧ check.reason.length ≤ 64 := by
  cases check <;> decide +kernel

/-- Findings come from complete documents only; of any others the first gives its reason. -/
theorem parseNode_complete (state : ScanState) :
    (∀ drafts, (parseNode unicode xml state).rawFindings = some drafts ↔
      (∀ document ∈ state.documents, (xml document).Complete unicode) ∧
        drafts = state.documents.flatMap fun document => (xml document).drafts unicode) ∧
    (∀ reason, (parseNode unicode xml state).error = some reason ↔
      ∃ front bad back check, state.documents = front ++ bad :: back ∧
        (∀ document ∈ front, (xml document).Complete unicode) ∧
        (xml bad).Offends unicode check ∧ reason = check.reason) ∧
    ((parseNode unicode xml state).rawFindings = none ↔
      (parseNode unicode xml state).error ≠ none) ∧
    ∀ reason, (parseNode unicode xml state).error = some reason → reason.length ≤ 64 ∧
      ∀ repr rawOutput, ∃ args,
        checkTransition repr "failed" (some reason) rawOutput = .ok args := by
  by_cases complete : ∀ document ∈ state.documents, (xml document).Complete unicode
  · rw [parseNode_ok complete]
    refine ⟨?_, ?_, by simp, ?_⟩
    · intro drafts
      constructor
      · intro same
        exact ⟨complete, (Option.some.inj same).symm⟩
      · intro both
        rw [both.2]
    · intro reason
      constructor
      · intro none'
        cases none'
      · rintro ⟨front, bad, back, check, shape, _, offends, _⟩
        exact absurd (complete bad (by rw [shape]; simp) check) offends.fails
    · intro reason none'
      cases none'
  · obtain ⟨front, bad, back, check, shape, before, offends⟩ := exists_first complete
    have update := parseNode_error shape before offends
    rw [update]
    refine ⟨?_, ?_, by simp, ?_⟩
    · intro drafts
      constructor
      · intro none'
        cases none'
      · intro both
        exact absurd both.1 complete
    · intro reason
      constructor
      · intro same
        exact ⟨front, bad, back, check, shape, before, offends, (Option.some.inj same).symm⟩
      · rintro ⟨front', bad', back', check', shape', before', offends', rfl⟩
        have update' := parseNode_error shape' before' offends'
        exact congrArg ScanState.error (update.symm.trans update')
    · intro reason same
      obtain ⟨nonempty, short⟩ := check.reason_bounds
      rw [← Option.some.inj same]
      exact ⟨short, fun repr rawOutput => checkTransition_failed nonempty short repr rawOutput⟩

end

/-- A report with a vulnerable script on port 80. -/
def normalTree : Element where
  tag := "nmaprun"
  attrib := []
  children := [⟨"scaninfo", [("type", "syn")], []⟩, ⟨"scaninfo", [("type", "udp")], []⟩,
    ⟨"host", [], [⟨"address", [("addr", "203.0.113.10")], []⟩, ⟨"ports", [],
      [⟨"port", [("protocol", "tcp"), ("portid", "80")],
        [⟨"script", [("id", "http-vuln"), ("output", "VULNERABLE")], []⟩]⟩]⟩]⟩,
    ⟨"runstats", [], [⟨"finished", [], []⟩]⟩]

/-- One document with that report, and all others malformed. -/
def normalXml (document : String) : Reading where
  constructs := [.doctypeDecl "nmaprun" none none false]
  root := if document = "normal" then some normalTree else none

example : (parseNode plainUnicode normalXml ⟨some ["normal", "normal"], none, none⟩).rawFindings.map
    (List.map FindingDraft.title) =
      some ["http-vuln on 203.0.113.10:80/tcp", "http-vuln on 203.0.113.10:80/tcp"] := by
  decide +kernel

example : (parseNode plainUnicode normalXml ⟨some ["normal", "cut"], none, none⟩).error =
    some "malformed_xml" := by
  decide +kernel

end Nmap
