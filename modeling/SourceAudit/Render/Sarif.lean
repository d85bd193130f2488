import SourceAudit.Registry
import SourceAudit.Render.Document
import SourceAudit.Text

/-! Reports as SARIF 2.1.0 logs. -/
namespace SourceAudit.Sarif

def schema : String := "https://json.schemastore.org/sarif-2.1.0.json"

def level : Severity → String
  | .critical | .high => "error"
  | .medium => "warning"
  | .low => "note"

/-- The severity as a number, in the bands of code-scanning services. -/
def securitySeverity : Severity → String
  | .critical => "9.5"
  | .high => "8.0"
  | .medium => "5.0"
  | .low => "2.0"

/-- One rule that fired. -/
structure Descriptor where
  id : String
  description : String
  help : String
  severity : Severity
  category : Category

/-- One finding, with the place of its rule among the descriptors. -/
structure Result where
  finding : Finding
  ruleIndex : Nat

structure Log where
  descriptors : List Descriptor
  results : List Result

/-- The ids of the rules that fired, in order and each once. -/
def firedIds (r : Report) : List String := distinct (r.findings.map Finding.ruleId)

def describe (registry : Registry) (f : Finding) : Descriptor :=
  match registry.get? f.ruleId with
  | some rule => ⟨f.ruleId, rule.description, rule.remediation, f.severity, f.category⟩
  | none => ⟨f.ruleId, f.message, f.remediation, f.severity, f.category⟩

def build (r : Report) (registry : Registry) : Log :=
  let ids := firedIds r
  let table := ids.toArray
  { descriptors :=
      (ids.filterMap fun id => r.findings.find? (·.ruleId == id)).map (describe registry)
    results := r.findings.map fun f => ⟨f, (placeOf? table f.ruleId).getD 0⟩ }

def message (text : String) : Json := .obj [("text", .str text)]

def Descriptor.toJson (d : Descriptor) : Json :=
  .obj [("id", .str d.id), ("shortDescription", message d.description), ("help", message d.help),
    ("defaultConfiguration", .obj [("level", .str (level d.severity))]),
    ("properties",
      .obj [("tags", .arr ((["security", d.category.name] ++
          d.category.owaspEntries.map ("OWASP-" ++ ·)).map Json.str)),
        ("securitySeverity", .str (securitySeverity d.severity))])]

/-- The path of a finding with forward slashes. -/
def uri (f : Finding) : String :=
  String.ofList (f.path.text.toList.map fun c => if c = '\\' then '/' else c)

def Result.toJson (r : Result) : Json :=
  let f := r.finding
  .obj [("ruleId", .str f.ruleId), ("ruleIndex", .nat r.ruleIndex),
    ("level", .str (level f.severity)), ("message", message f.message),
    ("locations", .arr [.obj [("physicalLocation",
      .obj [("artifactLocation", .obj [("uri", .str (uri f))]),
        ("region", .obj [("startLine", .nat f.line), ("startColumn", .nat f.column),
          ("snippet", message f.matchedText)])])]]),
    ("partialFingerprints", .obj [(toolName ++ "/v1", .str f.fingerprint)])]

def Log.toJson (l : Log) : Json :=
  .obj [("$schema", .str schema), ("version", .str "2.1.0"),
    ("runs", .arr [.obj [("tool", .obj [("driver",
        .obj [("name", .str toolName), ("semanticVersion", .str toolVersion),
          ("rules", .arr (l.descriptors.map Descriptor.toJson))])]),
      ("results", .arr (l.results.map Result.toJson))]])]

def document (r : Report) (registry : Registry) : String :=
  (build r registry).toJson.pretty 0 ++ "\n"

end SourceAudit.Sarif
