import SourceAudit.Json
import SourceAudit.Report
import SourceAudit.Risk

/-! Reports as JSON documents. -/
namespace SourceAudit

/-- The name and version under which reports are signed. -/
def toolName : String := "vulnsift"
def toolVersion : String := "0.1.0-alpha"

def Finding.toJson (f : Finding) : Json :=
  .obj [("ruleId", .str f.ruleId), ("category", .str f.category.name),
    ("severity", .str f.severity.name), ("path", .str f.path.text), ("line", .nat f.line),
    ("column", .nat f.column), ("matchedText", .str f.matchedText), ("message", .str f.message),
    ("remediation", .str f.remediation), ("fingerprint", .str f.fingerprint)]

def Diagnostic.toJson (d : Diagnostic) : Json :=
  .obj ([("path", .str d.path.text), ("line", Json.ofOption .nat d.line),
      ("kind", .str d.kind.name)] ++
    (d.ruleId.map fun id => ("ruleId", Json.str id)).toList ++ [("message", .str d.message)])

def Summary.toJson (s : Summary) : Json :=
  .obj [("total", .nat s.total),
    ("byCategory", .obj (s.byCategory.map fun (c, n) => (c.name, .nat n))),
    ("bySeverity", .obj (s.bySeverity.map fun (v, n) => (v.name, .nat n))),
    ("filesScanned", .nat s.filesScanned), ("filesWithFindings", .nat s.filesWithFindings),
    ("bytesScanned", .nat s.bytesScanned.toNat)]

def Risk.Share.toJson (s : Risk.Share) : Json :=
  .obj [("category", .str s.category.name), ("weight", .tenths s.weight), ("count", .nat s.count),
    ("contribution", .nat s.contribution)]

def Risk.Assessment.toJson (a : Risk.Assessment) : Json :=
  .obj [("score", .nat a.score), ("grade", .str a.grade.name), ("level", .str a.grade.level),
    ("breakdown", .arr (a.breakdown.map Risk.Share.toJson)),
    ("recommendation", .str a.grade.recommendation)]

namespace Report

def toJson (r : Report) : Json :=
  .obj [("tool", .str toolName), ("version", .str toolVersion),
    ("findings", .arr (r.findings.map Finding.toJson)),
    ("diagnostics", .arr (r.diagnostics.map Diagnostic.toJson)), ("summary", r.summary.toJson),
    ("cancelled", .bool r.cancelled), ("risk", (Risk.assess r.findings).toJson)]

/-- The report as a document of its own. -/
def document (r : Report) : String := r.toJson.pretty 0 ++ "\n"

end Report
end SourceAudit
