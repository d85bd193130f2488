import SourceAudit.Render.Style
import SourceAudit.Report
import SourceAudit.Risk

/-! Reports for a terminal. -/
namespace SourceAudit

namespace ByteSize

/-- The units above the byte, each 1024 times the one before. -/
def units : List String := ["KiB", "MiB", "GiB", "TiB", "PiB", "EiB"]

/-- The size in the first unit of the list in which it is below 1024, with one decimal. -/
def inUnits (n scale : Nat) : List String → String
  | [] => s!"{n} B"
  | unit :: more =>
    if n < scale * 1024 ∨ more.isEmpty then
      let tenths := roundDiv (10 * n) scale
      s!"{tenths / 10}.{tenths % 10} {unit}"
    else inUnits n (scale * 1024) more

/-- A size from 1024 on is taken to 53 significant bits before the unit is chosen. -/
def text (n : Nat) : String :=
  if n < 1024 then s!"{n} B" else inUnits (nearestBinary n) 1024 units

end ByteSize

namespace Console

structure View where
  /-- Findings only. -/
  quiet : Bool := false
  /-- How many findings are shown at most. -/
  maxResults : Option Nat := none
  colors : Bool := false

def labelled (label value : String) : String := "  " ++ Style.padRight 10 label ++ " " ++ value

namespace View

def paint (v : View) (codes : List Nat) (text : String) : String := Style.apply v.colors ⟨codes⟩ text

def findingLines (v : View) (f : Finding) : List String :=
  let path := v.paint [Style.blue, Style.underlined] f.path.text
  let rule := v.paint [Style.bold] f.ruleId
  [s!"{path}:{f.line}:{f.column}  [{f.severity.badge v.colors}]  {rule}",
    "    " ++ v.paint [Style.dim] f.matchedText, "    " ++ f.message] ++
  if f.remediation.isEmpty then []
  else ["    " ++ v.paint [Style.green] "fix:" ++ " " ++ f.remediation]

def diagnosticLine (v : View) (d : Diagnostic) : String :=
  let place := (d.line.map fun n => s!":{n}").getD ""
  v.paint [Style.yellow, Style.bold] "warning" ++ s!": {d.path.text}{place}: {d.message}"

/-- The findings, up to the limit, and how many there are beyond it. -/
def findings (v : View) (r : Report) : List String :=
  let limit := v.maxResults.getD r.findings.length
  (r.findings.take limit).flatMap v.findingLines ++
    if limit < r.findings.length then
      let note :=
        s!"… {r.findings.length - limit} more not shown (max_results = {limit})"
      ["  " ++ v.paint [Style.dim] note]
    else []

def counts (v : View) (s : Summary) : List String :=
  if s.total = 0 then [v.paint [Style.green] "∅ No issues found"]
  else
    let total := v.paint [Style.bold] (toString s.total)
    let noun := if s.total = 1 then "issue" else "issues"
    let severities := (Severity.all.filter fun x => 0 < s.bySeverity.count x).map fun x =>
      s!"{x.badge v.colors} {s.bySeverity.count x}"
    [s!"{total} {noun} in {s.filesWithFindings} of {s.filesScanned} files",
      "  " ++ "  ".intercalate severities]

def gradeColor : Risk.Grade → Nat
  | .a | .b => Style.green
  | .c => Style.yellow
  | .d | .f => Style.red

def risk (v : View) (a : Risk.Assessment) : List String :=
  let grade := v.paint [gradeColor a.grade, Style.bold] a.grade.name
  [labelled "Risk" s!"{a.score}/100  grade {grade}  ({a.grade.level} risk)"] ++
    (a.breakdown.map fun s =>
      let category := Style.padRight 18 s.category.name
      let count := Style.padLeft 3 (toString s.count)
      s!"    {category} {count} finding(s)  -{s.contribution}") ++
    ["  " ++ v.paint [Style.italic] a.grade.recommendation]

/-- Diagnostics, counts and risk. -/
def footer (v : View) (r : Report) : List String :=
  r.diagnostics.map v.diagnosticLine ++ [""] ++ v.counts r.summary ++
    [labelled "Scanned" (ByteSize.text r.summary.bytesScanned.toNat)] ++
    v.risk (Risk.assess r.findings) ++
    if r.cancelled then [v.paint [Style.yellow] "Scan cancelled; results are partial."] else []

end View

def joinLines (lines : List String) : String := String.join (lines.map (· ++ "\n"))

/-- The report without the line that tells the time. -/
def text (v : View) (r : Report) : String :=
  joinLines (v.findings r ++ if v.quiet then [] else v.footer r)

/-- The line that tells when the scan was completed, which closes every report that is not quiet. -/
def clockLine (time : String) : String := labelled "Completed" time ++ "\n"

end Console
end SourceAudit
