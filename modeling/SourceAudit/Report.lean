import SourceAudit.Finding

/-! The outcome of scanning files, and the report over many outcomes with its counts. -/
namespace SourceAudit

/-- Keys with their counts, each key once and in the order of the keys. -/
abbrev Tally (κ : Type) := List (κ × Nat)

namespace Tally

def zeros (keys : List κ) : Tally κ := keys.map fun k => (k, 0)

/-- One more of `k`. A key that is not yet there is put in its place. -/
def bump (cmp : κ → κ → Ordering) (k : κ) : Tally κ → Tally κ
  | [] => [(k, 1)]
  | (x, n) :: t =>
    match cmp k x with
    | .lt => (k, 1) :: (x, n) :: t
    | .eq => (x, n + 1) :: t
    | .gt => (x, n) :: bump cmp k t

/-- Counts `ks` one by one. The `keys` are there from the start, with a count of zero. -/
def ofList (cmp : κ → κ → Ordering) (keys ks : List κ) : Tally κ :=
  ks.foldl (fun t k => t.bump cmp k) (zeros keys)

/-- The count of `k`, zero for a key that is not there. -/
def count [DecidableEq κ] (t : Tally κ) (k : κ) : Nat := (t.lookup k).getD 0

end Tally

inductive DiagnosticKind where
  | malformedInput | ruleEvaluation | io
deriving DecidableEq, Repr, Inhabited

namespace DiagnosticKind

def rank : DiagnosticKind → Nat
  | malformedInput => 0
  | ruleEvaluation => 1
  | io => 2

def name : DiagnosticKind → String
  | malformedInput => "malformed-input"
  | ruleEvaluation => "rule-evaluation"
  | io => "io"

end DiagnosticKind

/-- A trouble that did not stop the scan. -/
structure Diagnostic where
  path : Path
  line : Option Nat
  kind : DiagnosticKind
  ruleId : Option String
  message : String
deriving DecidableEq, Inhabited

namespace Diagnostic

def ofMalformed (path : Path) (m : Malformed) : Diagnostic :=
  ⟨path, none, .malformedInput, none, m.message path⟩

def ofUnreadable (path : Path) (message : String) : Diagnostic :=
  ⟨path, none, .io, none, message⟩

def ofRule (path : Path) (ruleId : String) (line : Nat) (message : String) : Diagnostic :=
  ⟨path, some line, .ruleEvaluation, some ruleId, message⟩

/-- What is missing comes before what is there. -/
def compareOption (f : α → α → Ordering) : Option α → Option α → Ordering
  | none, none => .eq
  | none, some _ => .lt
  | some _, none => .gt
  | some a, some b => f a b

def order (a b : Diagnostic) : Ordering :=
  (a.path.compare b.path).then <|
  (compareOption compare a.line b.line).then <|
  (compare a.kind.rank b.kind.rank).then <|
  (compareOption compare a.ruleId b.ruleId).then <|
  compare a.message b.message

end Diagnostic

/-- Everything that one file adds to a scan. -/
structure Outcome where
  path : Path
  bytes : UInt64
  /-- The file was read as source text. -/
  scanned : Bool
  findings : List Finding
  diagnostics : List Diagnostic
deriving Inhabited

def Outcome.unreadable (path : Path) (d : Diagnostic) : Outcome := ⟨path, 0, false, [], [d]⟩

structure Summary where
  total : Nat
  byCategory : Tally Category
  bySeverity : Tally Severity
  filesScanned : Nat
  filesWithFindings : Nat
  bytesScanned : UInt64

structure Report where
  findings : List Finding
  diagnostics : List Diagnostic
  summary : Summary
  /-- Files were left out because the scan was called off. -/
  cancelled : Bool

namespace Report

def build (outcomes : List Outcome) (cancelled : Bool) : Report :=
  let findings := (outcomes.flatMap Outcome.findings).mergeSort fun a b => (a.reportOrder b).isLE
  let diagnostics := (outcomes.flatMap Outcome.diagnostics).mergeSort fun a b => (a.order b).isLE
  let scanned := outcomes.filter Outcome.scanned
  { findings, diagnostics, cancelled
    summary :=
      { total := findings.length
        byCategory := .ofList Category.compare Category.all (findings.map Finding.category)
        bySeverity := .ofList Severity.compare Severity.all.reverse (findings.map Finding.severity)
        filesScanned := scanned.length
        filesWithFindings := outcomes.countP (!·.findings.isEmpty)
        bytesScanned := (scanned.map Outcome.bytes).foldr (· + ·) 0 } }

/-- Some finding is at least as bad as `threshold`. -/
def reaches (r : Report) (threshold : Severity) : Bool :=
  r.findings.any fun f => decide (threshold ≤ f.severity)

end Report
end SourceAudit
