import SourceAudit.Digest
import SourceAudit.Rule

/-! Findings: what a scan reports, how they are told apart and which of them are kept. -/
namespace SourceAudit

structure Finding where
  ruleId : String
  category : Category
  severity : Severity
  path : Path
  line : Nat
  column : Nat
  span : Span
  matchedText : String
  message : String
  remediation : String
  fingerprint : String
deriving DecidableEq, Inhabited

namespace Finding

/-- The longest text that a finding quotes, in characters. -/
def quoteLimit : Nat := 200

/-- Cuts a long text and marks the cut. -/
def truncate (cs : List Char) : List Char :=
  if quoteLimit < cs.length then cs.take quoteLimit ++ ['…'] else cs

/-- What the fingerprint is taken of: the rule, the path and the words of the text. The blanks between
the words do not matter. -/
def fingerprintText (ruleId : String) (path : Path) (matched : List Char) : List Char :=
  ruleId.toList ++ '\x00' :: path.text.toList ++ '\x00' ::
    (blankWords matched).flatMap (· ++ [' '])

def fingerprintOf (ruleId : String) (path : Path) (matched : List Char) : String :=
  String.ofList
    ((Digest.hex (String.ofList (fingerprintText ruleId path matched)).toUTF8).take 32)

/-- The finding of a rule that fired on a window. -/
def ofHit (rule : Rule) (w : Window) (hit : Hit) : Finding :=
  let matched := truncate (trim (w.textOf hit.span)).toList
  { ruleId := rule.id
    category := rule.category
    severity := rule.severity
    path := w.source.path
    line := w.anchor.line
    column := w.anchor.column
    span := hit.span
    matchedText := String.ofList matched
    message := hit.message.getD rule.description
    remediation := rule.remediation
    fingerprint := fingerprintOf rule.id w.source.path matched }

/-- The order in which overlapping findings are preferred: within a category and a path the worse
first, then by rule and place. -/
def preference (a b : Finding) : Ordering :=
  (a.category.compare b.category).then <|
  (a.path.compare b.path).then <|
  (b.severity.compare a.severity).then <|
  (compare a.ruleId b.ruleId).then <|
  (compare a.span.start b.span.start).then <|
  compare a.span.stop b.span.stop

/-- Two findings of one category that share a byte of one file. -/
def clashes (a b : Finding) : Bool :=
  decide (a.category = b.category) && a.path.same b.path && a.span.overlaps b.span

/-- Keeps a finding unless it clashes with one that is kept; `kept` is in reverse. -/
def keep (kept : List Finding) (f : Finding) : List Finding :=
  if kept.any (·.clashes f) then kept else f :: kept

/-- Of findings that clash, keeps the preferred ones. -/
def dedupe (fs : List Finding) : List Finding :=
  ((fs.mergeSort fun a b => (a.preference b).isLE).foldl keep []).reverse

/-- The order of a report: the worst first, then by place, rule and text. -/
def reportOrder (a b : Finding) : Ordering :=
  (b.severity.compare a.severity).then <|
  (a.path.compare b.path).then <|
  (compare a.line b.line).then <|
  (compare a.column b.column).then <|
  (compare a.ruleId b.ruleId).then <|
  compare a.matchedText b.matchedText

end Finding
end SourceAudit
