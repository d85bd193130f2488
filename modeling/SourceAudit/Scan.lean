import SourceAudit.Fragment.Walk
import SourceAudit.Options
import SourceAudit.Registry
import SourceAudit.Report

/-! Scanning: every enabled rule is tried on every window of a source text. -/
namespace SourceAudit

/-- The window of one statement of a source text, where there is one. -/
def Source.windowAt? (source : Source) (width lookbehind : UInt64) (index : Nat) : Option Window :=
  Window.among? source (statements source.fragments.toList) width lookbehind index

/-- One window for each statement of a source text, unless one of them cannot be formed. -/
def Source.windows? (source : Source) (width lookbehind : UInt64) : Option (List Window) :=
  let ss := statements source.fragments.toList
  (windowsFrom? source ss.length width lookbehind 0 [] #[] ss).map Array.toList

/-- What a rule makes of one statement of a source text: the hit, if the rule fires there. A statement
without a window gives no answer at all. -/
def Rule.hitAt? (rule : Rule) (source : Source) (width lookbehind : UInt64) (index : Nat) :
    Option (Option Hit) :=
  (source.windowAt? width lookbehind index).map rule.matcher

/-- A set of rules with checked options. -/
structure Scanner where
  registry : Registry
  options : Options

namespace Scanner

def new (registry : Registry) (options : Options) : Except ConfigError Scanner := do
  pure ⟨registry, ← options.validate⟩

def enables (o : Options) (r : Rule) : Bool :=
  o.categories.contains r.category && decide (o.minSeverity ≤ r.severity)

/-- The rules that the options leave in force. -/
def enabled (s : Scanner) : List Rule := s.registry.rules.filter (enables s.options)

/-- What one rule finds in one window: nothing, a hit inside the head, or a hit gone astray. -/
inductive Verdict where
  | clean
  | found (f : Finding)
  | astray (d : Diagnostic)

def judge (rule : Rule) (w : Window) : Verdict :=
  match rule.matcher w with
  | none => .clean
  | some hit =>
    let head := w.headSpan
    if hit.span.start < head.start ∨ head.stop < hit.span.stop then
      .astray (.ofRule w.source.path rule.id w.anchor.line
        (s!"hit {hit.span.start}..{hit.span.stop} lies outside the head statement " ++
          s!"{head.start}..{head.stop}"))
    else .found (.ofHit rule w hit)

def Verdict.finding? : Verdict → Option Finding
  | found f => some f
  | _ => none

def Verdict.diagnostic? : Verdict → Option Diagnostic
  | astray d => some d
  | _ => none

/-- The verdicts of the rules on a window; a rule is passed over when the head has no fragment of a
kind it asks for. -/
def verdicts (rules : List Rule) (w : Window) : List Verdict :=
  (rules.filter (·.kinds.intersects w.kinds)).map (judge · w)

/-- The windows that a scan looks at. -/
def windows? (s : Scanner) (source : Source) : Option (List Window) :=
  source.windows? s.options.windowWidth s.options.guardLookbehind

/-- What a scan comes to, given all verdicts. -/
def outcome (s : Scanner) (source : Source) (all : List Verdict) : Outcome :=
  let findings := all.filterMap Verdict.finding?
  { path := source.path
    bytes := source.size.toUInt64
    scanned := true
    findings := if s.options.dedupe then Finding.dedupe findings else findings
    diagnostics := all.filterMap Verdict.diagnostic? }

/-- Scans a source text; nothing comes of it when a window cannot be formed. -/
def scan? (s : Scanner) (source : Source) : Option Outcome :=
  (s.windows? source).map fun ws => s.outcome source (ws.flatMap (verdicts s.enabled))

/-- Scans the bytes of a file; what is no source text gives only a diagnostic. -/
def scanBytes? (s : Scanner) (path : Path) (bytes : ByteArray) : Option Outcome :=
  match Source.ofBytes path bytes with
  | .ok source => s.scan? source
  | .error m => some (.unreadable path (.ofMalformed path m))

end Scanner
end SourceAudit
