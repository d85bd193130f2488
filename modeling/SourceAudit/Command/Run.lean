import SourceAudit.Command
import SourceAudit.Render.Format
import SourceAudit.Scan.Files

/-! Running commands. Options of a scan are written into the settings and stay there. -/
namespace SourceAudit

namespace Settings

/-- The settings with the options of a scan. -/
def withArgs (s : Settings) (a : ScanArgs) : Settings :=
  { s with
    scan :=
      { s.scan with
        minSeverity := a.severity.getD s.scan.minSeverity
        categories := if a.categories.isEmpty then s.scan.categories else a.categories
        windowWidth := a.window.getD s.scan.windowWidth
        dedupe := s.scan.dedupe && !a.noDedupe }
    output :=
      { s.output with
        failOn := a.failOn.getD s.output.failOn
        quiet := s.output.quiet || a.quiet
        format := if a.format.isEmpty then s.output.format else a.format } }

end Settings

/-- What a command that was run leaves behind. -/
structure CommandResult where
  /-- A finding was bad enough to fail. -/
  failed : Bool
  output : Rendering

def CommandResult.exitCode (r : CommandResult) : Nat := if r.failed then 1 else 0

/-- The exit code of a command that could not be run. -/
def fatalCode : Nat := 2

/-- The exit code of a scan that broke off. -/
def crashCode : Nat := 101

def Failure.exitCode : Failure → Nat
  | crash => crashCode
  | _ => fatalCode

def UsageError.exitCode : UsageError → Nat
  | help | version => 0
  | _ => fatalCode

namespace Command

/-- Checks all settings, then scans and writes the report. -/
def runScan (fs : FileSystem) (s : Settings) (colors : Bool) (path : String) :
    Except Failure CommandResult := do
  let format ← orFail (Format.parse s.output.format)
  let failOn ← orFail (Severity.parse s.output.failOn)
  let options ← orFail (Options.ofSettings s.scan)
  let registry ← orFail (Registry.withCustom s.custom)
  let report ← scanTree fs s registry options ⟨path⟩ false
  let view : Console.View :=
    { quiet := s.output.quiet, maxResults := s.output.maxResults, colors }
  pure ⟨report.reaches failOn, report.render registry view format⟩

def ruleLines (colors verbose : Bool) (r : Rule) : List String :=
  let id := Style.apply colors ⟨[Style.white, Style.bold]⟩ (Style.padRight 32 r.id)
  [s!"  {id} [{r.severity.badge colors}]"] ++
    if verbose then
      ["    " ++ Style.padRight 12 "Detects" ++ " " ++ r.description] ++
        if r.remediation.isEmpty then []
        else ["    " ++ Style.padRight 12 "Fix" ++ " " ++ r.remediation]
    else []

def categoryLines (registry : Registry) (colors verbose : Bool) (c : Category) : List String :=
  let rules := registry.rulesFor c
  let title := Style.apply colors ⟨[Style.blue, Style.bold, Style.underlined]⟩ c.name
  [s!"{title} ({rules.length})"] ++
    (if rules.isEmpty then ["  " ++ Style.apply colors ⟨[Style.dim]⟩ "∅ No rules"] else []) ++
    rules.flatMap (ruleLines colors verbose)

/-- Lists the rules by category. -/
def runRules (s : Settings) (colors : Bool) (a : RulesArgs) : Except Failure CommandResult := do
  let only ← match a.category with
    | none => pure Category.all
    | some name => do pure [← orFail (Category.parse name)]
  let registry ← orFail (Registry.withCustom s.custom)
  let lines := only.flatMap (categoryLines registry colors a.verbose)
  pure ⟨false, ⟨Console.joinLines lines, false⟩⟩

/-- Runs a command; the settings are those in force afterwards. -/
def run (fs : FileSystem) (s : Settings) (colors : Bool) :
    Command → Settings × Except Failure CommandResult
  | .scan a =>
    let s := s.withArgs a
    (s, runScan fs s colors a.path)
  | .rules a => (s, runRules s colors a)

end Command
end SourceAudit
