import SourceAudit.FileTree.Walk
import SourceAudit.Scan

/-! Scanning files and whole directory trees. -/
namespace SourceAudit

/-- Why a scan came to nothing. -/
inductive Failure where
  | file (error : PathError)
  | config (error : ConfigError)
  /-- A window cannot be formed, and the scan breaks off. -/
  | crash
deriving DecidableEq, Repr

def Failure.message : Failure → String
  | file e => e.message
  | config e => "configuration error: " ++ e.message
  | crash => "a window ends beyond the last machine word"

/-- A setting that cannot be used is a failure of the scan. -/
def orFail : Except ConfigError α → Except Failure α
  | .ok a => .ok a
  | .error e => .error (.config e)

namespace Scanner

/-- A file that cannot be read gives only a diagnostic. -/
def scanFile? (s : Scanner) (fs : FileSystem) (path : Path) : Option Outcome :=
  match fs.read path with
  | .ok bytes => s.scanBytes? path bytes
  | .error e => some (.unreadable path (.ofUnreadable path e.message))

/-- Scans the files at some paths; without an outcome for each of them there is no report. A scan that
was called off leaves them all out. -/
def scanPaths? (s : Scanner) (fs : FileSystem) (paths : List Path) (calledOff : Bool) :
    Option Report :=
  if calledOff then some (.build [] (!paths.isEmpty))
  else (paths.mapM (s.scanFile? fs)).map (Report.build · false)

end Scanner

/-- Scans all source files below a root. -/
def scanTree (fs : FileSystem) (settings : Settings) (registry : Registry) (options : Options)
    (root : Path) (calledOff : Bool) : Except Failure Report := do
  match fs.resolve root with
  | .error e => throw (.file e)
  | .ok _ =>
    let scanner ← orFail (Scanner.new registry options)
    let paths := (Walk.paths fs settings root).map Path.withoutHere
    match scanner.scanPaths? fs paths calledOff with
    | none => throw .crash
    | some report => pure report

end SourceAudit
