import SourceAudit.Rule.Custom
import SourceAudit.Text

/-! What a user can set. Names of categories, severities and formats are kept as texts and checked
when a scan starts. -/
namespace SourceAudit

structure ScanSettings where
  /-- The categories to look for; an empty list stands for all. -/
  categories : List String := []
  minSeverity : String := "low"
  windowWidth : UInt64 := 1
  guardLookbehind : UInt64 := 8
  dedupe : Bool := true
  /-- Files above this size, in units of 1024 times 1024 bytes, are passed over; zero is no limit. -/
  maxFileSize : Option UInt64 := some 4
  excludedExtensions : List String :=
    ["jpg", "png", "gif", "mp4", "avi", "mkv", "zip", "tar", "gz", "exe", "dll", "so", "min.js",
      "lock"]
  excludedDirectories : List String :=
    ["node_modules", ".git", "target", ".vscode", ".idea", "build", "dist", "vendor"]
  excludedFiles : List String := []
  readGlobalIgnore : Bool := false
  /-- Ignore files are obeyed. -/
  readIgnoreFiles : Bool := true
  /-- Ignore files of version control count only inside a repository. -/
  needsRepository : Bool := true
  oneFileSystem : Bool := false
  followLinks : Bool := false
  scanHidden : Bool := false
deriving DecidableEq, Repr, Inhabited

structure OutputSettings where
  format : String := "console"
  quiet : Bool := false
  maxResults : Option Nat := none
  /-- From this severity on a finding makes the scan fail. -/
  failOn : String := "high"
deriving DecidableEq, Repr, Inhabited

structure EffortSettings where
  /-- How deep below the root directories are entered; the root is at depth zero. -/
  maxDepth : Option Nat := none
  threads : Option Nat := none
  batchSize : Nat := 8
  channelFactor : Nat := 4
  stackSize : Nat := 8388608
deriving DecidableEq, Repr, Inhabited

structure Settings where
  scan : ScanSettings := {}
  output : OutputSettings := {}
  effort : EffortSettings := {}
  custom : List CustomRule := []
deriving DecidableEq, Repr, Inhabited

namespace Settings

/-- The user's settings over the defaults: exclusions and rules are added to the defaults, all else
takes their place. -/
def merge (defaults user : Settings) : Settings where
  scan :=
    { user.scan with
      excludedExtensions :=
        distinct (defaults.scan.excludedExtensions ++ user.scan.excludedExtensions)
      excludedDirectories :=
        distinct (defaults.scan.excludedDirectories ++ user.scan.excludedDirectories)
      excludedFiles := distinct (defaults.scan.excludedFiles ++ user.scan.excludedFiles) }
  output := user.output
  effort := user.effort
  custom := defaults.custom ++ user.custom

/-- The example that is laid beside the user's settings. -/
def exampleLines : List String :=
  ["# vulnsift example configuration.",
    "#",
    "# This file is regenerated when missing and never read. Copy the settings you",
    "# want to change into `vulnsift.local` in the same directory.",
    "",
    "[scanner]",
    "# Empty means every category:",
    "# command-injection, sql-injection, path-traversal, ssrf,",
    "# hardcoded-secret, weak-crypto",
    "categories = []",
    "min_severity = \"low\"",
    "# Statements per matching window. Raise it to catch values built on one line",
    "# and used a few lines later.",
    "window_width = 1",
    "guard_lookbehind = 8",
    "dedupe = true",
    "max_file_size_mb = 4",
    "excluded_extensions = [\"jpg\", \"png\", \"gif\", \"mp4\", \"avi\", \"mkv\", \"zip\", \"tar\", " ++
      "\"gz\", \"exe\", \"dll\", \"so\", \"min.js\", \"lock\"]",
    "excluded_directories = [\"node_modules\", \".git\", \"target\", \".vscode\", \".idea\", " ++
      "\"build\", \"dist\", \"vendor\"]",
    "excluded_files = []",
    "read_global_ignore = false",
    "read_vcsignore = true",
    "require_git_to_read_vcsignore = true",
    "one_file_system = false",
    "follow_symlinks = false",
    "scan_hidden_files = false",
    "",
    "[output]",
    "# console | json | sarif",
    "default_format = \"console\"",
    "quiet = false",
    "# max_results = 100",
    "fail_on = \"high\"",
    "",
    "[performance]",
    "# max_depth = 10",
    "# worker_threads = 8",
    "batch_size = 8",
    "channel_multiplier = 4",
    "rayon_thread_stack_size = 8388608",
    "",
    "# [[rules.custom]]",
    "# id = \"no_internal_hosts\"",
    "# category = \"ssrf\"",
    "# severity = \"medium\"",
    "# pattern = \"https?://[a-z0-9.-]*\\\\.internal\\\\b\"",
    "# description = \"Request to an internal host\"",
    "# remediation = \"Route internal calls through the service client.\"",
    "# case_insensitive = true"]

def exampleText : String := String.join (exampleLines.map (· ++ "\n"))

end Settings
end SourceAudit
