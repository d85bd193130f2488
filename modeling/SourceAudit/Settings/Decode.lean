import SourceAudit.Settings
import SourceAudit.Toml.Reader

/-! Settings from a TOML document. What is missing keeps its default, what is unknown is passed over,
and a value of the wrong kind or out of range spoils the document. -/
namespace SourceAudit.Settings

open Toml (Value)

abbrev Decoder (α : Type) := Value → Option α

def text? : Decoder String
  | .text s => some s
  | _ => none

def flag? : Decoder Bool
  | .bool b => some b
  | _ => none

/-- A whole number below `limit`. -/
def number? (limit : Nat) : Decoder Nat
  | .integer n => if 0 ≤ n ∧ n < limit then some n.toNat else none
  | _ => none

def word? (v : Value) : Option UInt64 := (number? (Nat.pow 2 64) v).map Nat.toUInt64

def list? (item : Decoder α) : Decoder (List α)
  | .array vs => vs.mapM item
  | _ => none

def texts? : Decoder (List String) := list? text?

/-- The fields of a record: by name, or listed in their order. -/
inductive Fields where
  | named (fields : List (String × Value))
  | listed (values : List Value)

namespace Fields

/-- A date stands for a record of which no field is known. -/
def of? : Value → Option Fields
  | .table fields => some (.named fields)
  | .array values => some (.listed values)
  | .moment => some (.named [])
  | _ => none

def get? (f : Fields) (index : Nat) (name : String) : Option Value :=
  match f with
  | named fields => fields.lookup name
  | listed values => values[index]?

/-- A field that has to be there. -/
def need? (f : Fields) (index : Nat) (name : String) (decode : Decoder α) : Option α :=
  (f.get? index name).bind decode

/-- A field that may be missing. -/
def read? (f : Fields) (index : Nat) (name : String) (decode : Decoder α) (default : α) : Option α :=
  match f.get? index name with
  | some v => decode v
  | none => some default

end Fields

def scan? (v : Value) : Option ScanSettings := do
  let f ← Fields.of? v
  let d : ScanSettings := {}
  some
    { categories := ← f.read? 0 "categories" texts? d.categories
      minSeverity := ← f.read? 1 "min_severity" text? d.minSeverity
      windowWidth := ← f.read? 2 "window_width" word? d.windowWidth
      guardLookbehind := ← f.read? 3 "guard_lookbehind" word? d.guardLookbehind
      dedupe := ← f.read? 4 "dedupe" flag? d.dedupe
      maxFileSize := ← f.read? 5 "max_file_size_mb" (fun v => (word? v).map some) d.maxFileSize
      excludedExtensions := ← f.read? 6 "excluded_extensions" texts? d.excludedExtensions
      excludedDirectories := ← f.read? 7 "excluded_directories" texts? d.excludedDirectories
      excludedFiles := ← f.read? 8 "excluded_files" texts? d.excludedFiles
      readGlobalIgnore := ← f.read? 9 "read_global_ignore" flag? d.readGlobalIgnore
      readIgnoreFiles := ← f.read? 10 "read_vcsignore" flag? d.readIgnoreFiles
      needsRepository := ← f.read? 11 "require_git_to_read_vcsignore" flag? d.needsRepository
      oneFileSystem := ← f.read? 12 "one_file_system" flag? d.oneFileSystem
      followLinks := ← f.read? 13 "follow_symlinks" flag? d.followLinks
      scanHidden := ← f.read? 14 "scan_hidden_files" flag? d.scanHidden }

def count? : Decoder Nat := number? (Nat.pow 2 64)

def output? (v : Value) : Option OutputSettings := do
  let f ← Fields.of? v
  let d : OutputSettings := {}
  some
    { format := ← f.read? 0 "default_format" text? d.format
      quiet := ← f.read? 1 "quiet" flag? d.quiet
      maxResults := ← f.read? 2 "max_results" (fun v => (number? (Nat.pow 2 32) v).map some) d.maxResults
      failOn := ← f.read? 3 "fail_on" text? d.failOn }

def effort? (v : Value) : Option EffortSettings := do
  let f ← Fields.of? v
  let d : EffortSettings := {}
  some
    { maxDepth := ← f.read? 0 "max_depth" (fun v => (count? v).map some) d.maxDepth
      threads := ← f.read? 1 "worker_threads" (fun v => (count? v).map some) d.threads
      batchSize := ← f.read? 2 "batch_size" count? d.batchSize
      channelFactor := ← f.read? 3 "channel_multiplier" count? d.channelFactor
      stackSize := ← f.read? 4 "rayon_thread_stack_size" count? d.stackSize }

def customRule? (v : Value) : Option CustomRule := do
  let f ← Fields.of? v
  some
    { id := ← f.need? 0 "id" text?
      category := ← f.need? 1 "category" text?
      severity := ← f.need? 2 "severity" text?
      pattern := ← f.need? 3 "pattern" text?
      description := ← f.read? 4 "description" text? ""
      remediation := ← f.read? 5 "remediation" text? ""
      caseInsensitive := ← f.read? 6 "case_insensitive" flag? false }

def rules? (v : Value) : Option (List CustomRule) := do
  let f ← Fields.of? v
  f.read? 0 "custom" (list? customRule?) []

def ofFields? (fields : List (String × Value)) : Option Settings := do
  let f := Fields.named fields
  some
    { scan := ← f.read? 0 "scanner" scan? {}
      output := ← f.read? 1 "output" output? {}
      effort := ← f.read? 2 "performance" effort? {}
      custom := ← f.read? 3 "rules" rules? [] }

def parse? (text : String) : Option Settings := (Toml.parse? text).bind ofFields?

/-- The settings in force, given the text of the user's file if there is one. -/
def load? : Option String → Option Settings
  | none => some {}
  | some text => (parse? text).map (merge {})

end SourceAudit.Settings
