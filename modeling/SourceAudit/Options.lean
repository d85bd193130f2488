import SourceAudit.Settings

/-! What a scan looks for. -/
namespace SourceAudit

structure Options where
  categories : List Category := Category.all
  /-- How many statements a window shows, the head included. -/
  windowWidth : UInt64 := 1
  minSeverity : Severity := .low
  dedupe : Bool := true
  /-- How many statements before the head are searched for guards. -/
  guardLookbehind : UInt64 := 8
deriving DecidableEq, Repr

namespace Options

/-- Refuses a window of no statements and an empty choice of categories, and puts the categories in
order. -/
def validate (o : Options) : Except ConfigError Options :=
  if o.windowWidth = 0 then .error .zeroWindowWidth
  else if o.categories.isEmpty then .error .noCategories
  else .ok { o with categories := Category.all.filter o.categories.contains }

/-- Reads the names in the settings, categories first. -/
def ofSettings (s : ScanSettings) : Except ConfigError Options := do
  let categories ← if s.categories.isEmpty then pure Category.all else s.categories.mapM Category.parse
  let minSeverity ← Severity.parse s.minSeverity
  validate
    { categories, minSeverity, windowWidth := s.windowWidth, dedupe := s.dedupe
      guardLookbehind := s.guardLookbehind }

end Options
end SourceAudit
