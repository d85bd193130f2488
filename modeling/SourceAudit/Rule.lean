import SourceAudit.Category
import SourceAudit.Pattern.Machine
import SourceAudit.Severity
import SourceAudit.Window

/-! Rules, and where they fire. -/
namespace SourceAudit

/-- Where a rule fired, with a message of its own if the rule's description will not do. -/
structure Hit where
  span : Span
  message : Option String
deriving DecidableEq, Repr

namespace Hit

def of (f : Fragment) : Hit := ⟨f.span, none⟩

def withMessage (h : Hit) (message : String) : Hit := { h with message := some message }

end Hit

structure Rule where
  id : String
  category : Category
  severity : Severity
  description : String
  remediation : String
  /-- The rule is tried only on statements with a fragment of one of these kinds. -/
  kinds : FragmentKinds
  matcher : Window → Option Hit

/-- Finds a pattern in the text of the head. -/
def patternMatcher (p : Pattern) (w : Window) : Option Hit :=
  (p.find? w.headText).map fun (start, stop) =>
    ⟨⟨w.headSpan.start + start, w.headSpan.start + stop⟩, none⟩

end SourceAudit
