import SourceAudit.Render.Console
import SourceAudit.Render.Document
import SourceAudit.Render.Sarif

/-! The formats of a report. -/
namespace SourceAudit

inductive Format where
  | console | json | sarif
deriving DecidableEq, Repr, Inhabited

namespace Format

def name : Format → String
  | console => "console"
  | json => "json"
  | sarif => "sarif"

def parse (text : String) : Except ConfigError Format :=
  match (trim text).toLower with
  | "console" | "text" => .ok console
  | "json" => .ok json
  | "sarif" => .ok sarif
  | _ => .error (.unknownFormat text)

end Format

/-- A report in writing. -/
structure Rendering where
  text : String
  /-- A line with the time of completion belongs behind the text. -/
  tellsTime : Bool

def Report.render (r : Report) (registry : Registry) (view : Console.View) : Format → Rendering
  | .console => ⟨Console.text view r, !view.quiet⟩
  | .json => ⟨r.document, false⟩
  | .sarif => ⟨Sarif.document r registry, false⟩

end SourceAudit
