import SourceAudit.Path

/-! The language families, told apart by the extension of a file. A family fixes which comments
and which literals the lexer knows. -/
namespace SourceAudit

inductive Language where
  | rust | go | python | javaScript | typeScript | java | c | cpp | php | ruby | shell
deriving DecidableEq, Repr, Inhabited

namespace Language

/-- Every recognised extension, in lower case. -/
def ofExtension? : String → Option Language
  | "rs" => some rust
  | "go" => some go
  | "py" | "pyw" => some python
  | "js" | "jsx" | "mjs" | "cjs" => some javaScript
  | "ts" | "tsx" | "mts" | "cts" => some typeScript
  | "java" | "kt" => some java
  | "c" | "h" => some c
  | "cpp" | "c++" | "cc" | "hpp" => some cpp
  | "php" => some php
  | "rb" => some ruby
  | "sh" | "bash" => some shell
  | _ => none

/-- The extension that stands for a family. -/
def extension : Language → String
  | rust => "rs"
  | go => "go"
  | python => "py"
  | javaScript => "js"
  | typeScript => "ts"
  | java => "java"
  | c => "c"
  | cpp => "cpp"
  | php => "php"
  | ruby => "rb"
  | shell => "sh"

@[simp] theorem ofExtension?_extension (l : Language) : ofExtension? l.extension = some l := by
  cases l <;> rfl

/-- The family of a file; letter case does not matter. -/
def ofPath? (p : Path) : Option Language := do
  ofExtension? (← p.extension?).toLower

/-- A number sign starts a comment that runs to the end of the line. -/
def hashComments : Language → Bool
  | python | ruby | shell | php => true
  | _ => false

/-- A single quote may begin a lifetime or a label. -/
def hasLifetimes : Language → Bool
  | rust => true
  | _ => false

end Language
end SourceAudit
