import SourceAudit.Severity

/-! Text with colors for a terminal. -/
namespace SourceAudit

/-- A color and attributes, as the numbers that switch them on; attributes are in ascending order. -/
structure Style where
  codes : List Nat

namespace Style

def bold : Nat := 1
def dim : Nat := 2
def italic : Nat := 3
def underlined : Nat := 4
def reversed : Nat := 7
def red : Nat := 31
def green : Nat := 32
def yellow : Nat := 33
def blue : Nat := 34
def cyan : Nat := 36
def white : Nat := 37

def switch (code : Nat) : String := s!"\x1b[{code}m"

/-- The text in a style; without colors it stays plain. -/
def apply (colors : Bool) (s : Style) (text : String) : String :=
  if colors && !s.codes.isEmpty then String.join (s.codes.map switch) ++ text ++ switch 0 else text

/-- Fills a text up with blanks on the right. -/
def padRight (width : Nat) (text : String) : String :=
  text ++ String.ofList (List.replicate (width - text.length) ' ')

/-- Fills a text up with blanks on the left. -/
def padLeft (width : Nat) (text : String) : String :=
  String.ofList (List.replicate (width - text.length) ' ') ++ text

end Style

/-- A severity as it is shown on a terminal. -/
def Severity.badge (colors : Bool) : Severity → String
  | .critical => Style.apply colors ⟨[Style.red, Style.bold, Style.reversed]⟩ "CRITICAL"
  | .high => Style.apply colors ⟨[Style.red, Style.bold]⟩ "HIGH"
  | .medium => Style.apply colors ⟨[Style.yellow, Style.bold]⟩ "MEDIUM"
  | .low => Style.apply colors ⟨[Style.cyan, Style.bold]⟩ "LOW"

end SourceAudit
