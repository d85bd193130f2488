import SourceAudit.Language
import SourceAudit.Span

/-! One file's text with its path and language, and the check that admits bytes as text. -/
namespace SourceAudit

structure Source where
  path : Path
  language : Language
  text : String
deriving Inhabited

/-- Why the bytes of a file are not source text. -/
inductive Malformed where
  /-- More than one byte in a hundred is zero. -/
  | binary
  /-- The bytes stop being UTF-8 after `validUpTo`. -/
  | invalidUtf8 (validUpTo : Nat)
deriving DecidableEq, Repr

def Malformed.message (path : Path) : Malformed → String
  | binary => s!"{path.text}: binary content"
  | invalidUtf8 n => s!"{path.text}: invalid UTF-8 after byte {n}"

namespace Source

/-- Text whose extension is unknown is read as C. -/
def ofText (path : Path) (text : String) : Source :=
  ⟨path, (Language.ofPath? path).getD .c, text⟩

/-- The offset at which the whole characters that start at `i` end. -/
def validUpTo (bytes : ByteArray) (i : Nat) : Nat :=
  match h : bytes.utf8DecodeChar? i with
  | none => i
  | some c =>
    have := ByteArray.le_size_of_utf8DecodeChar?_eq_some h
    have := c.utf8Size_pos
    validUpTo bytes (i + c.utf8Size)
termination_by bytes.size - i

def isBinary (bytes : ByteArray) : Bool :=
  decide (bytes.size < 100 * bytes.data.count 0)

def ofBytes (path : Path) (bytes : ByteArray) : Except Malformed Source :=
  if isBinary bytes then .error .binary
  else
    match String.fromUTF8? bytes with
    | some text => .ok (ofText path text)
    | none => .error (.invalidUtf8 (validUpTo bytes 0))

def size (s : Source) : Nat := s.text.utf8ByteSize

theorem clamp_le (text : String) (start stop : Nat) :
    (⟨max (min start text.utf8ByteSize) (min stop text.utf8ByteSize)⟩ : String.Pos.Raw)
      ≤ text.rawEndPos := by
  simp only [String.Pos.Raw.le_iff, String.byteIdx_rawEndPos]
  omega

/-- The text from `start` to `stop`. Offsets beyond the text are pulled back to its end, and an
offset inside a character moves outwards to the border of that character. -/
def slice (s : Source) (start stop : Nat) : String :=
  let first := min start s.text.utf8ByteSize
  let last := max first (min stop s.text.utf8ByteSize)
  s.text.extract (s.text.posLE ⟨first⟩) (s.text.posGE ⟨last⟩ (clamp_le s.text start stop))

def sliceSpan (s : Source) (span : Span) : String := s.slice span.start span.stop

end Source
end SourceAudit
