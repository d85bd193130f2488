import SourceAudit.Glob
import SourceAudit.Path
import SourceAudit.Text

/-! Ignore files: lists of globs that shut files out of a scan, or let them in again. -/
namespace SourceAudit

inductive Ruling where
  | shutOut
  | letIn
deriving DecidableEq, Repr

structure IgnoreRule where
  glob : Pattern
  ruling : Ruling
  /-- Only directories are meant. -/
  directoriesOnly : Bool

namespace IgnoreRule

/-- A closing slash restricts a rule to directories, and is no part of the glob. -/
def splitDirectory (cs : List Char) : List Char × Bool :=
  match cs.reverse with
  | '/' :: '\\' :: back => (back.reverse, true)
  | '/' :: back => (back.reverse, true)
  | _ => (cs, false)

/-- The glob that a rule stands for: without a slash it may match at any depth, and a directory with
all that lies below does not contain the directory itself. -/
def fullGlob (anchored : Bool) (cs : List Char) : List Char :=
  let deep := !anchored && !cs.contains '/' && cs != ['*', '*']
  let cs := if deep then '*' :: '*' :: '/' :: cs else cs
  if ['/', '*', '*'].isSuffixOf cs then cs ++ ['/', '*'] else cs

/-- Reads one line. Comments, empty lines and broken globs give no rule. -/
def parse? (lenient : Bool) (line : List Char) : Option IgnoreRule := do
  let line := if ['\\', ' '].isSuffixOf line then line else trimEnd line
  let (ruling, anchored, cs) :=
    match line with
    | '\\' :: '!' :: cs => (Ruling.shutOut, false, '!' :: cs)
    | '\\' :: '#' :: cs => (.shutOut, false, '#' :: cs)
    | '!' :: '/' :: cs => (.letIn, true, cs)
    | '!' :: cs => (.letIn, false, cs)
    | '/' :: cs => (.shutOut, true, cs)
    | cs => (.shutOut, false, cs)
  if line.isEmpty || line.head? == some '#' then none
  let (cs, directoriesOnly) := splitDirectory cs
  let glob ← Glob.compile? lenient (String.ofList (fullGlob anchored cs))
  some ⟨glob, ruling, directoriesOnly⟩

end IgnoreRule

/-- Takes a text off the front of another, if it is there. -/
def dropFront (front text : String) : String :=
  if text.startsWith front then String.ofList (text.toList.drop front.length) else text

/-- The rules of one file, with the directory that their globs are relative to. -/
structure IgnoreRules where
  base : String
  rules : List IgnoreRule

namespace IgnoreRules

def ofLines (lenient : Bool) (base : String) (lines : List String) : IgnoreRules :=
  ⟨dropFront "./" base, lines.filterMap fun l => IgnoreRule.parse? lenient l.toList⟩

def empty : IgnoreRules := ⟨"", []⟩

/-- A path as the globs see it. -/
def relative (r : IgnoreRules) (path : String) : String :=
  let path := dropFront "./" path
  if (Path.mk r.base).same ⟨"."⟩ || !path.contains '/' then path
  else if path.startsWith r.base then dropFront "/" (dropFront r.base path)
  else path

/-- The last rule that matches decides. -/
def ruling? (r : IgnoreRules) (path : String) (isDirectory : Bool) : Option Ruling :=
  if r.rules.isEmpty then none
  else
    let path := r.relative path
    (r.rules.reverse.find? fun rule =>
      (!rule.directoriesOnly || isDirectory) && Glob.matchesPath rule.glob path).map
      IgnoreRule.ruling

/-- Cuts bytes at line ends. -/
def splitLines (bytes : List UInt8) : List (List UInt8) :=
  match bytes with
  | [] => [[]]
  | b :: bs =>
    if b = 10 then [] :: splitLines bs
    else
      match splitLines bs with
      | [] => [[b]]
      | l :: ls => (b :: l) :: ls

def dropReturn (line : List UInt8) : List UInt8 :=
  if line.getLast? = some 13 then line.dropLast else line

/-- The lines of an ignore file up to the first that is no text, without byte order marks in front. -/
def linesOf (bytes : ByteArray) : List String :=
  let texts := (splitLines bytes.toList).map fun l => String.fromUTF8? ⟨(dropReturn l).toArray⟩
  match (texts.takeWhile Option.isSome).filterMap id with
  | [] => []
  | l :: ls => String.ofList (l.toList.dropWhile (· == '\ufeff')) :: ls

def ofBytes (base : String) (bytes : ByteArray) : IgnoreRules := ofLines true base (linesOf bytes)

end IgnoreRules
end SourceAudit
