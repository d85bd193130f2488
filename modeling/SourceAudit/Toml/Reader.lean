import SourceAudit.Toml.Draft
import SourceAudit.Toml.Quoted
import SourceAudit.Toml.Scalar

/-! Reading TOML documents. Loops over parts of the text are bounded by its length. -/
namespace SourceAudit.Toml

open Quoted (isPlain isBlankChar)

def skipBlanks (cs : List Char) : List Char := cs.dropWhile isBlankChar

/-- Behind a comment, if there is one. -/
def skipComment : List Char → List Char
  | '#' :: cs => cs.dropWhile isPlain
  | cs => cs

/-- The end of a line or of the text, behind blanks and a comment. -/
def endLine? (cs : List Char) : Option (List Char) :=
  match skipComment (skipBlanks cs) with
  | [] => some []
  | '\n' :: cs | '\r' :: '\n' :: cs => some cs
  | _ => none

/-- Blanks, comments and line ends. -/
def skipSpace : Nat → List Char → List Char
  | 0, cs => cs
  | fuel + 1, cs =>
    match skipBlanks cs with
    | '#' :: cs => skipSpace fuel (cs.dropWhile isPlain)
    | '\n' :: cs | '\r' :: '\n' :: cs => skipSpace fuel cs
    | cs => cs

def isKeyChar (c : Char) : Bool := c.isAlphanum || c == '-' || c == '_'

/-- A key without dots: a bare word or a string on one line. -/
def simpleKey? : List Char → Option (String × List Char)
  | '"' :: cs => Quoted.basic? [] cs
  | '\'' :: cs => Quoted.literal? [] cs
  | cs =>
    let word := cs.takeWhile isKeyChar
    if word.isEmpty then none else some (String.ofList word, cs.dropWhile isKeyChar)

/-- Keys and values are nested at most this deep. -/
def depthLimit : Nat := 80

structure Key where
  path : List String
  last : String

/-- A key with its dots; blanks may stand around each part. -/
def keyParts? : Nat → List Char → Option (List String × List Char)
  | 0, _ => none
  | fuel + 1, cs => do
    let (part, cs) ← simpleKey? (skipBlanks cs)
    match skipBlanks cs with
    | '.' :: cs => do
      let (parts, cs) ← keyParts? fuel cs
      some (part :: parts, cs)
    | cs => some ([part], cs)

def key? (cs : List Char) : Option (Key × List Char) := do
  let (parts, cs) ← keyParts? (cs.length + 1) cs
  if depthLimit ≤ parts.length then none
  else
    match parts.reverse with
    | [] => none
    | last :: before => some (⟨before.reverse, last⟩, cs)

/-- The values of an array, behind its bracket or a comma. -/
def items? (value : List Char → Option (Value × List Char)) :
    Nat → List Char → Option (List Value × List Char)
  | 0, _ => none
  | fuel + 1, cs =>
    match skipSpace (cs.length + 1) cs with
    | ']' :: cs => some ([], cs)
    | cs => do
      let (v, cs) ← value cs
      match skipSpace (cs.length + 1) cs with
      | ']' :: cs => some ([v], cs)
      | ',' :: cs => do
        let (vs, cs) ← items? value fuel cs
        some (v :: vs, cs)
      | _ => none

/-- A key with its value, up to where the value ends. -/
def pair? (value : List Char → Option (Value × List Char)) (cs : List Char) :
    Option (Key × Value × List Char) := do
  let (key, cs) ← key? cs
  match cs with
  | '=' :: cs => do
    let (v, cs) ← value (skipBlanks cs)
    some (key, v, cs)
  | _ => none

/-- The pairs of an inline table, behind its brace or a comma. -/
def fields? (value : List Char → Option (Value × List Char)) (entries : Entries) :
    Nat → List Char → Option (Entries × List Char)
  | 0, _ => none
  | fuel + 1, cs => do
    let (key, v, cs) ← pair? value cs
    let entries ← entries.place? key.path key.last v .header
    match skipBlanks cs with
    | '}' :: cs => some (entries, cs)
    | ',' :: cs => fields? value entries fuel cs
    | _ => none

/-- A value that may be nested `room` levels deep. -/
def value? : Nat → List Char → Option (Value × List Char)
  | room, '[' :: cs =>
    match room with
    | 0 => none
    | room + 1 => do
      let (vs, cs) ← items? (value? room) (cs.length + 1) cs
      some (.array vs, cs)
  | room, '{' :: cs =>
    match room with
    | 0 => none
    | room + 1 =>
      match skipBlanks cs with
      | '}' :: cs => some (.table [], cs)
      | cs => do
        let (es, cs) ← fields? (value? room) [] (cs.length + 1) cs
        some (.table (entryValues es), cs)
  | _, '"' :: cs => do
    let (s, cs) ← Quoted.read? ('"' :: cs)
    some (.text s, cs)
  | _, '\'' :: cs => do
    let (s, cs) ← Quoted.read? ('\'' :: cs)
    some (.text s, cs)
  | _, cs => Scalar.read? cs

/-- What a line adds to a document. -/
inductive Line where
  | table (key : Key)
  | row (key : Key)
  | pair (key : Key) (value : Value)

def line? : List Char → Option (Line × List Char)
  | '[' :: '[' :: cs => do
    let (key, cs) ← key? cs
    match cs with
    | ']' :: ']' :: cs => some (.row key, cs)
    | _ => none
  | '[' :: cs => do
    let (key, cs) ← key? cs
    match cs with
    | ']' :: cs => some (.table key, cs)
    | _ => none
  | cs => do
    let (key, v, cs) ← pair? (value? (depthLimit - 1)) cs
    some (.pair key v, cs)

def lines? : Nat → List Char → Option (List Line)
  | 0, _ => none
  | fuel + 1, cs =>
    match skipSpace (cs.length + 1) cs with
    | [] => some []
    | cs => do
      let (line, cs) ← line? cs
      let cs ← endLine? cs
      (lines? fuel cs).map (line :: ·)

/-- A document so far, and the table that is open. -/
structure Draft where
  current : List String
  entries : Entries

def Draft.add? (d : Draft) : Line → Option Draft
  | .table key => do
    some ⟨key.path ++ [key.last], ← d.entries.openTable? key.path key.last⟩
  | .row key => do
    some ⟨key.path ++ [key.last], ← d.entries.openRow? key.path key.last⟩
  | .pair key v => do
    let add := fun origin es => Entries.place? key.path key.last v origin es
    some { d with entries := ← d.entries.descend? false add d.current .header }

def skipByteOrderMark : List Char → List Char
  | c :: cs => if c = '\ufeff' then cs else c :: cs
  | [] => []

/-- Reads a document; its fields are those of the root table. -/
def parse? (text : String) : Option (List (String × Value)) := do
  let cs := skipByteOrderMark text.toList
  let lines ← lines? (cs.length + 1) cs
  let draft ← lines.foldlM Draft.add? ⟨[], []⟩
  some (entryValues draft.entries)

end SourceAudit.Toml
