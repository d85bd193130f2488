import SourceAudit.Path

/-! Files and directories, and what paths lead to. -/
namespace SourceAudit

inductive FileTree where
  | file (bytes : ByteArray)
  | directory (entries : List (String × FileTree))
deriving Inhabited

/-- Why a path leads to nothing that can be used. -/
inductive PathError where
  | notFound
  | notDirectory
  | isDirectory
  | nameTooLong
  | nullInName
deriving DecidableEq, Repr

def PathError.message : PathError → String
  | notFound => "I/O error: No such file or directory (os error 2)"
  | notDirectory => "I/O error: Not a directory (os error 20)"
  | isDirectory => "I/O error: Is a directory (os error 21)"
  | nameTooLong => "I/O error: File name too long (os error 36)"
  | nullInName => "I/O error: file name contained an unexpected NUL byte"

namespace FileTree

def empty : FileTree := directory []

def isDirectory : FileTree → Bool
  | directory _ => true
  | file _ => false

def entries : FileTree → List (String × FileTree)
  | directory es => es
  | file _ => []

/-- Puts what `f` makes of it in place of an entry. -/
def alter (name : String) (f : Option FileTree → FileTree) :
    List (String × FileTree) → List (String × FileTree)
  | [] => [(name, f none)]
  | (n, t) :: es => if n == name then (n, f (some t)) :: es else (n, t) :: alter name f es

/-- Puts a tree below a path, making the directories on the way. -/
def put (new : FileTree) : List String → FileTree → FileTree
  | [], _ => new
  | name :: names, tree =>
    directory (alter name (fun t => put new names (t.getD empty)) tree.entries)

/-- Makes a directory unless it is there. -/
def makeDirectory : List String → FileTree → FileTree
  | [], tree => directory tree.entries
  | name :: names, tree =>
    directory (alter name (fun t => makeDirectory names (t.getD empty)) tree.entries)

end FileTree

/-- All files, and the directory that relative paths start from. -/
structure FileSystem where
  root : FileTree
  workingDirectory : List String

namespace FileSystem

/-- What a path led to, with the names on the way from the root. -/
structure Place where
  names : List String
  tree : FileTree

/-- The place, and the places above it, the nearest first. -/
structure Trail where
  place : Place
  above : List Place

def Trail.down (t : Trail) (name : String) (tree : FileTree) : Trail :=
  ⟨⟨t.place.names ++ [name], tree⟩, t.place :: t.above⟩

/-- The root is above itself. -/
def Trail.up (t : Trail) : Trail :=
  match t.above with
  | [] => t
  | p :: ps => ⟨p, ps⟩

def nameLimit : Nat := 255
def pathLimit : Nat := 4096

/-- Follows the pieces of a path. An empty piece or a dot stays, but only in a directory. -/
def follow (t : Trail) : List (List Char) → Except PathError Trail
  | [] => .ok t
  | piece :: pieces =>
    match t.place.tree with
    | .file _ => .error .notDirectory
    | .directory entries =>
      if piece = [] ∨ piece = ['.'] then follow t pieces
      else if piece = ['.', '.'] then follow t.up pieces
      else
        let name := String.ofList piece
        if nameLimit < name.utf8ByteSize then .error .nameTooLong
        else
          match entries.lookup name with
          | none => .error .notFound
          | some tree => follow (t.down name tree) pieces

def resolve (fs : FileSystem) (p : Path) : Except PathError Place := do
  let cs := p.text.toList
  if cs.contains '\x00' then throw .nullInName
  if cs.isEmpty then throw .notFound
  if pathLimit ≤ p.text.utf8ByteSize then throw .nameTooLong
  let start : Trail := ⟨⟨[], fs.root⟩, []⟩
  let start ← if cs.head? = some '/' then pure start
    else follow start (fs.workingDirectory.map String.toList)
  return (← follow start (Path.pieces cs)).place

def read (fs : FileSystem) (p : Path) : Except PathError ByteArray := do
  match (← fs.resolve p).tree with
  | .file bytes => pure bytes
  | .directory _ => throw .isDirectory

end FileSystem
end SourceAudit
