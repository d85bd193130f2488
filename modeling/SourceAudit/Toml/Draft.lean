import SourceAudit.Toml

/-! A TOML document while it is read. How a table came about decides what may still be added to it. -/
namespace SourceAudit.Toml

inductive Origin where
  /-- By its own header. -/
  | header
  /-- By a dotted key. -/
  | dotted
  /-- By the header of a table inside it. -/
  | implied
deriving DecidableEq, Repr

inductive Node where
  | leaf (value : Value)
  | table (origin : Origin) (entries : List (String × Node))
  /-- A list of tables; only the last can grow. -/
  | rows (before : List (List (String × Node))) (last : List (String × Node))
deriving Inhabited

abbrev Entries := List (String × Node)

namespace Entries

/-- Puts in place of the node under a key what `f` makes of it. -/
def alter? (key : String) (f : Option Node → Option Node) : Entries → Option Entries
  | [] => (f none).map fun n => [(key, n)]
  | (k, n) :: es =>
    if k == key then (f (some n)).map fun n => (k, n) :: es
    else (alter? key f es).map ((k, n) :: ·)

/-- Goes down to the table at a path, making tables that are missing, and changes it by `f`. A dotted
path does not enter a table that has a header. -/
def descend? (dotted : Bool) (f : Origin → Entries → Option Entries) :
    List String → Origin → Entries → Option Entries
  | [], origin, es => f origin es
  | key :: path, _, es =>
    alter? key (fun
      | none =>
        let origin := if dotted then Origin.dotted else .implied
        (descend? dotted f path origin []).map (.table origin)
      | some (.leaf _) => none
      | some (.table origin es) =>
        if dotted && origin = .header then none
        else (descend? dotted f path origin es).map (.table origin)
      | some (.rows before last) => (descend? dotted f path .header last).map (.rows before)) es

/-- Adds a value under a dotted key. No key comes twice, and a plain key does not join what dotted keys
began, nor the other way round. -/
def place? (path : List String) (key : String) (value : Value) (origin : Origin) (es : Entries) :
    Option Entries :=
  descend? true (fun origin es =>
    if decide (origin = .dotted) == path.isEmpty then none
    else alter? key (fun
      | none => some (.leaf value)
      | some _ => none) es) path origin es

/-- Opens the table of a header. -/
def openTable? (path : List String) (key : String) (es : Entries) : Option Entries :=
  descend? false (fun _ es => alter? key (fun
    | none => some (.table .header [])
    | some (.table .implied es) => some (.table .header es)
    | some _ => none) es) path .header es

/-- Adds a table to the list of tables of a header. -/
def openRow? (path : List String) (key : String) (es : Entries) : Option Entries :=
  descend? false (fun _ es => alter? key (fun
    | none => some (.rows [] [])
    | some (.rows before last) => some (.rows (before ++ [last]) [])
    | some _ => none) es) path .header es

end Entries

mutual

def Node.value : Node → Value
  | .leaf v => v
  | .table _ es => .table (entryValues es)
  | .rows before last => .array (rowValues before ++ [.table (entryValues last)])

def entryValues : List (String × Node) → List (String × Value)
  | [] => []
  | (k, n) :: es => (k, n.value) :: entryValues es

def rowValues : List (List (String × Node)) → List Value
  | [] => []
  | es :: rows => .table (entryValues es) :: rowValues rows

end

end SourceAudit.Toml
