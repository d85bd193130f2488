/-! JSON values and their layout over several lines. -/
namespace SourceAudit

inductive Json where
  | null
  | bool (value : Bool)
  | nat (value : Nat)
  /-- A number with one decimal, given in tenths. -/
  | tenths (value : Nat)
  | str (value : String)
  | arr (items : List Json)
  /-- The fields are written in this order. -/
  | obj (fields : List (String × Json))
deriving Inhabited

namespace Json

def hexDigit (n : Nat) : Char := Nat.digitChar (n % 16)

/-- How a character is written inside quotes. -/
def escape (c : Char) : List Char :=
  if c = '"' then ['\\', '"']
  else if c = '\\' then ['\\', '\\']
  else if c = '\n' then ['\\', 'n']
  else if c = '\r' then ['\\', 'r']
  else if c = '\t' then ['\\', 't']
  else if c = '\x08' then ['\\', 'b']
  else if c = '\x0c' then ['\\', 'f']
  else if c.toNat < 32 then ['\\', 'u', '0', '0', hexDigit (c.toNat / 16), hexDigit c.toNat]
  else [c]

def quote (s : String) : String := String.ofList ('"' :: s.toList.flatMap escape ++ ['"'])

def tenthsText (n : Nat) : String := s!"{n / 10}.{n % 10}"

def indent (level : Nat) : String := String.ofList (List.replicate (2 * level) ' ')

mutual

/-- The value on several lines, two blanks a level; an empty container stays on its line. -/
def pretty (level : Nat) : Json → String
  | null => "null"
  | bool b => if b then "true" else "false"
  | nat n => toString n
  | tenths n => tenthsText n
  | str s => quote s
  | arr [] => "[]"
  | arr (x :: xs) =>
    "[\n" ++ indent (level + 1) ++ pretty (level + 1) x ++ prettyItems (level + 1) xs ++ "\n" ++
      indent level ++ "]"
  | obj [] => "\x7b\x7d"
  | obj ((k, x) :: xs) =>
    "\x7b\n" ++ indent (level + 1) ++ quote k ++ ": " ++ pretty (level + 1) x ++
      prettyFields (level + 1) xs ++ "\n" ++ indent level ++ "\x7d"

def prettyItems (level : Nat) : List Json → String
  | [] => ""
  | x :: xs => ",\n" ++ indent level ++ pretty level x ++ prettyItems level xs

def prettyFields (level : Nat) : List (String × Json) → String
  | [] => ""
  | (k, x) :: xs =>
    ",\n" ++ indent level ++ quote k ++ ": " ++ pretty level x ++ prettyFields level xs

end

/-- A value that may be missing. -/
def ofOption (f : α → Json) : Option α → Json
  | none => null
  | some a => f a

end Json
end SourceAudit
