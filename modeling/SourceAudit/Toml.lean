/-! The values of a TOML document. -/
namespace SourceAudit.Toml

inductive Value where
  | text (value : String)
  | integer (value : Int)
  /-- A number with a fraction or an exponent; no setting reads one, so only its kind is kept. -/
  | float
  | bool (value : Bool)
  /-- A date, a time or both; only its kind is kept. -/
  | moment
  | array (items : List Value)
  | table (fields : List (String × Value))
deriving Inhabited

/-- The value of a row of digits in a base. -/
def ofDigits (base : Nat) (digits : List Nat) : Nat := digits.foldl (fun n d => base * n + d) 0

/-- The value of a digit or letter, as in hexadecimal. -/
def digitValue? (c : Char) : Option Nat :=
  if '0' ≤ c ∧ c ≤ '9' then some (c.toNat - '0'.toNat)
  else if 'a' ≤ c ∧ c ≤ 'f' then some (c.toNat - 'a'.toNat + 10)
  else if 'A' ≤ c ∧ c ≤ 'F' then some (c.toNat - 'A'.toNat + 10)
  else none

def digitIn? (base : Nat) (c : Char) : Option Nat :=
  (digitValue? c).bind fun d => if d < base then some d else none

def isDigit (c : Char) : Bool := (digitIn? 10 c).isSome

end SourceAudit.Toml
