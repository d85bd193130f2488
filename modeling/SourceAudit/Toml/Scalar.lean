import SourceAudit.Toml

/-! Numbers, truth values, dates and times of TOML, each read from the word it is written as. -/
namespace SourceAudit.Toml.Scalar

/-- A row of digits in which single underscores may divide digits; `first` says that the next
character has to be a digit. -/
def digitsFrom? (base : Nat) (first : Bool) : List Char → Option (List Nat)
  | [] => if first then none else some []
  | '_' :: cs => if first then none else digitsFrom? base true cs
  | c :: cs => do
    let d ← digitIn? base c
    (digitsFrom? base false cs).map (d :: ·)

def digits? (base : Nat) (cs : List Char) : Option (List Nat) := digitsFrom? base true cs

/-- A row of digits that starts with zero only when it is zero. -/
def plainDigits? (cs : List Char) : Option (List Nat) := do
  let ds ← digits? 10 cs
  match cs with
  | '0' :: _ :: _ => none
  | _ => some ds

structure Signed where
  negative : Bool
  rest : List Char

def splitSign : List Char → Signed
  | '-' :: cs => ⟨true, cs⟩
  | '+' :: cs => ⟨false, cs⟩
  | cs => ⟨false, cs⟩

/-- Integers have 64 bits. -/
def inRange? (n : Int) : Option Int := if -Int.pow 2 63 ≤ n ∧ n < Int.pow 2 63 then some n else none

def integer? : List Char → Option Int
  | '0' :: 'x' :: cs => do inRange? (ofDigits 16 (← digits? 16 cs))
  | '0' :: 'o' :: cs => do inRange? (ofDigits 8 (← digits? 8 cs))
  | '0' :: 'b' :: cs => do inRange? (ofDigits 2 (← digits? 2 cs))
  | cs => do
    let s := splitSign cs
    let n := ofDigits 10 (← plainDigits? s.rest)
    inRange? (if s.negative then -n else n)

/-- From here on a number is nearer to infinity than to a double. -/
def overflowBound : Nat := Nat.pow 2 1024 - Nat.pow 2 970

/-- Whether the digits, scaled by ten to the power of `exponent`, overflow a double. The number of
digits decides far from the bound, so that no huge power is computed. -/
def overflows (digits : List Nat) (exponent : Int) : Bool :=
  let ds := digits.dropWhile (· == 0)
  let magnitude := exponent + ds.length
  if ds.isEmpty ∨ magnitude < 300 then false
  else if 320 < magnitude then true
  else if 0 ≤ exponent then overflowBound ≤ ofDigits 10 ds * Nat.pow 10 exponent.toNat
  else overflowBound * Nat.pow 10 (-exponent).toNat ≤ ofDigits 10 ds

def exponent? (cs : List Char) : Option Int := do
  let s := splitSign cs
  let n := ofDigits 10 (← digits? 10 s.rest)
  some (if s.negative then -n else n)

/-- A number with a fraction, an exponent or both; a positive one has to fit a double. -/
def isFloat (cs : List Char) : Bool :=
  let s := splitSign cs
  if s.rest == ['i', 'n', 'f'] || s.rest == ['n', 'a', 'n'] then true
  else
    let isMark := fun c : Char => c == 'e' || c == 'E'
    let mantissa := s.rest.takeWhile (!isMark ·)
    let power := s.rest.dropWhile (!isMark ·)
    let whole := mantissa.takeWhile (· != '.')
    let fraction := mantissa.dropWhile (· != '.')
    let parts := do
      let ws ← plainDigits? whole
      let fs ← match fraction with
        | [] => some []
        | _ :: cs => digits? 10 cs
      let e ← match power with
        | [] => some 0
        | _ :: cs => exponent? cs
      some (ws ++ fs, e - fs.length)
    match parts with
    | none => false
    | some (ds, e) => !(fraction.isEmpty && power.isEmpty) && (s.negative || !overflows ds e)

/-- A number of exactly `count` digits. -/
def fixed? (count : Nat) (cs : List Char) : Option (Nat × List Char) := do
  let ds ← (cs.take count).mapM (digitIn? 10)
  if ds.length = count then some (ofDigits 10 ds, cs.drop count) else none

def skip? (c : Char) : List Char → Option (List Char)
  | d :: cs => if c = d then some cs else none
  | [] => none

def daysIn (year month : Nat) : Nat :=
  if month = 2 then
    if year % 4 = 0 ∧ (year % 100 ≠ 0 ∨ year % 400 = 0) then 29 else 28
  else if [4, 6, 9, 11].contains month then 30 else 31

/-- A date, and what follows it. -/
def date? (cs : List Char) : Option (List Char) := do
  let (year, cs) ← fixed? 4 cs
  let (month, cs) ← fixed? 2 (← skip? '-' cs)
  let (day, cs) ← fixed? 2 (← skip? '-' cs)
  if 1 ≤ month ∧ month ≤ 12 ∧ 1 ≤ day ∧ day ≤ daysIn year month then some cs else none

/-- A time of the day down to seconds, and what follows it. -/
def time? (cs : List Char) : Option (List Char) := do
  let (hour, cs) ← fixed? 2 cs
  let (minute, cs) ← fixed? 2 (← skip? ':' cs)
  let (second, cs) ← fixed? 2 (← skip? ':' cs)
  if hour ≤ 23 ∧ minute ≤ 59 ∧ second ≤ 60 then
    match cs with
    | '.' :: c :: cs => if isDigit c then some (cs.dropWhile isDigit) else none
    | cs => some cs
  else none

/-- Nothing, or the distance of a time from universal time. -/
def isOffset : List Char → Bool
  | [] | ['Z'] | ['z'] => true
  | c :: cs =>
    (c == '+' || c == '-') &&
      (match (do
          let (hour, cs) ← fixed? 2 cs
          let (minute, cs) ← fixed? 2 (← skip? ':' cs)
          some (hour ≤ 23 ∧ minute ≤ 59 ∧ cs = [] : Bool)) with
        | some valid => valid
        | none => false)

def isZonedTime (cs : List Char) : Bool :=
  match time? cs with
  | some rest => isOffset rest
  | none => false

def isDate (cs : List Char) : Bool := date? cs == some []

/-- A date, a time, or both with a `T` between them. -/
def isMoment (cs : List Char) : Bool :=
  time? cs == some [] ||
    match date? cs with
    | some [] => true
    | some (c :: rest) => (c == 'T' || c == 't') && isZonedTime rest
    | none => false

/-- The characters of which scalars other than strings are written. -/
def isWordChar (c : Char) : Bool :=
  c.isAlphanum || c == '+' || c == '-' || c == '.' || c == '_' || c == ':'

def ofWord? (cs : List Char) : Option Value :=
  if cs == ['t', 'r', 'u', 'e'] then some (.bool true)
  else if cs == ['f', 'a', 'l', 's', 'e'] then some (.bool false)
  else if isMoment cs then some .moment
  else if isFloat cs then some .float
  else (integer? cs).map .integer

/-- Reads a scalar. A blank may stand between a date and a time. -/
def read? (cs : List Char) : Option (Value × List Char) := do
  let word := cs.takeWhile isWordChar
  let rest := cs.dropWhile isWordChar
  let value ← ofWord? word
  match rest with
  | ' ' :: more =>
    let next := more.takeWhile isWordChar
    if isDate word && isZonedTime next then some (value, more.dropWhile isWordChar)
    else some (value, rest)
  | _ => some (value, rest)

end SourceAudit.Toml.Scalar
