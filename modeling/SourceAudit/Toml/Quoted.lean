import SourceAudit.Toml

/-! The four kinds of TOML strings: with escapes or literal, on one line or on several. -/
namespace SourceAudit.Toml.Quoted

/-- Characters that stand for themselves in strings and comments. -/
def isPlain (c : Char) : Bool := c == '\t' || (' ' ≤ c && c ≤ '~') || 0x80 ≤ c.toNat

def isBlankChar (c : Char) : Bool := c == ' ' || c == '\t'

/-- The character with a code point, given in hexadecimal digits. -/
def ofHex? (cs : List Char) : Option Char := do
  let n := ofDigits 16 (← cs.mapM (digitIn? 16))
  if n.isValidChar then some (Char.ofNat n) else none

def escape? : Char → Option Char
  | 'b' => some '\x08'
  | 'f' => some '\x0c'
  | 'n' => some '\n'
  | 'r' => some '\r'
  | 't' => some '\t'
  | '\\' => some '\\'
  | '"' => some '"'
  | _ => none

/-- A string with escapes, behind its opening quote; `done` is in reverse. -/
def basic? (done : List Char) : List Char → Option (String × List Char)
  | '"' :: cs => some (String.ofList done.reverse, cs)
  | '\\' :: 'u' :: a :: b :: c :: d :: cs => do basic? ((← ofHex? [a, b, c, d]) :: done) cs
  | '\\' :: 'U' :: a :: b :: c :: d :: e :: f :: g :: h :: cs => do
    basic? ((← ofHex? [a, b, c, d, e, f, g, h]) :: done) cs
  | '\\' :: c :: cs => do basic? ((← escape? c) :: done) cs
  | c :: cs => if isPlain c && c != '\\' then basic? (c :: done) cs else none
  | [] => none

/-- A literal string, behind its opening quote. -/
def literal? (done : List Char) : List Char → Option (String × List Char)
  | '\'' :: cs => some (String.ofList done.reverse, cs)
  | c :: cs => if isPlain c then literal? (c :: done) cs else none
  | [] => none

/-- The end of a string on several lines, behind three quotes: up to two more belong to the text. -/
def close (quote : Char) (done cs : List Char) : String × List Char :=
  let extra := (cs.take 2).takeWhile (· == quote)
  (String.ofList (extra ++ done).reverse, cs.drop extra.length)

/-- A line ends here, but for blanks. -/
def endsLine (cs : List Char) : Bool :=
  match cs.dropWhile isBlankChar with
  | '\n' :: _ | '\r' :: '\n' :: _ => true
  | _ => false

/-- A string with escapes on several lines. A backslash at the end of a line takes the blanks and line
ends behind it away; `trimming` says that this is under way. -/
def basicLines? (trimming : Bool) (done : List Char) : List Char → Option (String × List Char)
  | '"' :: '"' :: '"' :: cs => some (close '"' done cs)
  | '\r' :: '\n' :: cs => basicLines? trimming (if trimming then done else '\n' :: done) cs
  | '\n' :: cs => basicLines? trimming (if trimming then done else '\n' :: done) cs
  | '\\' :: 'u' :: a :: b :: c :: d :: cs => do
    basicLines? false ((← ofHex? [a, b, c, d]) :: done) cs
  | '\\' :: 'U' :: a :: b :: c :: d :: e :: f :: g :: h :: cs => do
    basicLines? false ((← ofHex? [a, b, c, d, e, f, g, h]) :: done) cs
  | '\\' :: c :: cs =>
    if endsLine (c :: cs) then basicLines? true done (c :: cs)
    else do basicLines? false ((← escape? c) :: done) cs
  | c :: cs =>
    if trimming && isBlankChar c then basicLines? true done cs
    else if isPlain c && c != '\\' then basicLines? false (c :: done) cs
    else none
  | [] => none

/-- A literal string on several lines. -/
def literalLines? (done : List Char) : List Char → Option (String × List Char)
  | '\'' :: '\'' :: '\'' :: cs => some (close '\'' done cs)
  | '\r' :: '\n' :: cs => literalLines? ('\n' :: done) cs
  | '\n' :: cs => literalLines? ('\n' :: done) cs
  | c :: cs => if isPlain c then literalLines? (c :: done) cs else none
  | [] => none

/-- A line end right behind the opening quotes does not count. -/
def skipFirstBreak : List Char → List Char
  | '\r' :: '\n' :: cs => cs
  | '\n' :: cs => cs
  | cs => cs

/-- Reads a string of any kind. -/
def read? : List Char → Option (String × List Char)
  | '"' :: '"' :: '"' :: cs => basicLines? false [] (skipFirstBreak cs)
  | '"' :: cs => basic? [] cs
  | '\'' :: '\'' :: '\'' :: cs => literalLines? [] (skipFirstBreak cs)
  | '\'' :: cs => literal? [] cs
  | _ => none

end SourceAudit.Toml.Quoted
