import SourceAudit.Pattern.Machine

/-! Globs, the patterns of ignore files. They are matched byte by byte against a whole path, and a star
does not cross a slash. -/
namespace SourceAudit.Glob

inductive Token where
  | char (c : Char)
  /-- Any byte but a slash. -/
  | one
  /-- Any run of bytes without a slash. -/
  | star
  /-- Two stars before everything else: any directories, or none. -/
  | anyParents
  /-- Two stars behind everything else: all that lies below. -/
  | anyBelow
  /-- Two stars between slashes: any directories between, or none. -/
  | anyBetween
  /-- One byte out of ranges, or one outside of them. -/
  | range (negated : Bool) (ranges : List (Char × Char))
  | choice (branches : List (List Token))
deriving Inhabited

/-! ### Reading -/

/-- The characters in brackets, behind the opening one and a mark of negation. `first` says that none
was read yet, and `waiting` that a hyphen waits for the end of its range; `done` is in reverse. -/
def ranges? (first waiting : Bool) (done : List (Char × Char)) :
    List Char → Option (List (Char × Char) × List Char)
  | [] => none
  | c :: cs =>
    if c = ']' ∧ ¬first then
      some ((if waiting then ('-', '-') :: done else done).reverse, cs)
    else if c = '-' ∧ ¬first ∧ ¬waiting then ranges? false true done cs
    else
      match waiting, done with
      | true, (low, _) :: before => ranges? false false ((low, c) :: before) cs
      | _, _ => ranges? false false ((c, c) :: done) cs

/-- A group of branches that is open: the tokens before it, and its branches so far; all in reverse. -/
structure Group where
  before : List Token
  branches : List (List Token)

structure State where
  /-- The tokens of the branch that is being read, in reverse. -/
  tokens : List Token := []
  groups : List Group := []
  /-- The character before this place. -/
  last : Option Char := none
  /-- Brackets stand for themselves, since one was found that is never closed. -/
  plainBrackets : Bool := false

namespace State

def push (s : State) (last : Char) (ts : List Token) : State :=
  { s with tokens := ts ++ s.tokens, last := some last }

/-- Two stars that are no more than stars. -/
def pushStars (s : State) : State := s.push '*' [.star, .star]

/-- Two stars in a row, with what follows them; returns the rest behind a slash that they take up. -/
def twoStars (s : State) (rest : List Char) : State × List Char :=
  let inGroup := !s.groups.isEmpty
  match s.tokens with
  | [] =>
    match rest with
    | [] => (s.push '*' [.anyParents], [])
    | '/' :: more => (s.push '/' [.anyParents], more)
    | _ => (s.pushStars, rest)
  | t :: before =>
    if s.last != some '/' && !(inGroup && (s.last == some ',' || s.last == some '{')) then
      (s.pushStars, rest)
    else
      let merge := fun (new : Token) =>
        match t with
        | .anyParents => Token.anyParents
        | .anyBelow => .anyBelow
        | _ => new
      let s' := { s with tokens := before }
      match rest with
      | [] => (s'.push '*' [merge .anyBelow], [])
      | '/' :: more => (s'.push '/' [merge .anyBetween], more)
      | c :: _ =>
        if inGroup && (c == ',' || c == '}') then (s'.push '*' [merge .anyBelow], rest)
        else (s.pushStars, rest)

end State

/-- Reads a glob. With `lenient`, a bracket that is never closed stands for itself. -/
def tokens? (lenient : Bool) : Nat → State → List Char → Option (List Token)
  | 0, _, _ => none
  | _ + 1, s, [] => if s.groups.isEmpty then some s.tokens.reverse else none
  | fuel + 1, s, c :: cs =>
    match c with
    | '?' => tokens? lenient fuel (s.push c [.one]) cs
    | '*' =>
      match cs with
      | '*' :: rest =>
        let (s, rest) := s.twoStars rest
        tokens? lenient fuel s rest
      | _ => tokens? lenient fuel (s.push c [.star]) cs
    | '[' =>
      if s.plainBrackets then tokens? lenient fuel (s.push c [.char c]) cs
      else
        let (negated, body) :=
          match cs with
          | '!' :: body => (true, body)
          | '^' :: body => (true, body)
          | _ => (false, cs)
        match ranges? true false [] body with
        | some (rs, rest) =>
          if rs.all fun r => r.1 ≤ r.2 then
            tokens? lenient fuel (s.push ']' [.range negated rs]) rest
          else none
        | none =>
          if lenient then
            tokens? lenient fuel { s.push c [.char c] with plainBrackets := true } cs
          else none
    | '{' =>
      tokens? lenient fuel
        { s with tokens := [], groups := ⟨s.tokens, []⟩ :: s.groups, last := some c } cs
    | '}' =>
      match s.groups with
      | [] => none
      | g :: groups =>
        let branches := (s.tokens.reverse :: g.branches).reverse
        tokens? lenient fuel
          { s with tokens := .choice branches :: g.before, groups, last := some c } cs
    | ',' =>
      match s.groups with
      | [] => tokens? lenient fuel (s.push c [.char c]) cs
      | g :: groups =>
        let g := { g with branches := s.tokens.reverse :: g.branches }
        tokens? lenient fuel { s with tokens := [], groups := g :: groups, last := some c } cs
    | '\\' =>
      match cs with
      | [] => none
      | d :: rest => tokens? lenient fuel (s.push d [.char d]) rest
    | _ => tokens? lenient fuel (s.push c [.char c]) cs

/-! ### Meaning -/

/-- Bytes are matched as the characters with their numbers. -/
def bytesOf (s : String) : List Char := s.toUTF8.toList.map fun b => Char.ofNat b.toNat

def byteSet (rs : List (Char × Char)) : CharSet :=
  .ofRanges (rs.flatMap fun (low, high) =>
    let lows := bytesOf (String.singleton low)
    let highs := bytesOf (String.singleton high)
    match lows, highs with
    | [a], [b] => [(a.toNat, b.toNat)]
    | _, _ => (lows ++ highs).map fun c => (c.toNat, c.toNat))

def anyByte : CharSet := ⟨#[(0, 255)]⟩
def slash : CharSet := .singleton '/'
def noSlash : CharSet := anyByte.diff slash

def many (s : CharSet) : Regex := .rep (.set s) 0 none true

mutual

def Token.regex : Token → Regex
  | .char c => .sequence ((bytesOf (String.singleton c)).map fun b => .set (.singleton b))
  | .one => .set noSlash
  | .star => many noSlash
  | .anyParents => .alt (.rep (.set slash) 0 (some 1) true) (.seq (many anyByte) (.set slash))
  | .anyBelow => .seq (.set slash) (many anyByte)
  | .anyBetween =>
    .alt (.set slash) (.seq (.set slash) (.seq (many anyByte) (.set slash)))
  | .range negated rs => .set (if negated then anyByte.diff (byteSet rs) else byteSet rs)
  | .choice branches => .alternatives (branchRegexes branches)

def tokensRegex : List Token → Regex
  | [] => .empty
  | t :: ts => .seq t.regex (tokensRegex ts)

/-- Branches of nothing do not count. -/
def branchRegexes : List (List Token) → List Regex
  | [] => []
  | [] :: bs => branchRegexes bs
  | (t :: ts) :: bs => .seq t.regex (tokensRegex ts) :: branchRegexes bs

end

/-- Two stars alone match everything. -/
def regexOf : List Token → Regex
  | [.anyParents] => many anyByte
  | ts => tokensRegex ts

/-- A glob made ready for matching whole paths. -/
def compile? (lenient : Bool) (text : String) : Option Pattern := do
  let ts ← tokens? lenient (text.length + 1) {} text.toList
  some (.ofRegex (.seq (.look .textStart) (.seq (regexOf ts) (.look .textEnd))))

def matchesPath (p : Pattern) (path : String) : Bool := p.isMatch (String.ofList (bytesOf path))

end SourceAudit.Glob
