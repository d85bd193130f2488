import SourceAudit.Pattern
import SourceAudit.Text
import SourceAudit.Unicode.Name

/-! Reading the text of a regular expression. There is no look-around beyond single places and no
back-reference; a text that is not an expression has no reading. -/
namespace SourceAudit.Regex

/-- The switches in force. -/
structure Flags where
  ignoreCase : Bool := false
  multiLine : Bool := false
  dotAll : Bool := false
  swapGreed : Bool := false
  unicode : Bool := true
  crlf : Bool := false
  /-- Blanks and comments in the text mean nothing. -/
  spaced : Bool := false

/-- Levels of nesting that a text may have. -/
def nestLimit : Nat := 250

/-- Expressions that unroll to more steps are refused. -/
def sizeLimit : Nat := 100000

/-- A part of a text that was read: its meaning, and how deeply it is nested. A part that only sets
switches cannot be repeated. -/
structure Part where
  regex : Regex
  height : Nat := 0
  setsFlags : Bool := false

def Part.ofConcat (reversed : List Part) : Part :=
  match reversed with
  | [] => ⟨.empty, 0, false⟩
  | [p] => p
  | ps => ⟨.sequence (ps.reverse.map Part.regex), 1 + (ps.map Part.height).foldl max 0, false⟩

def Part.ofAlternatives (reversed : List Part) : Part :=
  match reversed with
  | [p] => p
  | ps => ⟨.alternatives (ps.reverse.map Part.regex), 1 + (ps.map Part.height).foldl max 0, false⟩

/-- Drops blanks and comments; a comment runs from a number sign to the end of its line. -/
def dropSpace (inComment : Bool) : List Char → List Char
  | [] => []
  | c :: cs =>
    if inComment then dropSpace (c != '\n') cs
    else if isBlank c then dropSpace false cs
    else if c == '#' then dropSpace true cs
    else c :: cs

def skip (f : Flags) (cs : List Char) : List Char := if f.spaced then dropSpace false cs else cs

/-! ### Sets and characters under the switches -/

def asciiWord : CharSet := ⟨#[(0x30, 0x39), (0x41, 0x5A), (0x5F, 0x5F), (0x61, 0x7A)]⟩
def asciiDigit : CharSet := ⟨#[(0x30, 0x39)]⟩
def asciiSpace : CharSet := ⟨#[(0x9, 0xD), (0x20, 0x20)]⟩

/-- The complement among all characters, or among all bytes. -/
def Flags.complement (f : Flags) (s : CharSet) : CharSet :=
  if f.unicode then s.complement else s.complement.inter ⟨#[(0, 255)]⟩

def Flags.fold (f : Flags) (s : CharSet) : CharSet :=
  if !f.ignoreCase then s else if f.unicode then s.foldCase else s.foldAscii

/-- Without Unicode no set may reach beyond the first 128 characters. -/
def Flags.allow? (f : Flags) (s : CharSet) : Option CharSet :=
  if f.unicode || s.isAscii then some s else none

def Flags.foldAndNegate? (f : Flags) (negated : Bool) (s : CharSet) : Option CharSet :=
  f.allow? (if negated then f.complement (f.fold s) else f.fold s)

def Flags.ofChar? (f : Flags) (c : Char) (isByte : Bool) : Option Regex :=
  if !f.unicode && 128 ≤ c.toNat && (isByte || f.ignoreCase) then none
  else some (.set (f.fold (.singleton c)))

def shorthand? (f : Flags) (c : Char) : Option CharSet :=
  let s :=
    match c.toLower with
    | 'd' => if f.unicode then CharSet.digits else asciiDigit
    | 's' => if f.unicode then CharSet.whiteSpace else asciiSpace
    | _ => if f.unicode then CharSet.wordChars else asciiWord
  f.allow? (if c.isUpper then f.complement s else s)

def splitAtFirst (mark : List Char) (seen : List Char) :
    List Char → Option (List Char × List Char)
  | [] => none
  | c :: cs =>
    if mark.isPrefixOf (c :: cs) then some (seen.reverse, (c :: cs).drop mark.length)
    else splitAtFirst mark (c :: seen) cs

/-- The set that the text between the braces of `\p` names. -/
def bracedSet? (cs : List Char) : Option (CharSet × Bool) :=
  match splitAtFirst ['!', '='] [] cs, splitAtFirst [':'] [] cs, splitAtFirst ['='] [] cs with
  | some (name, value), _, _ => (CharSet.valued? name value).map (·, true)
  | none, some (name, value), _ => (CharSet.valued? name value).map (·, false)
  | none, none, some (name, value) => (CharSet.valued? name value).map (·, false)
  | none, none, none => (CharSet.named? cs).map (·, false)

/-- Sets that may stand as `[:name:]` inside brackets. -/
def posixSet? (name : String) : Option CharSet :=
  match name with
  | "alnum" => some ⟨#[(0x30, 0x39), (0x41, 0x5A), (0x61, 0x7A)]⟩
  | "alpha" => some ⟨#[(0x41, 0x5A), (0x61, 0x7A)]⟩
  | "ascii" => some ⟨#[(0, 0x7F)]⟩
  | "blank" => some ⟨#[(0x9, 0x9), (0x20, 0x20)]⟩
  | "cntrl" => some ⟨#[(0, 0x1F), (0x7F, 0x7F)]⟩
  | "digit" => some asciiDigit
  | "graph" => some ⟨#[(0x21, 0x7E)]⟩
  | "lower" => some ⟨#[(0x61, 0x7A)]⟩
  | "print" => some ⟨#[(0x20, 0x7E)]⟩
  | "punct" => some ⟨#[(0x21, 0x2F), (0x3A, 0x40), (0x5B, 0x60), (0x7B, 0x7E)]⟩
  | "space" => some asciiSpace
  | "upper" => some ⟨#[(0x41, 0x5A)]⟩
  | "word" => some asciiWord
  | "xdigit" => some CharSet.hexDigits
  | _ => none

/-! ### Escapes -/

/-- What an escape stands for. -/
inductive Atom where
  /-- A character; `isByte` when it was given by exactly two hexadecimal digits. -/
  | char (c : Char) (isByte : Bool)
  | set (s : CharSet)
  | look (l : Look)

def charOfCode? (n : Nat) : Option Char := if n.isValidChar then some (Char.ofNat n) else none

/-- Reads `n` hexadecimal digits. -/
def hexDigits? (f : Flags) (value : Nat) : Nat → List Char → Option (Nat × List Char)
  | 0, cs => some (value, cs)
  | _ + 1, [] => none
  | n + 1, c :: cs => do
    let d ← CharSet.hexValue? c
    hexDigits? f (16 * value + d) n (skip f cs)

/-- The characters before the closing brace. -/
def untilBrace? (f : Flags) (seen : List Char) : Nat → List Char → Option (List Char × List Char)
  | 0, _ => none
  | fuel + 1, cs =>
    match skip f cs with
    | [] => none
    | '}' :: rest => some (seen.reverse, rest)
    | c :: rest => untilBrace? f (c :: seen) fuel rest

def hexEscape? (f : Flags) (kind : Char) (cs : List Char) : Option (Atom × List Char) :=
  match skip f cs with
  | [] => none
  | '{' :: rest => do
    let (text, rest) ← untilBrace? f [] (rest.length + 1) rest
    if text.isEmpty then none
    let n ← text.foldlM (fun n c => (CharSet.hexValue? c).map (16 * n + ·)) 0
    let c ← charOfCode? n
    pure (.char c false, skip f rest)
  | cs => do
    let (n, rest) ← hexDigits? f 0 (if kind == 'x' then 2 else if kind == 'u' then 4 else 8) cs
    let c ← charOfCode? n
    pure (.char c (kind == 'x'), rest)

def propertyEscape? (f : Flags) (negated : Bool) (cs : List Char) : Option (Atom × List Char) :=
  if !f.unicode then none
  else
    match skip f cs with
    | [] => none
    | '\\' :: _ => none
    | '{' :: rest => do
      let (text, rest) ← untilBrace? f [] (rest.length + 1) rest
      let (s, differs) ← bracedSet? text
      let s ← f.foldAndNegate? (negated != differs) s
      pure (.set s, rest)
    | c :: rest => do
      let s ← (CharSet.named? [c]).bind (f.foldAndNegate? negated)
      pure (.set s, skip f rest)

/-- The name in braces after `\b`, if it is one; anything else in braces is left for a repetition. -/
def boundaryEscape? (f : Flags) (cs : List Char) : Option (Look × List Char) :=
  let ascii := !f.unicode
  match cs with
  | '{' :: rest =>
    match skip f rest with
    | [] => none
    | c :: _ =>
      if c.isAlpha || c == '-' then do
        let (name, rest) ← untilBrace? f [] (rest.length + 1) rest
        let l ←
          match String.ofList name with
          | "start" => some (Look.wordStart ascii)
          | "end" => some (Look.wordEnd ascii)
          | "start-half" => some (Look.wordStartHalf ascii)
          | "end-half" => some (Look.wordEndHalf ascii)
          | _ => none
        pure (l, rest)
      else some (.wordBoundary ascii, cs)
  | _ => some (.wordBoundary ascii, cs)

/-- The meaning of what follows a backslash. -/
def escape? (f : Flags) : List Char → Option (Atom × List Char)
  | [] => none
  | c :: cs =>
    let ascii := !f.unicode
    if c.isDigit then none
    else if c == 'x' || c == 'u' || c == 'U' then hexEscape? f c cs
    else if c == 'p' || c == 'P' then propertyEscape? f (c == 'P') cs
    else if "dswDSW".toList.contains c then (shorthand? f c).map fun s => (.set s, cs)
    else
      match c with
      | 'a' => some (.char '\x07' false, cs)
      | 'f' => some (.char '\x0c' false, cs)
      | 't' => some (.char '\t' false, cs)
      | 'n' => some (.char '\n' false, cs)
      | 'r' => some (.char '\r' false, cs)
      | 'v' => some (.char '\x0b' false, cs)
      | 'A' => some (.look .textStart, cs)
      | 'z' => some (.look .textEnd, cs)
      | 'b' => (boundaryEscape? f cs).map fun (l, rest) => (.look l, rest)
      | 'B' => some (.look (.notWordBoundary ascii), cs)
      | '<' => some (.look (.wordStart ascii), cs)
      | '>' => some (.look (.wordEnd ascii), cs)
      | _ => if c.toNat < 128 && !c.isAlpha then some (.char c false, cs) else none

/-! ### Sets in brackets -/

/-- A set operation between two parts of a bracket. -/
inductive SetOp where
  | inter
  | diff
  | symmDiff

def SetOp.apply (f : Flags) (op : SetOp) (a b : CharSet) : CharSet :=
  let a := f.fold a
  let b := f.fold b
  match op with
  | inter => a.inter b
  | diff => a.diff b
  | symmDiff => a.symmDiff b

/-- A bracket while it is read: what stands left of the last operation, and the items since. -/
structure Bracket where
  left : Option (CharSet × SetOp) := none
  leftHeight : Nat := 0
  items : List CharSet := []
  height : Nat := 0

namespace Bracket

def push (b : Bracket) (s : CharSet) (height : Nat) : Bracket :=
  { b with items := s :: b.items, height := max b.height height }

def value (f : Flags) (b : Bracket) : CharSet :=
  let right := CharSet.unions b.items
  match b.left with
  | none => right
  | some (l, op) => op.apply f l right

/-- Several items are one level, and so is an operation. -/
def fullHeight (b : Bracket) : Nat :=
  let right := if 2 ≤ b.items.length then b.height + 1 else b.height
  if b.left.isSome then 1 + max b.leftHeight right else right

def operate (f : Flags) (b : Bracket) (op : SetOp) : Bracket :=
  { left := some (b.value f, op), leftHeight := b.fullHeight }

end Bracket

/-- One end of a range, or a set. -/
def bracketAtom? (f : Flags) : List Char → Option (Atom × List Char)
  | [] => none
  | '\\' :: cs => do
    let (atom, rest) ← escape? f cs
    match atom with
    | .look _ => none
    | _ => pure (atom, rest)
  | c :: cs => some (.char c false, cs)

def memberSet? (f : Flags) : Atom → Option CharSet
  | .char c _ => f.allow? (.singleton c)
  | .set s => some s
  | .look _ => none

/-- The character that decides whether a hyphen stands between the ends of a range. Of a comment only
the number sign is passed over. -/
def glance (f : Flags) (cs : List Char) : Option Char :=
  if f.spaced then
    match cs.dropWhile isBlank with
    | '#' :: rest => (rest.dropWhile isBlank).head?
    | rest => rest.head?
  else cs.head?

/-- One member of a bracket: a set, a character or a range of characters. -/
def bracketMember? (f : Flags) (cs : List Char) : Option (CharSet × List Char) := do
  let (first, rest) ← bracketAtom? f cs
  let rest := skip f rest
  match rest with
  | [] => none
  | '-' :: more =>
    match glance f more with
    | some ']' | some '-' => (memberSet? f first).map (·, rest)
    | _ => do
      let (second, rest) ← bracketAtom? f (skip f more)
      match first, second with
      | .char a _, .char b _ =>
        if a.toNat ≤ b.toNat then (f.allow? ⟨#[(a.toNat, b.toNat)]⟩).map (·, rest) else none
      | _, _ => none
  | _ => (memberSet? f first).map (·, rest)

/-- A named set `[:name:]` at the front, which starts with a bracket, and whether it is negated. -/
def posixItem? (cs : List Char) : Option (CharSet × Bool × List Char) :=
  match cs with
  | '[' :: ':' :: rest =>
    let (negated, rest) :=
      match rest with
      | '^' :: more => (true, more)
      | _ => (false, rest)
    let name := rest.takeWhile (· != ':')
    match rest.drop name.length with
    | ':' :: ']' :: after =>
      (posixSet? (String.ofList name)).map fun s => (s, negated, after)
    | _ => none
  | _ => none

/-- Hyphens at the start of a bracket stand for themselves, and so does a closing bracket that comes
first. -/
def openBracket (f : Flags) (cs : List Char) : Bracket × List Char :=
  let rec hyphens (b : Bracket) : Nat → List Char → Bracket × List Char
    | 0, cs => (b, cs)
    | n + 1, cs =>
      match cs with
      | '-' :: rest => hyphens (b.push (.singleton '-') 0) n (skip f rest)
      | _ => (b, cs)
  let (b, rest) := hyphens {} cs.length cs
  match b.items, rest with
  | [], ']' :: more => (b.push (.singleton ']') 0, skip f more)
  | _, _ => (b, rest)

mutual

/-- The set after an opening bracket, with its nesting. -/
def bracket? (f : Flags) : Nat → List Char → Option (CharSet × Nat × List Char)
  | 0, _ => none
  | fuel + 1, cs =>
    let cs := skip f cs
    let (negated, cs) :=
      match cs with
      | '^' :: rest => (true, skip f rest)
      | _ => (false, cs)
    let (b, cs) := openBracket f cs
    members? f negated b fuel cs

/-- The members of a bracket up to its end. -/
def members? (f : Flags) (negated : Bool) (b : Bracket) :
    Nat → List Char → Option (CharSet × Nat × List Char)
  | 0, _ => none
  | fuel + 1, cs =>
    match skip f cs with
    | [] => none
    | ']' :: rest =>
      (f.foldAndNegate? negated (b.value f)).map fun s => (s, 1 + b.fullHeight, rest)
    | '[' :: rest =>
      match posixItem? ('[' :: rest) with
      | some (s, inverse, rest) =>
        match f.foldAndNegate? inverse s with
        | none => none
        | some s => members? f negated (b.push s 0) fuel rest
      | none =>
        match bracket? f fuel rest with
        | none => none
        | some (s, height, rest) => members? f negated (b.push s height) fuel rest
    | '&' :: '&' :: rest => members? f negated (b.operate f .inter) fuel rest
    | '-' :: '-' :: rest => members? f negated (b.operate f .diff) fuel rest
    | '~' :: '~' :: rest => members? f negated (b.operate f .symmDiff) fuel rest
    | cs =>
      match bracketMember? f cs with
      | none => none
      | some (s, rest) => members? f negated (b.push s 0) fuel rest

end

/-! ### Repetitions -/

def spaces (cs : List Char) : List Char := cs.dropWhile isBlank

/-- The digits of a count. -/
def countDigits (f : Flags) (seen : List Char) : Nat → List Char → List Char × List Char
  | 0, cs => (seen.reverse, cs)
  | n + 1, cs =>
    match cs with
    | c :: rest => if c.isDigit then countDigits f (c :: seen) n (skip f rest) else (seen.reverse, cs)
    | [] => (seen.reverse, [])

/-- A count of 32 bits with blanks around it; the outer level fails when it is too large, the inner
when there is none. -/
def count? (f : Flags) (cs : List Char) : Option (Option Nat × List Char) :=
  let (digits, rest) := countDigits f [] cs.length (spaces cs)
  let rest := spaces rest
  if digits.isEmpty then some (none, rest)
  else
    let n := digits.foldl (fun n c => 10 * n + (c.toNat - '0'.toNat)) 0
    if n < Nat.pow 2 32 then some (some n, rest) else none

/-- The bounds in braces; the brace was read. -/
def bounds? (f : Flags) (cs : List Char) : Option (Nat × Option Nat × List Char) := do
  let (least, rest) ← count? f (skip f cs)
  match rest with
  | ',' :: rest =>
    match skip f rest with
    | '}' :: rest => do
      let n ← least
      pure (n, none, rest)
    | rest => do
      let n ← least
      let (most, rest) ← count? f rest
      let m ← most
      match rest with
      | '}' :: rest => if n ≤ m then pure (n, some m, rest) else none
      | _ => none
  | '}' :: rest => do
    let n ← least
    pure (n, some n, rest)
  | _ => none

/-- Repeats the last part read. -/
def repeatLast? (f : Flags) (parts : List Part) (least : Nat) (most : Option Nat) (lazy : Bool) :
    Option (List Part) :=
  match parts with
  | [] => none
  | p :: ps =>
    if p.setsFlags then none
    else some (⟨p.regex.times least most (lazy == f.swapGreed), p.height + 1, false⟩ :: ps)

/-- A question mark after a repetition makes it lazy. -/
def lazyMark (cs : List Char) : Bool × List Char :=
  match cs with
  | '?' :: rest => (true, rest)
  | _ => (false, cs)

/-! ### Groups and switches -/

def Flags.set? (f : Flags) (c : Char) (on : Bool) : Option Flags :=
  match c with
  | 'i' => some { f with ignoreCase := on }
  | 'm' => some { f with multiLine := on }
  | 's' => some { f with dotAll := on }
  | 'U' => some { f with swapGreed := on }
  | 'u' => some { f with unicode := on }
  | 'R' => some { f with crlf := on }
  | 'x' => some { f with spaced := on }
  | _ => none

/-- Reads switches up to a colon or a closing parenthesis; no switch may come twice. Gives the new
switches, whether any was read, and whether a colon ended them. -/
def switches? (f : Flags) (seen : List Char) (on : Bool) :
    List Char → Option (Flags × Bool × Bool × List Char)
  | [] => none
  | c :: cs =>
    if c == ':' || c == ')' then
      if seen.head? == some '-' then none else some (f, !seen.isEmpty, c == ':', cs)
    else if seen.contains c then none
    else if c == '-' then switches? f (c :: seen) false cs
    else
      match f.set? c on with
      | none => none
      | some f => switches? f (c :: seen) on cs

/-- The name of a group up to its closing angle. -/
def groupName? (cs : List Char) : Option (String × List Char) :=
  let name := cs.takeWhile (· != '>')
  let ok (c : Char) := c == '_' || c.isAlpha || (128 ≤ c.toNat && CharSet.alphabetic.contains c)
  let inner (c : Char) :=
    ok c || ".[]".toList.contains c || c.isDigit ||
      (128 ≤ c.toNat && (CharSet.categories ["nd", "nl", "no"]).contains c)
  match name, cs.drop name.length with
  | first :: more, _ :: rest =>
    if ok first && more.all inner then some (String.ofList name, rest) else none
  | _, _ => none

/-- An open group: what was read before it, and the switches to restore. -/
structure Group where
  alternatives : List Part
  parts : List Part
  flags : Flags

/-- The state of reading a whole expression. -/
structure Reading where
  flags : Flags
  groups : List Group := []
  /-- Finished branches of the current group, in reverse. -/
  alternatives : List Part := []
  /-- Parts of the current branch, in reverse. -/
  parts : List Part := []
  names : List String := []

namespace Reading

def push (r : Reading) (p : Part) : Reading := { r with parts := p :: r.parts }

def openGroup (r : Reading) (inner : Flags) : Reading :=
  { r with
    groups := ⟨r.alternatives, r.parts, r.flags⟩ :: r.groups
    alternatives := []
    parts := []
    flags := inner }

def branch (r : Reading) : Part := .ofAlternatives (.ofConcat r.parts :: r.alternatives)

def closeGroup? (r : Reading) : Option Reading :=
  match r.groups with
  | [] => none
  | g :: groups =>
    let inner := r.branch
    some { r with
      groups
      alternatives := g.alternatives
      parts := ⟨inner.regex, inner.height + 1, false⟩ :: g.parts
      flags := g.flags }

/-- What follows an opening parenthesis. -/
def group? (r : Reading) (cs : List Char) : Option (Reading × List Char) :=
  let named (rest : List Char) : Option (Reading × List Char) := do
    let (name, rest) ← groupName? rest
    if r.names.contains name then none
    else pure ({ r with names := name :: r.names }.openGroup r.flags, rest)
  match skip r.flags cs with
  | '?' :: '=' :: _ => none
  | '?' :: '!' :: _ => none
  | '?' :: '<' :: '=' :: _ => none
  | '?' :: '<' :: '!' :: _ => none
  | '?' :: 'P' :: '<' :: rest => named rest
  | '?' :: '<' :: rest => named rest
  | '?' :: rest => do
    let (inner, any, opens, rest) ← switches? r.flags [] true rest
    if opens then pure (r.openGroup inner, rest)
    else if any then pure ({ r with flags := inner }.push ⟨.empty, 0, true⟩, rest)
    else none
  | cs => some (r.openGroup r.flags, cs)

def repeat? (r : Reading) (least : Nat) (most : Option Nat) (isLazy : Bool) : Option Reading :=
  (repeatLast? r.flags r.parts least most isLazy).map fun parts => { r with parts }

def atomPart? (f : Flags) : Atom → Option Part
  | .char c isByte => (f.ofChar? c isByte).map (⟨·, 0, false⟩)
  | .set s => some ⟨.set s, 0, false⟩
  | .look l => some ⟨.look l, 0, false⟩

def dot? (f : Flags) : Option Regex :=
  if !f.unicode then none
  else if f.dotAll then some (.set .all)
  else if f.crlf then some (.set (CharSet.ofRanges [(10, 10), (13, 13)]).complement)
  else some (.set (CharSet.singleton '\n').complement)

def lineStart (f : Flags) : Look :=
  if f.multiLine then if f.crlf then .crlfLineStart else .lineStart else .textStart

def lineEnd (f : Flags) : Look :=
  if f.multiLine then if f.crlf then .crlfLineEnd else .lineEnd else .textEnd

/-- Reads on from `c`, with `cs` behind it. -/
def step? (r : Reading) (c : Char) (cs : List Char) : Option (Reading × List Char) :=
  let f := r.flags
  match c with
  | '(' => r.group? cs
  | ')' => r.closeGroup?.map (·, cs)
  | '|' => some ({ r with alternatives := .ofConcat r.parts :: r.alternatives, parts := [] }, cs)
  | '[' => do
    let (s, height, rest) ← bracket? f (2 * cs.length + 2) cs
    pure (r.push ⟨.set s, height, false⟩, rest)
  | '?' => let (isLazy, rest) := lazyMark cs; (r.repeat? 0 (some 1) isLazy).map (·, rest)
  | '*' => let (isLazy, rest) := lazyMark cs; (r.repeat? 0 none isLazy).map (·, rest)
  | '+' => let (isLazy, rest) := lazyMark cs; (r.repeat? 1 none isLazy).map (·, rest)
  | '{' => do
    let (least, most, rest) ← bounds? f cs
    let (isLazy, rest) := lazyMark (skip f rest)
    (r.repeat? least most isLazy).map (·, rest)
  | '\\' => do
    let (atom, rest) ← escape? f cs
    let part ← atomPart? f atom
    pure (r.push part, rest)
  | '.' => (dot? f).map fun regex => (r.push ⟨regex, 0, false⟩, cs)
  | '^' => some (r.push ⟨.look (lineStart f), 0, false⟩, cs)
  | '$' => some (r.push ⟨.look (lineEnd f), 0, false⟩, cs)
  | c => (f.ofChar? c false).map fun regex => (r.push ⟨regex, 0, false⟩, cs)

def finish? (r : Reading) : Option Regex :=
  let whole := r.branch
  if r.groups.isEmpty && whole.height ≤ nestLimit && whole.regex.size ≤ sizeLimit then
    some whole.regex
  else none

/-- Reads the rest of a text; each step takes at least one character. -/
def run? (r : Reading) : Nat → List Char → Option Regex
  | 0, _ => none
  | fuel + 1, cs =>
    match skip r.flags cs with
    | [] => r.finish?
    | c :: rest =>
      match r.step? c rest with
      | none => none
      | some (r, rest) => run? r fuel rest

end Reading

/-- The expression that a text stands for. -/
def parse? (text : String) (ignoreCase : Bool) : Option Regex :=
  let cs := text.toList
  Reading.run? { flags := { ignoreCase } } (cs.length + 1) cs

end SourceAudit.Regex
