/-! Plain text: white space and words, one text inside another, captures inside a literal, and texts in
order. -/
namespace SourceAudit

/-- The twenty-five characters that Unicode calls white space. -/
def isBlank (c : Char) : Bool :=
  let n := c.toNat
  decide (9 ≤ n ∧ n ≤ 13) || n == 0x20 || n == 0x85 || n == 0xA0 || n == 0x1680 ||
    decide (0x2000 ≤ n ∧ n ≤ 0x200A) || n == 0x2028 || n == 0x2029 || n == 0x202F || n == 0x205F ||
    n == 0x3000

def trimStart (cs : List Char) : List Char := cs.dropWhile isBlank

def trimEnd (cs : List Char) : List Char := (cs.reverse.dropWhile isBlank).reverse

/-- Drops the white space at both ends. -/
def trim (s : String) : String := String.ofList (trimEnd (trimStart s.toList))

/-- Puts a character in front of the words of a text, where `cs` is the text behind it. -/
def wordsCons (c : Char) (cs : List Char) (words : List (List Char)) : List (List Char) :=
  if isBlank c then words
  else
    match cs, words with
    | d :: _, w :: ws => if isBlank d then [c] :: w :: ws else (c :: w) :: ws
    | _, ws => [c] :: ws

/-- The maximal runs of characters that are not white space. -/
def blankWords : List Char → List (List Char)
  | [] => []
  | c :: cs => wordsCons c cs (blankWords cs)

/-! ### One text inside another -/

/-- `part` stands somewhere in the text. -/
def occursIn (part : List Char) : List Char → Bool
  | [] => part.isEmpty
  | c :: cs => part.isPrefixOf (c :: cs) || occursIn part cs

def containsText (text part : String) : Bool := occursIn part.toList text.toList

/-- Cuts a text at every `mark`. -/
def cutAtEach (mark : Char) : List Char → List (List Char)
  | [] => [[]]
  | c :: cs =>
    if c = mark then [] :: cutAtEach mark cs
    else
      match cutAtEach mark cs with
      | [] => [[c]]
      | p :: ps => (c :: p) :: ps

/-! ### Captures -/

def isNameStart (c : Char) : Bool := c.isAlpha || c == '_'

/-- A lone opening brace before a letter or an underscore, as in a format text. Doubled braces stand
for themselves. -/
def hasBraceCapture : List Char → Bool
  | [] => false
  | '{' :: '{' :: cs => hasBraceCapture cs
  | c :: cs => (c == '{' && (cs.head?.any isNameStart)) || hasBraceCapture cs

/-- A dollar sign right before an opening brace, as in a template. -/
def hasEmbedding : List Char → Bool
  | [] => false
  | c :: cs => (c == '$' && cs.head? == some '{') || hasEmbedding cs

/-! ### Texts in order and without repetition -/

/-- Puts a text into an ordered list unless it is there. -/
def insertDistinct (s : String) : List String → List String
  | [] => [s]
  | x :: xs => if s < x then s :: x :: xs else if s = x then x :: xs else x :: insertDistinct s xs

def distinct (texts : List String) : List String := texts.foldr insertDistinct []

/-- Halves the stretch of `size` places from `base` on until one is left. If `s` is in the stretch, it is
there. -/
def bisect (xs : Array String) (s : String) (base size : Nat) (h : base + size ≤ xs.size) : Nat :=
  if hsize : 1 < size then
    let half := size / 2
    have hmid : base + half < xs.size := by omega
    if s < xs[base + half] then bisect xs s base (size - half) (by omega)
    else bisect xs s (base + half) (size - half) (by omega)
  else base
termination_by size

/-- The place of `s` in an ordered array. -/
def placeOf? (xs : Array String) (s : String) : Option Nat :=
  let place := bisect xs s 0 xs.size (Nat.le_of_eq (Nat.zero_add _))
  if xs[place]? = some s then some place else none

theorem mem_insertDistinct {s x : String} {xs : List String} :
    x ∈ insertDistinct s xs ↔ x = s ∨ x ∈ xs := by
  induction xs with
  | nil => simp [insertDistinct]
  | cons y ys ih =>
    simp only [insertDistinct]
    split
    · simp
    · split
      · next h => simp [h]
      · simp only [List.mem_cons, ih]
        exact ⟨fun h => h.elim (.inr ∘ .inl) (·.imp_right .inr),
          fun h => h.elim (.inr ∘ .inl) (·.imp_right .inr)⟩

/-- Nothing is lost and nothing is added. -/
@[simp] theorem mem_distinct {x : String} {texts : List String} :
    x ∈ distinct texts ↔ x ∈ texts := by
  induction texts with
  | nil => rfl
  | cons s ss ih =>
    rw [distinct, List.foldr_cons, mem_insertDistinct, List.mem_cons, ← ih]
    rfl

end SourceAudit
