import SourceAudit.Finding

/-! The risk score: a hundred points less a penalty for each finding. Penalties are binary fractions of
53 significant bits, so that of a weight like 1.2 only the nearest such fraction counts. -/
namespace SourceAudit

/-- The whole number nearest to a quotient; a tie goes to the even neighbour. -/
def roundDiv (n d : Nat) : Nat :=
  let q := n / d
  let r := n % d
  if d < 2 * r ∨ (d = 2 * r ∧ q % 2 = 1) then q + 1 else q

/-- The nearest number of 53 significant bits. -/
def nearestBinary (n : Nat) : Nat :=
  let unit := Nat.pow 2 (n.log2 + 1 - 53)
  roundDiv n unit * unit

namespace Risk

/-- The unit in which fractions are counted: 2 to the power of -52. -/
def one : Nat := Nat.pow 2 52

/-- The whole number nearest to a fraction; a half is rounded up. -/
def roundUp (n : Nat) : Nat := (n + one / 2) / one

/-- The weight of a severity, in tenths. -/
def severityWeight : Severity → Nat
  | .critical => 250
  | .high => 150
  | .medium => 50
  | .low => 20

/-- The weight of a category, in tenths. -/
def categoryWeight : Category → Nat
  | .commandInjection => 15
  | .hardcodedSecret => 12
  | .sqlInjection | .pathTraversal | .ssrf | .weakCrypto => 10

/-- A number of tenths as the nearest fraction. -/
def ofTenths (n : Nat) : Nat := nearestBinary ((n * one + 5) / 10)

def penalty (f : Finding) : Nat :=
  nearestBinary (ofTenths (severityWeight f.severity) * ofTenths (categoryWeight f.category) / one)

def addPenalty (sum : Nat) (f : Finding) : Nat := nearestBinary (sum + penalty f)

/-- The penalties of all findings, added one after the other. -/
def total (fs : List Finding) : Nat := fs.foldl addPenalty 0

def score (fs : List Finding) : Nat := roundUp (nearestBinary (100 * one - total fs))

inductive Grade where
  | a | b | c | d | f
deriving DecidableEq, Repr

namespace Grade

def name : Grade → String
  | a => "A"
  | b => "B"
  | c => "C"
  | d => "D"
  | f => "F"

def ofScore (n : Nat) : Grade :=
  if 90 ≤ n then a else if 75 ≤ n then b else if 50 ≤ n then c else if 25 ≤ n then d else f

/-- The level of risk that a grade stands for. -/
def level : Grade → String
  | a => "safe"
  | b => "low"
  | c => "medium"
  | d => "high"
  | f => "critical"

def recommendation : Grade → String
  | a => "No significant issues found. Keep scanning as the code evolves."
  | b => "Minor issues detected. Review the findings and apply the fixes before release."
  | c =>
    "Significant vulnerabilities found. Resolve all high and critical findings before deploying."
  | d => "Severe security risks detected. The code needs an immediate security review."
  | f => "Critical: the code is extremely vulnerable. Do not deploy it."

end Grade

/-- The share of one category in the penalty. -/
structure Share where
  category : Category
  count : Nat
  contribution : Nat
deriving DecidableEq, Repr

def Share.weight (s : Share) : Nat := categoryWeight s.category

structure Assessment where
  score : Nat
  grade : Grade
  breakdown : List Share
deriving DecidableEq, Repr

def shareOf (fs : List Finding) (c : Category) : Option Share :=
  let own := fs.filter (·.category = c)
  if own.isEmpty then none
  else some ⟨c, own.length, min (roundUp (total own)) (Nat.pow 2 32 - 1)⟩

/-- The shares, the largest first and equal ones in the order of categories. -/
def breakdown (fs : List Finding) : List Share :=
  (Category.all.filterMap (shareOf fs)).mergeSort fun a b => b.contribution ≤ a.contribution

def assess (fs : List Finding) : Assessment :=
  ⟨score fs, Grade.ofScore (score fs), breakdown fs⟩

end Risk
end SourceAudit
