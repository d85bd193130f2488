import SourceAudit.Rule
import SourceAudit.Rule.Credential

/-! Secrets written into the source. -/
namespace SourceAudit.HardcodedSecret

/-- Formats of vendors' tokens, with the name of what they are. -/
def tokenFormats : List (String × Pattern) :=
  [("GitHub token", .ofText "^gh[pousr]_[A-Za-z0-9_]\x7b36,\x7d$"),
    ("GitHub token", .ofText "^github_pat_[A-Za-z0-9_]\x7b22,\x7d$"),
    ("AWS access key", .ofText "^(AKIA|ASIA)[0-9A-Z]\x7b16\x7d$"),
    ("API secret key", .ofText "^(sk|rk)[-_](live|prod|proj)[-_][A-Za-z0-9_-]\x7b12,\x7d$"),
    ("API secret key", .ofText "^sk-[A-Za-z0-9]\x7b32,\x7d$"),
    ("Slack token", .ofText "^xox[abprs]-[A-Za-z0-9-]\x7b10,\x7d$"),
    ("Google API key", .ofText "^AIza[0-9A-Za-z_-]\x7b35\x7d$")]

def privateKeyMark : Pattern :=
  .ofText "-----BEGIN (?:[A-Z0-9]+ )*PRIVATE KEY(?: BLOCK)?-----"

def tokenShape : Pattern := .ofText "^[A-Za-z0-9+/=_.\\-]+$"

/-- The product of `n` to the power of `n` over the numbers of a list. -/
def selfPowers (counts : List Nat) : Nat := counts.foldl (fun p n => p * Nat.pow n n) 1

/-- The Shannon entropy of the characters is at least seven halves of a bit each. With `n` characters
of which `c` are alike for each kind, that is `n ^ n / ∏ c ^ c ≥ 2 ^ (7 n / 2)`; both sides are
squared, so that no rounding takes part. -/
def isHighEntropy (cs : List Char) : Bool :=
  let counts := cs.eraseDups.map cs.count
  decide (Nat.pow 2 (7 * cs.length) * Nat.pow (selfPowers counts) 2 ≤
    Nat.pow (selfPowers [cs.length]) 2)

def looksRandom (value : String) : Bool :=
  let cs := value.toList
  decide (20 < cs.length) && tokenShape.isMatch value && cs.any Char.isAlpha &&
    cs.any Char.isDigit && isHighEntropy cs && !isMockValue value

/-- The plain literal that an assignment assigns. -/
def assignedLiteral? (f : Fragment) : Option String := f.value?.bind Expr.soleLiteral?

/-- The kind of token that an assigned literal is. -/
def tokenKind? (a : Fragment) : Option String := do
  let value ← assignedLiteral? a
  if isMockValue value then none
  else (tokenFormats.find? fun (_, p) => p.isMatch value).map Prod.fst

def tokenPrefix (w : Window) : Option Hit :=
  (w.head.filter Fragment.isAssignment).findSome? fun a =>
    (tokenKind? a).map fun kind =>
      (Hit.of a).withMessage s!"Hardcoded {kind} assigned to `{a.text}`"

def privateKey (w : Window) : Option Hit :=
  (w.head.find? fun f =>
    decide (f.kind = .stringLiteral) && privateKeyMark.isMatch f.text).map Hit.of

def highEntropy (w : Window) : Option Hit :=
  ((w.head.filter Fragment.isAssignment).find? fun a =>
    (assignedLiteral? a).any looksRandom).map Hit.of

/-- A value long enough to be a credential, in one word. -/
def looksAssigned (value : String) : Bool :=
  decide (8 ≤ value.length) && !value.toList.any isBlank && !isMockValue value

def namedCredential (w : Window) : Option Hit :=
  ((w.head.filter fun f => f.isAssignment && isCredentialName f.text).find? fun a =>
    (assignedLiteral? a).any looksAssigned).map fun a =>
    (Hit.of a).withMessage s!"Hardcoded value assigned to `{a.text}`"

def remediation : String :=
  "Load secrets from the environment or a secrets manager, and rotate any value that has been " ++
    "committed."

def rules : List Rule :=
  [{ id := "secret_token_prefix"
     category := .hardcodedSecret
     severity := .critical
     description := "Hardcoded credential with a known vendor token format"
     remediation
     kinds := { assignment := true }
     matcher := tokenPrefix },
   { id := "secret_private_key"
     category := .hardcodedSecret
     severity := .critical
     description := "Private key embedded in source"
     remediation
     kinds := { stringLiteral := true }
     matcher := privateKey },
   { id := "secret_high_entropy"
     category := .hardcodedSecret
     severity := .high
     description := "High-entropy string literal assigned to a variable"
     remediation
     kinds := { assignment := true }
     matcher := highEntropy },
   { id := "secret_named_credential"
     category := .hardcodedSecret
     severity := .medium
     description := "Credential-named variable assigned a literal value"
     remediation
     kinds := { assignment := true }
     matcher := namedCredential }]

end SourceAudit.HardcodedSecret
