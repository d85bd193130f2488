import SourceAudit.Rule
import SourceAudit.Rule.Credential

/-! Digests that no longer protect anything. -/
namespace SourceAudit.WeakCrypto

def weakAlgorithms : List String := ["md5", "md4", "md2", "sha1", "sha-1"]

/-- A segment that starts with a weak algorithm's name, no digit right behind it. -/
def namesWeakAlgorithm (segment : List Char) : Bool :=
  let lower := segment.map Char.toLower
  weakAlgorithms.any fun name =>
    name.toList.isPrefixOf lower && !((lower.drop name.length).head?.any Char.isDigit)

/-- The weak algorithm that a call uses, by its path or by a literal argument. -/
def weakAlgorithm? (f : Fragment) : Option String :=
  if !f.isCall then none
  else
    match (cutAtEach '.' f.text.toList).find? namesWeakAlgorithm with
    | some segment => some (String.ofList segment).toUpper
    | none =>
      ((f.args.filterMap Expr.soleLiteral?).find? fun text =>
        weakAlgorithms.contains text.toLower).map String.toUpper

def mentionsCredential (f : Fragment) : Bool :=
  match f.kind with
  | .stringLiteral => false
  | .identifier | .assignment => isCredentialName f.text
  | .call => (f.args.flatMap Expr.idents).any isCredentialName

/-- The first call of the head that uses a weak algorithm. -/
def weakCall? (w : Window) : Option (Fragment × String) :=
  w.head.findSome? fun f => (weakAlgorithm? f).map (f, ·)

def weakHashCredential (w : Window) : Option Hit :=
  match weakCall? w with
  | none => none
  | some (f, name) =>
    if w.context.any mentionsCredential then
      some ((Hit.of f).withMessage s!"{name} used to hash a credential")
    else none

def weakHash (w : Window) : Option Hit :=
  (weakCall? w).map fun (f, name) =>
    (Hit.of f).withMessage s!"Use of broken hash algorithm {name}"

def remediation : String :=
  "Use SHA-256 or stronger for integrity checks, and a dedicated password hashing function (Argon2, " ++
    "bcrypt, scrypt) for credentials."

def rules : List Rule :=
  [{ id := "crypto_weak_hash_credential"
     category := .weakCrypto
     severity := .medium
     description := "Broken hash algorithm applied to a credential"
     remediation
     kinds := { call := true }
     matcher := weakHashCredential },
   { id := "crypto_weak_hash"
     category := .weakCrypto
     severity := .low
     description := "Use of a broken hash algorithm"
     remediation
     kinds := { call := true }
     matcher := weakHash }]

end SourceAudit.WeakCrypto
