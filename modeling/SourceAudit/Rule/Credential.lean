import SourceAudit.Expr
import SourceAudit.Pattern.Machine
import SourceAudit.Pattern.Reader
import SourceAudit.Text

/-! Names that hold credentials, and values that are none. -/
namespace SourceAudit

/-- A pattern of this library, written out. -/
def Pattern.ofText (text : String) : Pattern := .ofRegex ((Regex.parse? text false).getD .never)

/-- Parts of names that hold credentials. -/
def credentialParts : List String :=
  ["password", "passwd", "passphrase", "secret", "token", "apikey", "accesskey", "privatekey",
    "credential", "authkey"]

/-- The last segment of a name with its letters and digits only, in lower case. -/
def plainName (name : String) : List Char :=
  ((lastSegment name).toList.filter Char.isAlphanum).map Char.toLower

def isCredentialName (name : String) : Bool :=
  let plain := plainName name
  plain == "pwd".toList || plain == "pass".toList ||
    credentialParts.any fun part => occursIn part.toList plain

def mockValue : Pattern :=
  .ofText
    ("(?i)^(test|mock|example|dummy|sample|fake|placeholder|xxx+|12345|changeme|password|" ++
      "secret|none|null|todo)$")

/-- A value that is plainly no real secret. -/
def isMockValue (value : String) : Bool := mockValue.isMatch (trim value)

end SourceAudit
