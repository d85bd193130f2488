import SourceAudit.Rule.Callee
import SourceAudit.Text

/-! Files opened at paths put together from untrusted input. -/
namespace SourceAudit.PathTraversal

/-- Calls that open, write or remove a file. -/
def fileSinks : List String :=
  ["os.Open", "os.OpenFile", "os.ReadFile", "os.WriteFile", "os.Create", "os.Remove", "os.RemoveAll",
    "ioutil.ReadFile", "ioutil.WriteFile", "http.ServeFile", "open", "io.open", "os.remove",
    "os.unlink", "shutil.rmtree", "send_file", "File.open", "File.create", "fs.read",
    "fs.read_to_string", "fs.write", "fs.remove_file", "fs.remove_dir_all", "OpenOptions.open",
    "fs.readFile", "fs.readFileSync", "fs.writeFile", "fs.writeFileSync", "fs.appendFile",
    "fs.appendFileSync", "fs.createReadStream", "fs.createWriteStream", "fs.unlink", "fs.unlinkSync",
    "readFile", "readFileSync", ".sendFile", "FileInputStream", "FileReader", "FileOutputStream",
    "Files.readAllBytes", "Files.readString", "Files.newInputStream", "fopen", "file_get_contents",
    "file_put_contents", "readfile", "unlink", "File.read", "IO.read"]

/-- Calls that normalize or confine a path. -/
def sanitizers : List String :=
  ["filepath.Clean", "filepath.Base", "filepath.Rel", "filepath.IsLocal", "path.Clean", "path.Base",
    "os.path.basename", "os.path.normpath", "os.path.realpath", "os.path.abspath", "path.basename",
    "path.normalize", "path.resolve", "secure_filename", "basename", "realpath", ".canonicalize",
    ".file_name", ".starts_with", ".startsWith", ".HasPrefix", ".is_relative_to",
    ".getCanonicalPath", ".normalize"]

/-- Calls that look for a text inside another. -/
def containmentTests : List String :=
  ["Contains", "ContainsAny", "HasPrefix", "HasSuffix", "Index", "contains", "includes", "include",
    "indexOf", "IndexOf", "index", "find", "startswith", "endswith", "starts_with", "ends_with",
    "startsWith", "endsWith", "strpos", "strstr", "str_contains", "match", "search", "test"]

/-- Operators behind which a literal is compared. -/
def comparedBefore : List String := ["==", "!="]

/-- Operators before which a literal is compared. -/
def comparedAfter : List String := ["==", "!=", "in ", "in\t", "not in "]

def isParentTest (f : Fragment) : Bool :=
  containmentTests.contains f.name && f.args.any fun a => containsText a.template ".."

/-- A literal with two dots in it that stands next to a comparing operator. -/
def isParentComparison (w : Window) (f : Fragment) : Bool :=
  containsText f.text ".." &&
    (let before := trimEnd (w.source.slice 0 f.span.start).toList
     let after := trimStart (w.source.slice f.span.stop w.source.size).toList
     (comparedBefore.any fun op => op.toList.isSuffixOf before) ||
       comparedAfter.any fun op => op.toList.isPrefixOf after)

/-- A check for parent segments, or a call that makes a path safe. -/
def isGuard (w : Window) (f : Fragment) : Bool :=
  match f.kind with
  | .stringLiteral => isParentComparison w f
  | .call => calleeMatches f.text sanitizers || isParentTest f
  | _ => false

/-- A guard stands before the statement or in it. -/
def guarded (w : Window) : Bool := w.context.any (isGuard w)

def openConcat (w : Window) : Option Hit :=
  if guarded w then none
  else
    (w.head.find? fun f => f.isSink fileSinks && f.positional.head?.any Expr.splices).map Hit.of

def looksLikePath (e : Expr) : Bool :=
  let cs := e.template.toList
  cs.contains '/' || cs.contains '\\' || cs.contains '.'

def builtThenOpened (w : Window) : Option Hit :=
  if guarded w then none
  else builtThenUsed w (fun e => e.splices && looksLikePath e) (·.isSink fileSinks)

def remediation : String :=
  "Resolve the path against a fixed base directory, reject `..` segments, and verify the result stays " ++
    "inside the base before opening it."

def rules : List Rule :=
  [{ id := "path_open_concat"
     category := .pathTraversal
     severity := .high
     description := "File opened at a path joined with untrusted input"
     remediation
     kinds := { call := true }
     matcher := openConcat },
   { id := "path_built_then_opened"
     category := .pathTraversal
     severity := .high
     description := "Path built from untrusted input is opened"
     remediation
     kinds := { assignment := true }
     matcher := builtThenOpened }]

end SourceAudit.PathTraversal
