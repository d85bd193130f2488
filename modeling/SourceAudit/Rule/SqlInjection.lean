import SourceAudit.Rule.Callee
import SourceAudit.Rule.Credential

/-! Queries put together from untrusted input. -/
namespace SourceAudit.SqlInjection

/-- Calls that run or prepare a query. -/
def querySinks : List String :=
  [".query", ".Query", ".QueryRow", ".QueryContext", ".QueryRowContext", ".Exec", ".ExecContext",
    ".execute", ".executemany", ".executescript", ".exec", ".raw", ".query_row", ".query_map",
    ".query_as", ".prepare", ".Prepare", ".executeQuery", ".executeUpdate", ".prepareStatement",
    ".createQuery", ".createNativeQuery", ".find_by_sql", "mysqli_query", "mysql_query", "pg_query",
    "sqlite3_exec"]

def sqlShape : Pattern :=
  .ofText "(?is)\\b(select\\b.*\\bfrom|insert\\s+into|update\\b.*\\bset|delete\\s+from)\\b"

/-- A text that reads like a query and has a dynamic piece in it. -/
def isDynamicSql (e : Expr) : Bool := e.splices && sqlShape.isMatch e.template

def execDynamic (w : Window) : Option Hit :=
  (w.head.find? fun f => f.isSink querySinks && f.args.any isDynamicSql).map Hit.of

/-- The call that a fragment stands for. -/
def callOf (f : Fragment) : Call := ⟨f.text, none, f.args⟩

/-- An assigned query text, or a formatting call that stands for itself. -/
def formatsSql (f : Fragment) : Bool :=
  match f.kind with
  | .assignment => f.value?.any isDynamicSql
  | .call =>
    (callOf f).isBuilder && (callOf f).splices &&
      sqlShape.isMatch (Expr.template ⟨[.call (callOf f)], false, none, Span.zero⟩)
  | _ => false

def stringFormat (w : Window) : Option Hit := (w.head.find? formatsSql).map Hit.of

def builtThenExecuted (w : Window) : Option Hit :=
  builtThenUsed w isDynamicSql (·.isSink querySinks)

def remediation : String :=
  "Use parameterized queries or prepared statements; never splice values into SQL text."

def rules : List Rule :=
  [{ id := "sql_exec_dynamic"
     category := .sqlInjection
     severity := .critical
     description := "Query executed from a string spliced with untrusted input"
     remediation
     kinds := { call := true }
     matcher := execDynamic },
   { id := "sql_string_format"
     category := .sqlInjection
     severity := .high
     description := "SQL statement built by string formatting or concatenation"
     remediation
     kinds := { assignment := true, call := true }
     matcher := stringFormat },
   { id := "sql_built_then_executed"
     category := .sqlInjection
     severity := .critical
     description := "Dynamically built SQL statement is executed"
     remediation
     kinds := { assignment := true }
     matcher := builtThenExecuted }]

end SourceAudit.SqlInjection
