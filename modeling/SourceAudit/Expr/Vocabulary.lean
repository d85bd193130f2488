/-! The words that the readers treat specially. -/
namespace SourceAudit.Vocabulary

/-- Words that never name a value. -/
def keywords : List String :=
  ["var", "let", "const", "mut", "static", "val", "fn", "func", "def", "function",
    "return", "if", "else", "elif", "for", "while", "loop", "in", "of", "not", "and", "or",
    "is", "as", "new", "await", "async", "yield", "import", "from", "use", "package", "pub",
    "crate", "mod", "impl", "struct", "enum", "type", "interface", "class", "extends",
    "implements", "public", "private", "protected", "final", "try", "catch", "except",
    "finally", "throw", "throws", "raise", "with", "match", "case", "switch", "default",
    "break", "continue", "go", "defer", "select", "chan", "unsafe", "extern", "where",
    "typeof", "instanceof", "void", "delete", "do", "then", "end", "begin", "echo", "print",
    "lambda", "pass", "global", "nonlocal", "del", "assert", "ref", "move", "dyn", "trait",
    "self", "this", "super", "Self", "export", "require_once", "include_once"]

/-- Words that open a function, and with it a scope. -/
def functionWords : List String := ["fn", "func", "def", "function"]

/-- Words after which the next name is declared. -/
def declarationWords : List String := ["var", "let", "const", "static", "val"]

/-- Keywords that may still head a path. -/
def pathWords : List String := ["self", "this", "Self", "super", "crate"]

/-- Names of fixed values. -/
def constants : List String :=
  ["true", "false", "True", "False", "nil", "None", "null", "undefined", "NULL"]

/-- Calls that put a text together from pieces. -/
def builders : List String :=
  ["format", "Sprintf", "sprintf", "Sprint", "Sprintln", "format_args", "concat",
    "Concat", "join", "Join", "strcat", "vsprintf", "printf_string"]

/-- Calls that only change how their input is represented. -/
def conversions : List String :=
  ["byte", "string", "str", "String", "bytes", "to_string", "to_owned", "into", "from",
    "as_bytes", "as_str", "encode", "toString", "strip", "trim", "lower", "upper",
    "toLowerCase", "toUpperCase", "unwrap", "clone", "valueOf", "getBytes", "Buffer",
    "to_vec", "as_ref", "borrow"]

/-- Marks after which a statement goes on in the next line. -/
def continuesAfter : List String :=
  ["+", "=", ":=", "+=", "-=", "==", "!=", "&&", "||", ",", ".", "::", "->", "=>", "|", "&",
    "?", "\\", "%"]

/-- Marks that take up the statement of the line before. -/
def continuesBefore : List String := [".", "?.", "+", "||", "&&", "?", "=>", "->"]

end SourceAudit.Vocabulary
