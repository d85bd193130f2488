import SourceAudit.Rule

/-! Calls that a list of callees names, and values that are built in one statement and used by such a call
in a later one. -/
namespace SourceAudit

/-- Drops the exclamation marks at the end of a callee. -/
def dropBangs (callee : String) : String :=
  String.ofList (callee.toList.reverse.dropWhile (· == '!')).reverse

/-- One callee pattern. With a leading dot it names a method of any receiver; with a dot inside, a
path or the end of one; without, only a bare call. -/
def calleeFits (callee : String) (pattern : String) : Bool :=
  match pattern.toList with
  | '.' :: method => lastSegment callee == String.ofList method
  | cs =>
    if cs.contains '.' then callee == pattern || ('.' :: cs).isSuffixOf callee.toList
    else callee == pattern

def calleeMatches (callee : String) (patterns : List String) : Bool :=
  patterns.any (calleeFits (dropBangs callee))

/-- A call of one of `sinks`, or a link of a chain that began with one. -/
def Fragment.isSink (f : Fragment) (sinks : List String) : Bool :=
  f.isCall && (calleeMatches f.text sinks || f.chain.any (calleeMatches · sinks))

/-- The arguments without a keyword. -/
def Fragment.positional (f : Fragment) : List Expr := f.args.filter (·.keyword.isNone)

/-- The fragment names `target` in an argument. -/
def Fragment.uses (f : Fragment) (target : String) : Bool :=
  f.args.any fun arg => arg.idents.contains target

/-- The first assignment of the head whose right side is `built` and whose target a `sink` later in
the window takes as an argument. -/
def builtThenUsed (w : Window) (built : Expr → Bool) (sink : Fragment → Bool) : Option Hit :=
  ((w.head.filter Fragment.isAssignment).find? fun a =>
    a.value?.any built && w.rest.any fun f => sink f && f.uses a.text).map Hit.of

end SourceAudit
