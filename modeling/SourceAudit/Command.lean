import SourceAudit.Text

/-! The command line: which command is asked for, with which options. -/
namespace SourceAudit

structure ScanArgs where
  path : String := "."
  format : String := ""
  severity : Option String := none
  categories : List String := []
  window : Option UInt64 := none
  noDedupe : Bool := false
  failOn : Option String := none
  quiet : Bool := false
deriving DecidableEq, Repr

structure RulesArgs where
  category : Option String := none
  verbose : Bool := false
deriving DecidableEq, Repr

inductive Command where
  | scan (args : ScanArgs)
  | rules (args : RulesArgs)
deriving DecidableEq, Repr

/-- Why arguments name no command to be run. -/
inductive UsageError where
  /-- Help or the version was asked for. -/
  | help
  | version
  /-- Nothing was asked for. -/
  | nothing
  | unknownArgument
  | unknownCommand
  /-- A value that cannot be read. -/
  | badValue
  /-- An option without its value. -/
  | missingValue
  /-- A flag with a value. -/
  | unwantedValue
  /-- An option that came before. -/
  | repeated
deriving DecidableEq, Repr

namespace Command

/-- How an option is used. -/
inductive Usage where
  /-- Present or not. -/
  | flag
  /-- Takes one value and comes once. -/
  | single
  /-- Takes values divided by commas and may come again. -/
  | many
  /-- Asks for help. -/
  | help
deriving DecidableEq, Repr

structure OptionSpec where
  key : String
  short : Option Char
  long : Option String
  usage : Usage
  /-- The values that can be read. -/
  accepts : String → Bool := fun _ => true

def OptionSpec.takesValue (o : OptionSpec) : Bool := o.usage == .single || o.usage == .many

/-- The options of a command, and the argument without a name that it takes. -/
structure Grammar where
  options : List OptionSpec
  argument : Option OptionSpec

/-- Reads a whole number of 64 bits; a plus may stand in front. -/
def word? (text : String) : Option UInt64 :=
  let ds := match text.toList with
    | '+' :: cs => cs
    | cs => cs
  if ds.isEmpty || !ds.all Char.isDigit then none
  else
    let n : Nat := ds.foldl (fun n c => 10 * n + (c.toNat - '0'.toNat)) 0
    if n < Nat.pow 2 64 then some n.toUInt64 else none

/-- What was read so far. -/
structure Reading where
  /-- Keys with their values, the latest first. -/
  found : List (String × List String) := []
  /-- An option or argument whose values are not complete. -/
  pending : Option (OptionSpec × List String) := none
  argumentSeen : Bool := false

namespace Reading

def has (r : Reading) (key : String) : Bool := (r.found.lookup key).isSome

def values (r : Reading) (key : String) : List String :=
  (r.found.reverse.filter (·.1 == key)).flatMap (·.2)

def value? (r : Reading) (key : String) : Option String := (r.values key).head?

/-- Cuts a text at commas. -/
def splitCommas (s : String) : List String := (cutAtEach ',' s.toList).map String.ofList

/-- Takes an option up with its values. -/
def settle (r : Reading) (o : OptionSpec) (values : List String) : Except UsageError Reading :=
  if o.takesValue && values.isEmpty then .error .missingValue
  else if o.usage == .help then .error .help
  else
    let values := if o.usage == .many then values.flatMap splitCommas else values
    if o.usage != .many && r.has o.key then .error .repeated
    else if !values.all o.accepts then .error .badValue
    else .ok { r with found := (o.key, values) :: r.found }

/-- Takes up what is pending. -/
def close (r : Reading) : Except UsageError Reading :=
  match r.pending with
  | none => .ok r
  | some (o, values) => settle { r with pending := none } o values

/-- Takes up what is pending and then an option with its values. -/
def take (r : Reading) (o : OptionSpec) (values : List String) : Except UsageError Reading := do
  (← r.close).settle o values

/-- Lets an option wait for its value. -/
def await (r : Reading) (o : OptionSpec) : Except UsageError Reading := do
  pure { ← r.close with pending := some (o, []) }

/-- An option with the value that was written together with it, or else waiting for one. -/
def option (r : Reading) (o : OptionSpec) (value : Option String) : Except UsageError Reading :=
  match value with
  | some v => r.take o [v]
  | none => r.await o

end Reading

namespace Grammar

def short? (g : Grammar) (c : Char) : Option OptionSpec := g.options.find? (·.short == some c)
def long? (g : Grammar) (name : String) : Option OptionSpec :=
  g.options.find? (·.long == some name)

/-- Options of one letter, written together; the last may have a value. -/
def readShort (g : Grammar) (r : Reading) : List Char → Except UsageError Reading
  | [] => .ok r
  | c :: cs =>
    match g.short? c with
    | none => .error .unknownArgument
    | some o =>
      if o.takesValue then
        match cs with
        | [] => r.option o none
        | '=' :: value => r.option o (some (String.ofList value))
        | value => r.option o (some (String.ofList value))
      else
        match r.take o [] with
        | .error e => .error e
        | .ok r => readShort g r cs

/-- An option of several letters, perhaps with its value behind an equals sign. -/
def readLong (g : Grammar) (r : Reading) (cs : List Char) : Except UsageError Reading :=
  let name := String.ofList (cs.takeWhile (· != '='))
  let value := match cs.dropWhile (· != '=') with
    | [] => none
    | _ :: v => some (String.ofList v)
  match g.long? name with
  | none => .error .unknownArgument
  | some o =>
    if o.takesValue then r.option o value
    else if value.isSome then .error .unwantedValue
    else r.take o []

/-- An argument without a name. -/
def readArgument (g : Grammar) (r : Reading) (text : String) : Except UsageError Reading :=
  match g.argument with
  | none => .error .unknownArgument
  | some o =>
    if r.argumentSeen then .error .unknownArgument
    else do pure { ← r.close with pending := some (o, [text]), argumentSeen := true }

/-- A waiting option takes the next text that is no option; `plain` says that all options are behind
us. -/
def readAll (g : Grammar) (plain : Bool) (r : Reading) : List String → Except UsageError Reading
  | [] => r.close
  | text :: texts => do
    if plain then readAll g true (← g.readArgument r text) texts
    else
      match text.toList with
      | ['-', '-'] => readAll g true r texts
      | '-' :: '-' :: cs => readAll g false (← g.readLong r cs) texts
      | '-' :: c :: cs => readAll g false (← g.readShort r (c :: cs)) texts
      | _ =>
        match r.pending with
        | some (o, []) => readAll g false { r with pending := some (o, [text]) } texts
        | _ => readAll g false (← g.readArgument r text) texts

def read (g : Grammar) (texts : List String) : Except UsageError Reading := g.readAll false {} texts

end Grammar

def helpOption : OptionSpec := ⟨"help", some 'h', some "help", .help, fun _ => true⟩

def scanGrammar : Grammar where
  options :=
    [⟨"format", some 'f', some "format", .single, fun _ => true⟩,
      ⟨"severity", some 's', some "severity", .single, fun _ => true⟩,
      ⟨"categories", some 'c', some "categories", .many, fun _ => true⟩,
      ⟨"window", some 'w', some "window", .single, fun v => (word? v).isSome⟩,
      ⟨"no-dedupe", none, some "no-dedupe", .flag, fun _ => true⟩,
      ⟨"fail-on", none, some "fail-on", .single, fun _ => true⟩,
      ⟨"quiet", some 'q', some "quiet", .flag, fun _ => true⟩, helpOption]
  argument := some ⟨"path", none, none, .single, fun _ => true⟩

def rulesGrammar : Grammar where
  options :=
    [⟨"category", some 'c', some "category", .single, fun _ => true⟩,
      ⟨"verbose", some 'v', some "verbose", .flag, fun _ => true⟩, helpOption]
  argument := none

def readScan (texts : List String) : Except UsageError Command := do
  let r ← scanGrammar.read texts
  pure (.scan
    { path := (r.value? "path").getD "."
      format := (r.value? "format").getD ""
      severity := r.value? "severity"
      categories := r.values "categories"
      window := (r.value? "window").bind word?
      noDedupe := r.has "no-dedupe"
      failOn := r.value? "fail-on"
      quiet := r.has "quiet" })

def readRules (texts : List String) : Except UsageError Command := do
  let r ← rulesGrammar.read texts
  pure (.rules { category := r.value? "category", verbose := r.has "verbose" })

def names : List String := ["scan", "rules", "help"]

/-- Help on a command, which has no commands of its own. -/
def readHelp : List String → UsageError
  | [] => .help
  | [name] => if names.contains name then .help else .unknownCommand
  | _ => .unknownCommand

/-- What stands in the place of a command and is none. -/
def misplaced (text : String) : UsageError :=
  match text.toList with
  | '-' :: '-' :: cs =>
    let name := String.ofList (cs.takeWhile (· != '='))
    if name != "help" && name != "version" then .unknownArgument
    else if cs.contains '=' then .unwantedValue
    else if name == "help" then .help else .version
  | '-' :: 'h' :: _ => .help
  | '-' :: 'V' :: _ => .version
  | '-' :: _ :: _ => .unknownArgument
  | _ => .unknownCommand

/-- Reads the arguments of the program. -/
def parse : List String → Except UsageError Command
  | [] | ["--"] => .error .nothing
  | "scan" :: texts => readScan texts
  | "rules" :: texts => readRules texts
  | "help" :: texts => .error (readHelp texts)
  | "--" :: text :: _ => .error (if names.contains text then .unknownArgument else .unknownCommand)
  | text :: _ => .error (misplaced text)

end Command
end SourceAudit
