import Std.Time
import SourceAudit.Command.Run
import SourceAudit.Settings.Decode

/-! The program: reads settings and files, runs one command and prints what it has to say. -/
namespace SourceAudit.Program

def splitNames (path : String) : List String := (path.splitOn "/").filter (!·.isEmpty)

/-- Files whose bytes matter: sources and ignore files. The others only have to be there. -/
def isRead (name : String) : Bool :=
  (Language.ofPath? ⟨name⟩).isSome || [".ignore", ".gitignore", "exclude"].contains name

/-- Everything below a path, without symbolic links. -/
partial def loadTree (path : String) : IO (Option FileTree) := do
  let path' := (← IO.currentDir) / path
  let info ← path'.symlinkMetadata
  match info.type with
  | .dir =>
    let mut entries := #[]
    for e in ← path'.readDir do
      if let some tree ← loadTree (path ++ "/" ++ e.fileName) then
        entries := entries.push (e.fileName, tree)
    return some (.directory entries.toList)
  | .file =>
    if isRead ((splitNames path).getLast?.getD "") then
      return some (.file (← IO.FS.readBinFile path'))
    else return some (.file .empty)
  | _ => return none

/-- Adds the ignore files of a directory above the root of a scan. -/
def loadAbove (names : List String) (tree : FileTree) : IO FileTree := do
  let mut tree := tree.makeDirectory names
  for name in [".ignore", ".gitignore", ".git/info/exclude"] do
    let path := Walk.fullText (names ++ [name])
    if ← ((← IO.currentDir) / path).pathExists then
      tree := FileTree.put (.file (← IO.FS.readBinFile path)) (names ++ splitNames name) tree
  for name in [".git", ".jj"] do
    if ← ((← IO.currentDir) / Walk.fullText (names ++ [name])).pathExists then
      tree := tree.makeDirectory (names ++ [name])
  return tree

/-- The files that a scan of `path` can ask for. -/
def loadFiles (path : String) : IO FileSystem := do
  let here := splitNames (← IO.currentDir).toString
  let mut root := FileTree.empty.makeDirectory here
  let full ← try pure (some (← IO.FS.realPath path).toString) catch _ => pure none
  if let some full := full then
    let names := splitNames full
    for n in List.range names.length do
      root ← loadAbove (names.take n) root
    if let some tree ← loadTree full then
      root := FileTree.put tree names root
  return ⟨root, here⟩

def settingsDirectory : IO String := do
  match ← IO.getEnv "XDG_CONFIG_HOME" with
  | some dir => return dir ++ "/" ++ toolName
  | none => return (← IO.getEnv "HOME").getD "" ++ "/.config/" ++ toolName

/-- The text of the user's settings; the example is laid beside them. -/
def userSettings : IO (Option String) := do
  let dir ← settingsDirectory
  IO.FS.createDirAll dir
  let example' := dir ++ "/" ++ toolName ++ ".conf"
  unless ← ((← IO.currentDir) / example').pathExists do
    IO.FS.writeFile example' Settings.exampleText
  let user := dir ++ "/" ++ toolName ++ ".local"
  if ← ((← IO.currentDir) / user).pathExists then return some (← IO.FS.readFile user)
  else return none

def now : IO String := do
  return (← Std.Time.PlainDateTime.now).format "uuuu-MM-dd HH:mm:ss"

def usage : String :=
  Console.joinLines
    ["Usage: " ++ toolName ++ " <COMMAND>", "", "Commands:",
      "  scan   Scan a file or directory for vulnerable patterns",
      "  rules  List the detection rules", "  help   Print this message", "", "Options:",
      "  -h, --help     Print help", "  -V, --version  Print version"]

def complaint : UsageError → String
  | .help | .version | .nothing => ""
  | .unknownArgument => "unexpected argument"
  | .unknownCommand => "unrecognized subcommand"
  | .badValue => "invalid value"
  | .missingValue => "a value is required"
  | .unwantedValue => "unexpected value"
  | .repeated => "the argument cannot be used multiple times"

def explain (e : UsageError) : IO Unit :=
  match e with
  | .help => IO.print usage
  | .version => IO.println (toolName ++ " " ++ toolVersion)
  | .nothing => IO.eprint usage
  | e => IO.eprintln s!"error: {complaint e}\n\n{usage}"

def runCommand (command : Command) : IO Nat := do
  match Settings.load? (← userSettings) with
  | none =>
    IO.eprintln "error: config parse error"
    return fatalCode
  | some settings =>
    let files ← match command with
      | .scan args => loadFiles args.path
      | .rules _ => pure ⟨.empty, []⟩
    let colors ← (← IO.getStdout).isTty
    match (command.run files settings colors).2 with
    | .error e =>
      IO.eprintln s!"error: {e.message}"
      return e.exitCode
    | .ok result =>
      IO.print result.output.text
      if result.output.tellsTime then IO.print (Console.clockLine (← now))
      return result.exitCode

end SourceAudit.Program

open SourceAudit in
def main (args : List String) : IO UInt32 := do
  match Command.parse args with
  | .error e =>
    Program.explain e
    return e.exitCode.toUInt32
  | .ok command => return (← Program.runCommand command).toUInt32
