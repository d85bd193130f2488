import SourceAudit.FileTree
import SourceAudit.Ignore
import SourceAudit.Language
import SourceAudit.Settings

/-! The walk over a directory tree that finds the files of a scan. -/
namespace SourceAudit.Walk

/-- The ignore files of one directory. -/
structure Level where
  ignore : IgnoreRules
  vcs : IgnoreRules
  exclude : IgnoreRules
  isRepository : Bool
  /-- The directory lies above the root of the walk, and its rules are relative to a full path. -/
  above : Bool

def rulesIn (dir name : String) (entries : List (String × FileTree)) : IgnoreRules :=
  match entries.lookup name with
  | some (.file bytes) => .ofBytes dir bytes
  | _ => .empty

/-- The rules that a repository keeps beside its files. -/
def excludeIn (dir : String) (entries : List (String × FileTree)) : IgnoreRules :=
  match entries.lookup ".git" with
  | some (.directory git) =>
    match git.lookup "info" with
    | some (.directory info) => rulesIn dir "exclude" info
    | _ => .empty
  | _ => .empty

def levelOf (s : ScanSettings) (above : Bool) (dir : String) (entries : List (String × FileTree)) :
    Level :=
  if s.readIgnoreFiles then
    { ignore := rulesIn dir ".ignore" entries
      vcs := rulesIn dir ".gitignore" entries
      exclude := excludeIn dir entries
      isRepository :=
        s.needsRepository && ((entries.lookup ".git").isSome || (entries.lookup ".jj").isSome)
      above }
  else ⟨.empty, .empty, .empty, false, above⟩

/-- What the levels say so far. -/
structure Rulings where
  ignore : Option Ruling := none
  vcs : Option Ruling := none
  exclude : Option Ruling := none
  /-- A repository was left, so that version control has no more to say. -/
  left : Bool := false

/-- The walk's root as it was given and in full, and the settings. -/
structure Plan where
  settings : ScanSettings
  exclusions : IgnoreRules
  root : String
  fullRoot : String
  maxDepth : Option Nat

/-- The full path of a path below the root. -/
def Plan.full (plan : Plan) (path : String) : String :=
  let rest :=
    if (Path.mk plan.root).same ⟨"."⟩ then path
    else dropFront "/" (dropFront (dropFront "./" plan.root) path)
  (Path.join ⟨plan.fullRoot⟩ rest).text

/-- The rulings of the levels, the nearest first: each kind of file is asked until it rules, and files
of version control only inside the nearest repository. -/
def rulings (plan : Plan) (inRepository : Bool) (path : String) (isDirectory : Bool) (r : Rulings)
    (l : Level) : Rulings :=
  let path := if l.above then plan.full path else path
  let vcs := inRepository && !r.left
  { ignore := r.ignore.or (l.ignore.ruling? path isDirectory)
    vcs := r.vcs.or (if vcs then l.vcs.ruling? path isDirectory else none)
    exclude := r.exclude.or (if vcs then l.exclude.ruling? path isDirectory else none)
    left := r.left || l.isRepository }

def ignoreRuling? (plan : Plan) (levels : List Level) (path : String) (isDirectory : Bool) :
    Option Ruling :=
  let inRepository := !plan.settings.needsRepository || levels.any Level.isRepository
  let r := levels.foldl (rulings plan inRepository path isDirectory) {}
  r.ignore.or (r.vcs.or r.exclude)

/-- Exclusions come first, then ignore files; what neither decides is shut out when it is hidden. -/
def admits (plan : Plan) (levels : List Level) (path : Path) (name : String) (isDirectory : Bool) :
    Bool :=
  let text := dropFront "./" path.text
  let ruling := (plan.exclusions.ruling? text isDirectory).or
    (ignoreRuling? plan levels text isDirectory)
  match ruling with
  | some .shutOut => false
  | some .letIn => true
  | none => plan.settings.scanHidden || !name.startsWith "."

/-- The largest size that is scanned, in bytes; zero is no limit. -/
def sizeLimit (s : ScanSettings) : Nat := (s.maxFileSize.getD 0 * 1048576).toNat

/-- The file is a source file of a size to be scanned. -/
def wanted (s : ScanSettings) (path : Path) (bytes : ByteArray) : Bool :=
  (Language.ofPath? path).isSome && (sizeLimit s == 0 || bytes.size ≤ sizeLimit s)

mutual

/-- The files at a path, which is at `depth`. -/
def files (plan : Plan) (levels : List Level) (path : Path) (depth : Nat) : FileTree → List Path
  | .file bytes => if wanted plan.settings path bytes then [path] else []
  | .directory entries =>
    if plan.maxDepth.any (· ≤ depth) then []
    else
      let levels := levelOf plan.settings false path.text entries :: levels
      filesIn plan levels path (depth + 1) entries

/-- The files among the entries of the directory at `path`. -/
def filesIn (plan : Plan) (levels : List Level) (path : Path) (depth : Nat) :
    List (String × FileTree) → List Path
  | [] => []
  | (name, tree) :: more =>
    let child := path.join name
    let rest := filesIn plan levels path depth more
    if admits plan levels child name tree.isDirectory then files plan levels child depth tree ++ rest
    else rest

end

/-- What the settings exclude, as globs below the root. -/
def exclusions (s : ScanSettings) (root : String) : IgnoreRules :=
  .ofLines false root
    (s.excludedExtensions.map ("*." ++ ·) ++
      s.excludedDirectories.map (fun d => "**/" ++ d ++ "/**") ++ s.excludedFiles.map ("**/" ++ ·))

def fullText (names : List String) : String := "/" ++ "/".intercalate names

/-- The levels of the directories on the way to the root of the walk, the nearest first. -/
def levelsAbove (s : ScanSettings) (names : List String) (tree : FileTree) :
    List String → List Level
  | [] => []
  | name :: more =>
    let own := levelOf s true (fullText names) tree.entries
    let child := (tree.entries.lookup name).getD .empty
    levelsAbove s (names ++ [name]) child more ++ [own]

/-- The source files below a root, in the order of their bytes. -/
def paths (fs : FileSystem) (settings : Settings) (root : Path) : List Path :=
  match fs.resolve root with
  | .error _ => []
  | .ok place =>
    if root.text == "-" then []
    else
      let plan : Plan :=
        { settings := settings.scan
          exclusions := exclusions settings.scan root.text
          root := root.text
          fullRoot := fullText place.names
          maxDepth := settings.effort.maxDepth }
      let above := levelsAbove settings.scan [] fs.root place.names
      (files plan above root 0 place.tree).mergeSort fun a b => (compare a.text b.text).isLE

end SourceAudit.Walk
