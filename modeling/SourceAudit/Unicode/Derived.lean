import SourceAudit.Unicode.Age
import SourceAudit.Unicode.Category
import SourceAudit.Unicode.CharSet
import SourceAudit.Unicode.Property
import SourceAudit.Unicode.Script
import SourceAudit.Unicode.ScriptExtension

/-! Sets of characters by category, script, version and property. The tables list what cannot be
computed; the other properties follow from them. -/
namespace SourceAudit.CharSet

/-! ### Categories -/

def categories (names : List String) : CharSet :=
  unions (names.filterMap (lookup Unicode.Category.ranges))

def assigned : CharSet := unions (Unicode.Category.ranges.map fun row => ofTable row.2)

/-- Groups of categories, under the names of the group. -/
def categoryGroups : List (List String × List String) :=
  [(["l", "letter"], ["lu", "ll", "lt", "lm", "lo"]),
    (["lc", "casedletter"], ["lu", "ll", "lt"]),
    (["m", "mark", "combiningmark"], ["mn", "mc", "me"]),
    (["n", "number"], ["nd", "nl", "no"]),
    (["p", "punctuation", "punct"], ["pc", "pd", "ps", "pe", "pi", "pf", "po"]),
    (["s", "symbol"], ["sm", "sc", "sk", "so"]),
    (["z", "separator"], ["zs", "zl", "zp"])]

def category? (name : String) : Option CharSet :=
  if name == "any" then some all
  else if name == "ascii" then some ⟨#[(0, 127)]⟩
  else if name == "assigned" then some assigned
  else if name == "cn" || name == "unassigned" then some assigned.complement
  else if name == "c" || name == "other" then
    some ((categories ["cc", "cf", "co"]).union assigned.complement)
  else
    match categoryGroups.find? fun group => group.1.contains name with
    | some group => some (categories group.2)
    | none => lookup Unicode.Category.ranges name

def digits : CharSet := categories ["nd"]

/-! ### Scripts and versions -/

def script? (name : String) : Option CharSet := lookup Unicode.Script.ranges name

/-- Every character that is used in the script, whether it is shared with others or not. -/
def scriptExtension? (name : String) : Option CharSet := do
  let row ← Unicode.Script.ranges.find? fun row => row.1.contains name
  let code ← row.1.head?
  let rows := Unicode.ScriptExtension.ranges
  let own := (ofTable row.2).diff (ofTable (rows.flatMap Prod.snd))
  pure (own.union (ofTable ((rows.filter fun row => row.1.contains code).flatMap Prod.snd)))

/-- The lines of all rows up to the first that goes by `name`. -/
def linesUpTo (name : String) : List (List String × List String) → Option (List String)
  | [] => none
  | row :: rows =>
    if row.1.contains name then some row.2 else (linesUpTo name rows).map (row.2 ++ ·)

/-- Every character that the version or one before it has assigned. -/
def age? (name : String) : Option CharSet := (linesUpTo name Unicode.Age.ranges).map ofTable

/-! ### Properties -/

/-- The property that the table lists under `name`. -/
def listed (name : String) : CharSet := (lookup Unicode.Property.ranges name).getD empty

def whiteSpace : CharSet := listed "whitespace"

def hexDigits : CharSet := listed "asciihexdigit"

def lowercase : CharSet := (categories ["ll"]).union (listed "otherlowercase")

def uppercase : CharSet := (categories ["lu"]).union (listed "otheruppercase")

def cased : CharSet := unions [lowercase, uppercase, categories ["lt"]]

def alphabetic : CharSet :=
  (categories ["lu", "ll", "lt", "lm", "lo", "nl"]).union (listed "otheralphabetic")

def math : CharSet := (categories ["sm"]).union (listed "othermath")

/-- Marks that may stand inside a word between letters. -/
def midLetters : CharSet := ofTable ["3A B7 387 55F 5F4 2027 FE13 FE55 FF1A"]

/-- Marks that may stand inside a word between letters and inside a number between digits. -/
def midBoth : CharSet := ofTable ["2E 2018-2019 2024 FE52 FF07 FF0E"]

/-- Characters that do not end a word when letter case is applied to it. -/
def caseIgnorable : CharSet :=
  unions [categories ["mn", "me", "cf", "lm", "sk"], midLetters, midBoth, singleton '\'']

def changesWhenCasemapped : CharSet :=
  unions (["cwl", "cwu", "cwt"].map listed)

def prependedMarks : CharSet := listed "prependedconcatenationmark"

/-- Characters that are not shown when they are not supported. -/
def defaultIgnorable : CharSet :=
  let kept := unions [whiteSpace, prependedMarks, ofTable ["FFF9-FFFB 13430-1343F"]]
  (unions [listed "otherdefaultignorablecodepoint", categories ["cf"],
    listed "variationselector"]).diff kept

def graphemeExtend : CharSet := (categories ["me", "mn"]).union (listed "othergraphemeextend")

def graphemeBase : CharSet :=
  assigned.diff ((categories ["cc", "cf", "co", "zl", "zp"]).union graphemeExtend)

def idStart : CharSet :=
  (unions [categories ["lu", "ll", "lt", "lm", "lo", "nl"], listed "otheridstart"]).diff
    (unions [listed "patternsyntax", listed "patternwhitespace"])

def idContinue : CharSet :=
  (unions [idStart, categories ["mn", "mc", "nd", "pc"], listed "otheridcontinue"]).diff
    (unions [listed "patternsyntax", listed "patternwhitespace"])

/-- Parts of identifiers that stop being so when they are normalised. -/
def normalisedAway : CharSet :=
  ofTable ["37A 309B-309C FC5E-FC63 FDFA-FDFB FE70:FE7E"]

def xidContinue : CharSet := idContinue.diff normalisedAway

/-- Of the letters that normalise to a mark and a letter, some can go on but not start. -/
def xidStart : CharSet := idStart.diff (normalisedAway.union (ofTable ["E33 EB3 FF9E-FF9F"]))

/-- Properties that follow from others, under their names. -/
def derived : List (List String × CharSet) :=
  [(["alphabetic", "alpha"], alphabetic),
    (["caseignorable", "ci"], caseIgnorable),
    (["cased"], cased),
    (["changeswhencasemapped", "cwcm"], changesWhenCasemapped),
    (["defaultignorablecodepoint", "di"], defaultIgnorable),
    (["graphemebase", "grbase"], graphemeBase),
    (["graphemeextend", "grext"], graphemeExtend),
    (["idcontinue", "idc"], idContinue),
    (["idstart", "ids"], idStart),
    (["lowercase", "lower"], lowercase),
    (["math"], math),
    (["uppercase", "upper"], uppercase),
    (["xidcontinue", "xidc"], xidContinue),
    (["xidstart", "xids"], xidStart)]

/-- The set of the row that goes by `name`. -/
def row? (rows : List (List String × CharSet)) (name : String) : Option CharSet :=
  (rows.find? fun row => row.1.contains name).map Prod.snd

def property? (name : String) : Option CharSet :=
  (row? derived name).or (lookup Unicode.Property.ranges name)

/-- Characters of words: letters, marks, digits, connectors and joiners. -/
def wordChars : CharSet :=
  unions [alphabetic, categories ["mn", "mc", "me", "nd", "pc"], listed "joincontrol"]

end SourceAudit.CharSet
