import SourceAudit.Unicode.Segmentation

/-! Sets of characters under the names that expressions use for them. -/
namespace SourceAudit.CharSet

/-- Names match without regard to case, blanks, hyphens, underscores and characters beyond the first
128. An `is` before a name means nothing, except in the name `isc`. -/
def symbolicName (cs : List Char) : String :=
  let kept (cs : List Char) :=
    (cs.filter fun c => !(c == ' ' || c == '_' || c == '-') && c.toNat < 128).map Char.toLower
  match cs with
  | i :: s :: rest =>
    if (i == 'i' || i == 'I') && (s == 's' || s == 'S') then
      let name := String.ofList (kept rest)
      if name == "c" then "isc" else name
    else String.ofList (kept cs)
  | _ => String.ofList (kept cs)

/-- A property, a category or a script. -/
def named? (text : List Char) : Option CharSet :=
  let name := symbolicName text
  (property? name).or ((category? name).or (script? name))

/-- The characters that have a value of a property with several values. -/
def valued? (property value : List Char) : Option CharSet :=
  let value := symbolicName value
  match symbolicName property with
  | "generalcategory" | "gc" => category? value
  | "script" | "sc" => script? value
  | "scriptextensions" | "scx" => scriptExtension? value
  | "age" => age? value
  | "graphemeclusterbreak" | "gcb" => row? clusterBreaks value
  | "wordbreak" | "wb" => row? wordBreaks value
  | "sentencebreak" | "sb" => row? sentenceBreaks value
  | _ => none

end SourceAudit.CharSet
