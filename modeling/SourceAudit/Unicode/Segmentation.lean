import SourceAudit.Unicode.Derived

/-! The classes of characters by which text is cut into clusters, words and sentences. A character
that is in none of the listed classes is in the class that has no name. -/
namespace SourceAudit.CharSet

def ofCodes (ns : List Nat) : CharSet := ofRanges (ns.map fun n => (n, n))

/-- The ends of lines that stand for themselves. -/
def lineEnds : List (List String × CharSet) :=
  [(["cr"], singleton '\r'), (["lf"], singleton '\n')]

def zeroWidthJoiner : CharSet := ofCodes [0x200D]

def regionalIndicators : CharSet := listed "regionalindicator"

/-! ### Clusters -/

/-- Hangul syllables. -/
def syllables : CharSet := ⟨#[(0xAC00, 0xD7A3)]⟩

/-- Hangul syllables that end in a vowel: each 28th. -/
def openSyllables : CharSet := ofCodes ((List.range 399).map fun i => 0xAC00 + 28 * i)

/-- Characters that a cluster joins to what follows them. -/
def prepended : CharSet :=
  prependedMarks.union (ofTable ["D4E 111C2-111C3 113D1 1193F 11941 11A3A 11A84-11A89 11D46 11F02"])

def clusterControls : CharSet :=
  (unions [categories ["zl", "zp", "cc", "cf"], defaultIgnorable.diff assigned]).diff
    (unions [ofCodes [0xA, 0xD, 0x200C, 0x200D], prependedMarks, graphemeExtend])

/-- Spacing marks belong to the cluster before them, but for some of them. -/
def clusterSpacing : CharSet :=
  ((categories ["mc"]).union (ofCodes [0xE33, 0xEB3])).diff
    (graphemeExtend.union (ofTable ["102B-102C 1038 1062-1064 1067-106D 1083 1087-108C 108F",
      "109A-109C 1A61 1A63-1A64 AA7B AA7D 11720-11721"]))

def clusterExtend : CharSet := graphemeExtend.union (listed "emojimodifier")

def clusterBreaks : List (List String × CharSet) :=
  lineEnds ++
  [(["cn", "control"], clusterControls),
    (["ex", "extend"], clusterExtend),
    (["l"], ofTable ["1100-115F A960-A97C"]),
    (["lv"], openSyllables),
    (["lvt"], syllables.diff openSyllables),
    (["pp", "prepend"], prepended),
    (["ri", "regionalindicator"], regionalIndicators),
    (["sm", "spacingmark"], clusterSpacing),
    (["t"], ofTable ["11A8-11FF D7CB-D7FB"]),
    (["v"], ofTable ["1160-11A7 D7B0-D7C6 16D63 16D67-16D6A"]),
    (["zwj"], zeroWidthJoiner)]

/-! ### Words -/

def wordExtend : CharSet := clusterExtend.union (categories ["mc"])

def wordFormat : CharSet :=
  (categories ["cf"]).diff
    (unions [ofCodes [0x200B, 0x200C, 0x200D], prependedMarks, graphemeExtend])

def katakanaLetters : CharSet :=
  unions [(script? "katakana").getD empty, ofTable ["3031-3035 309B-309C 30A0 30FC FF70"]]

def hebrewLetters : CharSet := ((script? "hebrew").getD empty).inter (categories ["lo"])

/-- Letters of scripts that put no space between words. -/
def unspacedLetters : CharSet :=
  unions [listed "ideographic", (script? "hiragana").getD empty,
    ofTable ["E01-E30 E32-E33 E40-E46 E81-E82 E84 E86-E8A E8C-EA3 EA5 EA7-EB0 EB2-EB3 EBD",
      "EC0-EC4 EC6 EDC-EDF 1000-102A 103F 1050-1055 105A-105D 1061 1065-1066 106E-1070",
      "1075-1081 108E 1780-17B3 17D7 17DC 1950-196D 1970-1974 1980-19AB 19B0-19C9 1A20-1A54",
      "1AA7 A9E0-A9E4 A9E6-A9EF A9FA-A9FE AA60-AA76 AA7A AA7E-AAAF AAB1 AAB5-AAB6 AAB9-AABD",
      "AAC0 AAC2 AADB-AADD 11700-1171A 11740-11746"]]

def wordLetters : CharSet :=
  (unions [alphabetic, ofTable ["B8 2C2-2C5 2D2-2D7 2DE-2DF 2E5-2EB 2ED 2EF-2FF 55A-55C 55E 58A",
      "5F3 70F A708-A716 A720-A721 A789-A78A AB5B"]]).diff
    (unions [unspacedLetters, katakanaLetters, hebrewLetters, wordExtend])

def numerals : CharSet :=
  (unions [digits, prependedMarks, ofCodes [0x66B, 0x19DA]]).diff (ofCodes [0x70F])

def wordBreaks : List (List String × CharSet) :=
  lineEnds ++
  [(["dq", "doublequote"], singleton '"'),
    (["ex", "extendnumlet"], (categories ["pc"]).union (ofCodes [0x202F])),
    (["extend"], wordExtend),
    (["fo", "format"], wordFormat),
    (["hl", "hebrewletter"], hebrewLetters),
    (["ka", "katakana"], katakanaLetters),
    (["le", "aletter"], wordLetters),
    (["mb", "midnumlet"], midBoth),
    (["ml", "midletter"], midLetters),
    (["mn", "midnum"], ofTable ["2C 3B 37E 589 60C-60D 66C 7F8 2044 FE50 FE54 FF0C FF1B"]),
    (["nl", "newline"], ofTable ["B-C 85 2028-2029"]),
    (["nu", "numeric"], numerals),
    (["ri", "regionalindicator"], regionalIndicators),
    (["sq", "singlequote"], singleton '\''),
    (["wsegspace"], (categories ["zs"]).diff (ofCodes [0xA0, 0x2007, 0x202F])),
    (["zwj"], zeroWidthJoiner)]

/-! ### Sentences -/

def sentenceSeparators : CharSet := ofCodes [0x85, 0x2028, 0x2029]

def sentenceExtend : CharSet := unions [graphemeExtend, categories ["mc"], zeroWidthJoiner]

/-- Georgian letters have two cases, but sentences do not begin with a capital. -/
def sentenceLower : CharSet :=
  lowercase.diff (graphemeExtend.union (ofTable ["10D0-10FA 10FD-10FF"]))

def sentenceUpper : CharSet :=
  ((categories ["lt"]).union uppercase).diff (ofTable ["1C90-1CBA 1CBD-1CBF"])

/-- Full stops, which end a sentence or a short form of a word. -/
def fullStops : CharSet := ofCodes [0x2E, 0x2024, 0xFE52, 0xFF0E]

def sentenceBreaks : List (List String × CharSet) :=
  lineEnds ++
  [(["at", "aterm"], fullStops),
    (["cl", "close"], (categories ["ps", "pe", "pi", "pf"]).union
      (ofTable ["22 27 275B-2760 2E00-2E01 2E06-2E08 2E0B 1F676-1F678"])),
    (["ex", "extend"], sentenceExtend),
    (["fo", "format"], wordFormat.union (ofCodes [0x70F, 0x200B])),
    (["le", "oletter"], (alphabetic.union (ofCodes [0x5F3])).diff
      (unions [sentenceLower, sentenceUpper, sentenceExtend])),
    (["lo", "lower"], sentenceLower),
    (["nu", "numeric"], numerals.union (ofCodes [0x66C])),
    (["sc", "scontinue"], ofTable ["2C-2D 3A-3B 37E 55D 60C-60D 7F8 1802 1808 2013-2014 3001",
      "FE10-FE11 FE13-FE14 FE31-FE32 FE50-FE51 FE54-FE55 FE58 FE63 FF0C-FF0D FF1A-FF1B FF64"]),
    (["se", "sep"], sentenceSeparators),
    (["sp"], whiteSpace.diff (sentenceSeparators.union (ofCodes [0xA, 0xD]))),
    (["st", "sterm"], (listed "sentenceterminal").diff fullStops),
    (["up", "upper"], sentenceUpper)]

end SourceAudit.CharSet
