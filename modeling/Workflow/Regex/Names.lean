import Workflow.Text.Age
import Workflow.Text.Property
import Workflow.Text.Script

/-! Sets of characters by their names. -/
namespace Workflow.Regex.Names

open Text CharSet

/-- The sets of the basic characters, in brackets of their own inside of sets. -/
def basic? : String → Option CharSet
  | "alnum" => some ⟨[48, 58, 65, 91, 97, 123]⟩
  | "alpha" => some ⟨[65, 91, 97, 123]⟩
  | "ascii" => some (range 0 127)
  | "blank" => some ⟨[9, 10, 32, 33]⟩
  | "cntrl" => some ⟨[0, 32, 127, 128]⟩
  | "digit" => some (range 48 57)
  | "graph" => some (range 33 126)
  | "lower" => some (range 97 122)
  | "print" => some (range 32 126)
  | "punct" => some ⟨[33, 48, 58, 65, 91, 97, 123, 127]⟩
  | "space" => some ⟨[9, 14, 32, 33]⟩
  | "upper" => some (range 65 90)
  | "word" => some ⟨[48, 58, 65, 91, 95, 96, 97, 123]⟩
  | "xdigit" => some ⟨[48, 58, 65, 71, 97, 103]⟩
  | _ => none

/-- Every code point. -/
def anything : CharSet := range 0 0x10FFFF

open Category in
/-- General categories, in short and in long. -/
def category? : String → Option (List Category)
  | "l" | "letter" => some letters
  | "lu" | "uppercaseletter" => some [uppercaseLetter]
  | "ll" | "lowercaseletter" => some [lowercaseLetter]
  | "lt" | "titlecaseletter" => some [titlecaseLetter]
  | "lc" | "casedletter" => some [uppercaseLetter, lowercaseLetter, titlecaseLetter]
  | "lm" | "modifierletter" => some [modifierLetter]
  | "lo" | "otherletter" => some [otherLetter]
  | "m" | "mark" | "combiningmark" => some marks
  | "mn" | "nonspacingmark" => some [nonspacingMark]
  | "mc" | "spacingmark" => some [spacingMark]
  | "me" | "enclosingmark" => some [enclosingMark]
  | "n" | "number" => some numbers
  | "nd" | "decimalnumber" | "digit" => some [decimalNumber]
  | "nl" | "letternumber" => some [letterNumber]
  | "no" | "othernumber" => some [otherNumber]
  | "p" | "punctuation" | "punct" => some punctuation
  | "pc" | "connectorpunctuation" => some [connectorPunctuation]
  | "pd" | "dashpunctuation" => some [dashPunctuation]
  | "ps" | "openpunctuation" => some [openPunctuation]
  | "pe" | "closepunctuation" => some [closePunctuation]
  | "pi" | "initialpunctuation" => some [initialPunctuation]
  | "pf" | "finalpunctuation" => some [finalPunctuation]
  | "po" | "otherpunctuation" => some [otherPunctuation]
  | "s" | "symbol" => some symbols
  | "sm" | "mathsymbol" => some [mathSymbol]
  | "sc" | "currencysymbol" => some [currencySymbol]
  | "sk" | "modifiersymbol" => some [modifierSymbol]
  | "so" | "othersymbol" => some [otherSymbol]
  | "z" | "separator" => some separators
  | "zs" | "spaceseparator" => some [spaceSeparator]
  | "zl" | "lineseparator" => some [lineSeparator]
  | "zp" | "paragraphseparator" => some [paragraphSeparator]
  | "c" | "other" => some others
  | "cc" | "control" | "cntrl" => some [control]
  | "cf" | "format" => some [format]
  | "co" | "privateuse" => some [privateUse]
  | "cn" | "unassigned" => some [unassigned]
  | _ => none

/-- The characters of a general category, or of one of the classes that are named like one. -/
def general? : String → Option CharSet
  | "any" => some anything
  | "assigned" => some Category.meaningful
  | "ascii" => some (range 0 127)
  | name => (category? name).map Category.union

/-- A script by its name or its code. -/
def script? (name : String) : Option CharSet := (Script.find? name).map (·.members)

open Property in
/-- Properties that a character has or lacks, in long and in short. -/
def property? : String → Option CharSet
  | "asciihexdigit" | "ahex" => some asciiHexDigit
  | "alphabetic" | "alpha" => some alphabetic
  | "bidicontrol" | "bidic" => some bidiControl
  | "bidimirrored" | "bidim" => some bidiMirrored
  | "caseignorable" | "ci" => some caseIgnorable
  | "cased" => some cased
  | "changeswhencasefolded" | "cwcf" => some changesWhenCasefolded
  | "changeswhencasemapped" | "cwcm" => some changesWhenCasemapped
  | "changeswhenlowercased" | "cwl" => some changesWhenLowercased
  | "changeswhentitlecased" | "cwt" => some changesWhenTitlecased
  | "changeswhenuppercased" | "cwu" => some changesWhenUppercased
  | "dash" => some dash
  | "defaultignorablecodepoint" | "di" => some defaultIgnorable
  | "deprecated" | "dep" => some deprecated
  | "diacritic" | "dia" => some diacritic
  | "emoji" => some emoji
  | "emojicomponent" | "ecomp" => some emojiComponent
  | "emojimodifier" | "emod" => some emojiModifier
  | "emojimodifierbase" | "ebase" => some emojiModifierBase
  | "emojipresentation" | "epres" => some emojiPresentation
  | "extendedpictographic" | "extpict" => some extendedPictographic
  | "extender" | "ext" => some extender
  | "graphemebase" | "grbase" => some graphemeBase
  | "graphemeextend" | "grext" => some graphemeExtend
  | "graphemelink" | "grlink" => some graphemeLink
  | "hexdigit" | "hex" => some hexDigit
  | "hyphen" => some hyphen
  | "idcompatmathcontinue" => some compatMathContinue
  | "idcompatmathstart" => some compatMathStart
  | "idcontinue" | "idc" => some idContinue
  | "idstart" | "ids" => some idStart
  | "ideographic" | "ideo" => some ideographic
  | "idsbinaryoperator" | "idsb" => some idsBinaryOperator
  | "idstrinaryoperator" | "idst" => some idsTrinaryOperator
  | "idsunaryoperator" | "idsu" => some idsUnaryOperator
  | "joincontrol" | "joinc" => some joinControl
  | "logicalorderexception" | "loe" => some logicalOrderException
  | "lowercase" | "lower" => some lowercase
  | "math" => some math
  | "modifiercombiningmark" | "mcm" => some modifierCombiningMark
  | "noncharactercodepoint" | "nchar" => some noncharacter
  | "otheralphabetic" | "oalpha" => some otherAlphabetic
  | "otherdefaultignorablecodepoint" | "odi" => some otherDefaultIgnorable
  | "othergraphemeextend" | "ogrext" => some otherGraphemeExtend
  | "otheridcontinue" | "oidc" => some otherIdContinue
  | "otheridstart" | "oids" => some otherIdStart
  | "otherlowercase" | "olower" => some otherLowercase
  | "othermath" | "omath" => some otherMath
  | "otheruppercase" | "oupper" => some otherUppercase
  | "patternsyntax" | "patsyn" => some patternSyntax
  | "patternwhitespace" | "patws" => some patternWhiteSpace
  | "prependedconcatenationmark" | "pcm" => some prependedConcatenationMark
  | "quotationmark" | "qmark" => some quotationMark
  | "radical" => some radical
  | "regionalindicator" | "ri" => some regionalIndicator
  | "sentenceterminal" | "sterm" => some sentenceTerminal
  | "softdotted" | "sd" => some softDotted
  | "terminalpunctuation" | "term" => some terminalPunctuation
  | "unifiedideograph" | "uideo" => some unifiedIdeograph
  | "uppercase" | "upper" => some uppercase
  | "variationselector" | "vs" => some variationSelector
  | "whitespace" | "wspace" | "space" => some blanks
  | "xidcontinue" | "xidc" => some xidContinue
  | "xidstart" | "xids" => some xidStart
  | _ => none

/-- A name without what makes no difference: case, blanks, lines, characters beyond ASCII, and the
word that it may start with. -/
def plain (name : List Char) : String :=
  let lower := name.map Char.toLower
  let (marked, rest) := match lower with
    | 'i' :: 's' :: rest => (true, rest)
    | s => (false, s)
  let rest := rest.filter fun c => c != ' ' && c != '_' && c != '-' && c.toNat < 128
  if marked && rest == ['c'] then "isc" else String.ofList rest

/-- The set of a name on its own. -/
def find? (name : List Char) : Option CharSet :=
  let name := plain name
  ((property? name).or (general? name)).or (script? name)

/-- A version in the form of the table: `v6_1` stands for `6.1`, its line being gone here. -/
def version? (name : String) : Option String :=
  match name.toList with
  | 'v' :: digits =>
    (Text.ages.map (·.1)).find? fun v => v.toList.filter (· != '.') == digits
  | _ => some name

/-- The set of a value of a property. -/
def valueOf? (property value : List Char) : Option CharSet :=
  match plain property with
  | "gc" | "generalcategory" => general? (plain value)
  | "sc" | "script" => script? (plain value)
  | "scx" | "scriptextensions" => (Script.find? (plain value)).map (·.used)
  | "age" => (version? (plain value)).bind assignedIn?
  | _ => none

end Workflow.Regex.Names
