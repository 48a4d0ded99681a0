import Telemetry.Unicode.GeneralCategory
import Telemetry.Unicode.Script
import Telemetry.Unicode.PropertyList
import Telemetry.Unicode.WhiteSpace
import Telemetry.Unicode.Segmentation
import Telemetry.Unicode.Age

/-!
# Character properties by name

Names are compared in loose form: case, blanks, hyphens, underscores and an initial `is` do not
count. `classOf` is the set that a property name alone selects and `classOfValue` the set that a
name and a value select.
-/

namespace Telemetry.Unicode

/-! ## Classes of general categories -/

namespace GeneralCategory

/-- The characters of any of the categories. -/
def membersOf (gs : List GeneralCategory) : CodePoints := .unions (gs.map members)

/-- Letters with case: upper, lower and title case. -/
def casedLetters : List GeneralCategory := [.uppercaseLetter, .lowercaseLetter, .titlecaseLetter]

/-- Letters. -/
def letters : List GeneralCategory := casedLetters ++ [.modifierLetter, .otherLetter]

/-- Combining marks. -/
def marks : List GeneralCategory := [.nonspacingMark, .spacingMark, .enclosingMark]

/-- Numbers. -/
def numbers : List GeneralCategory := [.decimalNumber, .letterNumber, .otherNumber]

/-- Punctuation. -/
def punctuation : List GeneralCategory :=
  [.connectorPunctuation, .dashPunctuation, .openPunctuation, .closePunctuation,
    .initialPunctuation, .finalPunctuation, .otherPunctuation]

/-- Symbols. -/
def symbols : List GeneralCategory := [.mathSymbol, .currencySymbol, .modifierSymbol, .otherSymbol]

/-- Separators. -/
def separators : List GeneralCategory := [.spaceSeparator, .lineSeparator, .paragraphSeparator]

/-- Controls, format characters and private use; with the unassigned code points, the class
`Other`. -/
def assignedOthers : List GeneralCategory := [.control, .format, .privateUse]

end GeneralCategory

open GeneralCategory

/-- The code points that are no characters: halves of surrogate pairs. -/
def surrogates : CodePoints := .range 0xD800 0xDFFF

/-- Every scalar value: every code point that is not a surrogate. -/
def scalars : CodePoints := surrogates.complement

/-- The characters in some category. -/
def assigned : CodePoints := membersOf GeneralCategory.all

/-- The scalar values in no category. -/
def unassigned : CodePoints := scalars.diff assigned

/-- The members of a listed property; none if there is no such property. -/
def listed (name : String) : CodePoints := (ListedProperty.find? name).getD .empty

/-! ## Derived binary properties -/

/-- Lower case letters and the characters used like them. -/
def lowercase : CodePoints := lowercaseLetter.members.union (listed "otherlowercase")

/-- Upper case letters and the characters used like them. -/
def uppercase : CodePoints := uppercaseLetter.members.union (listed "otheruppercase")

/-- Characters that have case. -/
def cased : CodePoints := .unions [lowercase, uppercase, titlecaseLetter.members]

/-- Characters that form words: letters, letter-like numbers and the marks that spell vowels. -/
def alphabetic : CodePoints :=
  .unions [lowercase, uppercase,
    membersOf [.titlecaseLetter, .modifierLetter, .otherLetter, .letterNumber],
    listed "otheralphabetic"]

/-- Decimal digits. -/
def decimalDigit : CodePoints := decimalNumber.members

/-- Word characters: alphabetic ones, marks, decimal digits, connectors and joiners. -/
def word : CodePoints :=
  .unions [alphabetic, membersOf (marks ++ [.decimalNumber, .connectorPunctuation]),
    listed "joincontrol"]

/-- Characters that extend the grapheme cluster before them. -/
def graphemeExtend : CodePoints :=
  (membersOf [.enclosingMark, .nonspacingMark]).union (listed "othergraphemeextend")

/-- Characters that begin a grapheme cluster: visible ones that extend no other. -/
def graphemeBase : CodePoints :=
  (assigned.diff (membersOf (assignedOthers ++ [.lineSeparator, .paragraphSeparator]))).diff
    graphemeExtend

/-- Mathematical symbols and the letters used as such. -/
def math : CodePoints := mathSymbol.members.union (listed "othermath")

/-- Characters that a display leaves out when it cannot show them. -/
def defaultIgnorable : CodePoints :=
  (((format.members.union (listed "variationselector")).diff
    (.unions [whiteSpace, .range 0xFFF9 0xFFFB, .range 0x13430 0x13440,
      listed "prependedconcatenationmark"])).union (listed "otherdefaultignorablecodepoint"))

/-- Characters that do not matter for the case context of others. -/
def caseIgnorable : CodePoints :=
  (membersOf [.nonspacingMark, .enclosingMark, .format, .modifierLetter, .modifierSymbol]).union
    wordInternalPunctuation

/-- Characters that programming languages keep for their operators and blanks. -/
def patternCharacters : CodePoints := (listed "patternsyntax").union (listed "patternwhitespace")

/-- Characters that may start an identifier. -/
def idStart : CodePoints :=
  (CodePoints.union (membersOf (letters ++ [.letterNumber])) (listed "otheridstart")).diff
    patternCharacters

/-- Characters that may continue an identifier. -/
def idContinue : CodePoints :=
  (CodePoints.unions [idStart,
    membersOf [.nonspacingMark, .spacingMark, .decimalNumber, .connectorPunctuation],
    listed "otheridcontinue"]).diff patternCharacters

/-- Characters whose case changes in some mapping. -/
def changesWhenCasemapped : CodePoints :=
  .unions [listed "changeswhenlowercased", listed "changeswhenuppercased",
    listed "changeswhentitlecased"]

/-- The members of the derived property with the loose name `name`. -/
def derivedProperty? (name : String) : Option CodePoints :=
  match name with
  | "alphabetic" | "alpha" => some alphabetic
  | "lowercase" | "lower" => some lowercase
  | "uppercase" | "upper" => some uppercase
  | "cased" => some cased
  | "whitespace" | "wspace" | "space" => some whiteSpace
  | "math" => some math
  | "caseignorable" | "ci" => some caseIgnorable
  | "changeswhencasemapped" | "cwcm" => some changesWhenCasemapped
  | "defaultignorablecodepoint" | "di" => some defaultIgnorable
  | "graphemeextend" | "grext" => some graphemeExtend
  | "graphemebase" | "grbase" => some graphemeBase
  | "idstart" | "ids" => some idStart
  | "idcontinue" | "idc" => some idContinue
  | "xidstart" | "xids" => some (idStart.diff unstableIdentifierStart)
  | "xidcontinue" | "xidc" => some (idContinue.diff unstableIdentifierContinue)
  | _ => none

/-! ## Lookup -/

/-- The loose form of a property name: lower case ASCII without blanks, hyphens, underscores and an
initial `is`. Characters beyond ASCII are dropped. `isc` keeps its prefix: it abbreviates a property
of its own. -/
def looseName (name : List Char) : String :=
  let hasIs := match name with
    | i :: s :: _ => (i = 'i' ∨ i = 'I') ∧ (s = 's' ∨ s = 'S')
    | _ => False
  let kept := ((if hasIs then name.drop 2 else name).filter
    (fun c => c.toNat < 128 && !(c = ' ' || c = '-' || c = '_'))).map Char.toLower
  if hasIs && kept = ['c'] then "isc" else String.ofList kept

/-- The loose names of the categories and of their classes, each with the categories it selects. -/
def categoryNames : List (List String × List GeneralCategory) := [
  (["lu", "uppercaseletter"], [.uppercaseLetter]),
  (["ll", "lowercaseletter"], [.lowercaseLetter]),
  (["lt", "titlecaseletter"], [.titlecaseLetter]),
  (["lm", "modifierletter"], [.modifierLetter]),
  (["lo", "otherletter"], [.otherLetter]),
  (["lc", "casedletter"], casedLetters),
  (["l", "letter"], letters),
  (["mn", "nonspacingmark"], [.nonspacingMark]),
  (["mc", "spacingmark"], [.spacingMark]),
  (["me", "enclosingmark"], [.enclosingMark]),
  (["m", "mark", "combiningmark"], marks),
  (["nd", "decimalnumber", "digit"], [.decimalNumber]),
  (["nl", "letternumber"], [.letterNumber]),
  (["no", "othernumber"], [.otherNumber]),
  (["n", "number"], numbers),
  (["pc", "connectorpunctuation"], [.connectorPunctuation]),
  (["pd", "dashpunctuation"], [.dashPunctuation]),
  (["ps", "openpunctuation"], [.openPunctuation]),
  (["pe", "closepunctuation"], [.closePunctuation]),
  (["pi", "initialpunctuation"], [.initialPunctuation]),
  (["pf", "finalpunctuation"], [.finalPunctuation]),
  (["po", "otherpunctuation"], [.otherPunctuation]),
  (["p", "punctuation", "punct"], punctuation),
  (["sm", "mathsymbol"], [.mathSymbol]),
  (["sc", "currencysymbol"], [.currencySymbol]),
  (["sk", "modifiersymbol"], [.modifierSymbol]),
  (["so", "othersymbol"], [.otherSymbol]),
  (["s", "symbol"], symbols),
  (["zs", "spaceseparator"], [.spaceSeparator]),
  (["zl", "lineseparator"], [.lineSeparator]),
  (["zp", "paragraphseparator"], [.paragraphSeparator]),
  (["z", "separator"], separators),
  (["cc", "control", "cntrl"], [.control]),
  (["cf", "format"], [.format]),
  (["co", "privateuse"], [.privateUse])]

/-- The set that a loose name of a general category selects. The surrogates are a category without
scalar values, which has no class. -/
def generalCategory? (name : String) : Option CodePoints :=
  match name with
  | "any" => some scalars
  | "ascii" => some (.range 0 0x7F)
  | "assigned" => some assigned
  | "cn" | "unassigned" => some unassigned
  | "c" | "other" => some ((membersOf assignedOthers).union unassigned)
  | _ => (categoryNames.find? (·.1.contains name)).map (membersOf ·.2)

/-- The script with the loose name `name`. -/
def script? (name : String) : Option Script := Script.all.find? (·.names.contains name)

/-- Whether the name stands for a value that has no scalar values, so that it is known but selects
nothing. -/
def isEmptyValue (name : String) : Bool :=
  ["cs", "surrogate", "zzzz", "unknown", "hrkt", "katakanaorhiragana"].contains name

/-- The properties of the database that select no class by their name alone, by loose names: those
with values other than yes and no, and those that only serve to build others. -/
def classlessProperties : List String :=
  ["age", "bc", "bidiclass", "bidimirroringglyph", "bidipairedbracket", "bidipairedbrackettype",
    "blk", "block", "bmg", "bpb", "bpt", "canonicalcombiningclass", "casefolding", "ccc", "ce",
    "cf", "changeswhennfkccasefolded", "cjkaccountingnumeric", "cjkcompatibilityvariant",
    "cjkiicore", "cjkirggsource", "cjkirghsource", "cjkirgjsource", "cjkirgkpsource",
    "cjkirgksource", "cjkirgmsource", "cjkirgssource", "cjkirgtsource", "cjkirguksource",
    "cjkirgusource", "cjkirgvsource", "cjkothernumeric", "cjkprimarynumeric", "cjkrsunicode",
    "compex", "compositionexclusion", "cwkcf", "decompositionmapping", "decompositiontype", "dm",
    "dt", "ea", "eastasianwidth", "equideo", "equivalentunifiedideograph", "expandsonnfc",
    "expandsonnfd", "expandsonnfkc", "expandsonnfkd", "fcnfkc", "fcnfkcclosure",
    "fullcompositionexclusion", "gc", "gcb", "generalcategory", "graphemeclusterbreak",
    "hangulsyllabletype", "hst", "incb", "indicconjunctbreak", "indicpositionalcategory",
    "indicsyllabiccategory", "inpc", "insc", "isc", "jamoshortname", "jg", "joininggroup",
    "joiningtype", "jsn", "jt", "kaccountingnumeric", "kcompatibilityvariant", "kehcat", "kehdesc",
    "kehhg", "kehifao", "kehjsesh", "kehnomirror", "kehnorotate", "kiicore", "kirggsource",
    "kirghsource", "kirgjsource", "kirgkpsource", "kirgksource", "kirgmsource", "kirgssource",
    "kirgtsource", "kirguksource", "kirgusource", "kirgvsource", "kothernumeric",
    "kprimarynumeric", "krsunicode", "lb", "lc", "linebreak", "lowercasemapping", "na", "na1",
    "name", "namealias", "nfcqc", "nfcquickcheck", "nfdqc", "nfdquickcheck", "nfkccasefold",
    "nfkccf", "nfkcqc", "nfkcquickcheck", "nfkcscf", "nfkcsimplecasefold", "nfkdqc",
    "nfkdquickcheck", "nt", "numerictype", "numericvalue", "nv", "ocomment", "sb", "sc", "scf",
    "script", "scriptextensions", "scx", "sentencebreak", "sfc", "simplecasefolding",
    "simplelowercasemapping", "simpletitlecasemapping", "simpleuppercasemapping", "slc", "stc",
    "suc", "tc", "titlecasemapping", "uc", "unicode1name", "unicoderadicalstroke",
    "uppercasemapping", "urs", "verticalorientation", "vo", "wb", "wordbreak", "xonfc", "xonfd",
    "xonfkc", "xonfkd"]

/-- The members of the binary property with the loose name `name`. -/
def binaryProperty? (name : String) : Option CodePoints :=
  (derivedProperty? name).or (ListedProperty.find? name)

/-- Why a property query selects no class. -/
inductive PropertyFault where
  /-- No property has the name. -/
  | unknownProperty
  /-- The property has no such value. -/
  | unknownValue
  deriving DecidableEq, Repr

/-- The class that a name alone selects: a binary property, else a general category, else a script.
`cf`, `sc` and `lc` abbreviate properties too, and stand for the categories. -/
def classOf (name : List Char) : Except PropertyFault CodePoints :=
  let name := looseName name
  let isCategory := name = "cf" ∨ name = "sc" ∨ name = "lc"
  match if isCategory then none else binaryProperty? name with
  | some s => .ok s
  | none =>
    if !isCategory && classlessProperties.contains name then .error .unknownProperty
    else match generalCategory? name with
      | some s => .ok s
      | none => match script? name with
        | some s => .ok s.members
        | none => .error (if isEmptyValue name then .unknownValue else .unknownProperty)

/-- The class of the characters whose property `name` has the value `value`. -/
def classOfValue (name value : List Char) : Except PropertyFault CodePoints :=
  let name := looseName name
  let value := looseName value
  let found : Option CodePoints :=
    match name with
    | "gc" | "generalcategory" => generalCategory? value
    | "sc" | "script" => (script? value).map Script.members
    | "scx" | "scriptextensions" => (script? value).map Script.extendedMembers
    | "age" => assignedBy? value
    | "gcb" | "graphemeclusterbreak" => PropertyValue.find? graphemeClusterBreak value
    | "wb" | "wordbreak" => PropertyValue.find? wordBreak value
    | "sb" | "sentencebreak" => PropertyValue.find? sentenceBreak value
    | _ => none
  match found with
  | some s => .ok s
  | none =>
    if classlessProperties.contains name || (binaryProperty? name).isSome then .error .unknownValue
    else .error .unknownProperty

end Telemetry.Unicode
