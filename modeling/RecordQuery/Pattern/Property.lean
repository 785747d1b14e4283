import RecordQuery.Pattern.Written
import RecordQuery.Unicode.Age
import RecordQuery.Unicode.CaseMap
import RecordQuery.Unicode.ScriptExtension
import RecordQuery.Unicode.Segmentation
import RecordQuery.Unicode.Property

/-!
# Named properties

Which characters a name of a property in a pattern stands for.  Names are compared loosely:
case, blanks, dashes, underscores, characters beyond ASCII and a leading `is` do not count.

* `normalise` — the form in which names are compared;
* `PropertyName.set?` — the characters of a property, if it is known.
-/

namespace RecordQuery.Pattern

/-- The properties that hold or do not hold, with their names. -/
def binaryProperties : List (String × CodePointSet) :=
  [("ahex asciihexdigit", Unicode.asciiHexDigit),
    ("alpha alphabetic", Unicode.alphabetic),
    ("bidic bidicontrol", Unicode.bidiControl),
    ("bidim bidimirrored", Unicode.bidiMirrored),
    ("ci caseignorable", Unicode.caseIgnorable),
    ("cased", Unicode.cased),
    ("cwcf changeswhencasefolded", Unicode.changesWhenCasefolded),
    ("cwcm changeswhencasemapped", Unicode.changesWhenCasemapped),
    ("cwl changeswhenlowercased", Unicode.changesWhenLowercased),
    ("cwt changeswhentitlecased", Unicode.changesWhenTitlecased),
    ("cwu changeswhenuppercased", Unicode.changesWhenUppercased),
    ("dash", Unicode.dash),
    ("dep deprecated", Unicode.deprecated),
    ("di defaultignorablecodepoint", Unicode.defaultIgnorable),
    ("dia diacritic", Unicode.diacritic),
    ("ebase emojimodifierbase", Unicode.emojiModifierBase),
    ("ecomp emojicomponent", Unicode.emojiComponent),
    ("emod emojimodifier", Unicode.emojiModifier),
    ("emoji", Unicode.emoji),
    ("epres emojipresentation", Unicode.emojiPresentation),
    ("ext extender", Unicode.extender),
    ("extpict extendedpictographic", Unicode.extendedPictographic),
    ("grbase graphemebase", Unicode.graphemeBase),
    ("grext graphemeextend", Unicode.graphemeExtend),
    ("grlink graphemelink", Unicode.graphemeLink),
    ("hex hexdigit", Unicode.hexDigit),
    ("hyphen", Unicode.hyphen),
    ("idc idcontinue", Unicode.idContinue),
    ("idcompatmathcontinue", Unicode.idCompatMathContinue),
    ("idcompatmathstart", Unicode.idCompatMathStart),
    ("ideo ideographic", Unicode.ideographic),
    ("ids idstart", Unicode.idStart),
    ("idsb idsbinaryoperator", Unicode.idsBinaryOperator),
    ("idst idstrinaryoperator", Unicode.idsTrinaryOperator),
    ("idsu idsunaryoperator", Unicode.idsUnaryOperator),
    ("joinc joincontrol", Unicode.joinControl),
    ("loe logicalorderexception", Unicode.logicalOrderException),
    ("lower lowercase", Unicode.lowercase),
    ("math", Unicode.math),
    ("mcm modifiercombiningmark", Unicode.modifierCombiningMark),
    ("nchar noncharactercodepoint", Unicode.noncharacter),
    ("oalpha otheralphabetic", Unicode.otherAlphabetic),
    ("odi otherdefaultignorablecodepoint", Unicode.otherDefaultIgnorable),
    ("ogrext othergraphemeextend", Unicode.otherGraphemeExtend),
    ("oidc otheridcontinue", Unicode.otherIdContinue),
    ("oids otheridstart", Unicode.otherIdStart),
    ("olower otherlowercase", Unicode.otherLowercase),
    ("omath othermath", Unicode.otherMath),
    ("oupper otheruppercase", Unicode.otherUppercase),
    ("patsyn patternsyntax", Unicode.patternSyntax),
    ("patws patternwhitespace", Unicode.patternWhiteSpace),
    ("pcm prependedconcatenationmark", Unicode.prependedMark),
    ("qmark quotationmark", Unicode.quotationMark),
    ("radical", Unicode.radical),
    ("ri regionalindicator", Unicode.regionalIndicator),
    ("sd softdotted", Unicode.softDotted),
    ("sterm sentenceterminal", Unicode.sentenceTerminal),
    ("term terminalpunctuation", Unicode.terminalPunctuation),
    ("uideo unifiedideograph", Unicode.unifiedIdeograph),
    ("upper uppercase", Unicode.uppercase),
    ("vs variationselector", Unicode.variationSelector),
    ("wspace whitespace space", Unicode.whiteSpace),
    ("xidc xidcontinue", Unicode.xidContinue),
    ("xids xidstart", Unicode.xidStart)]

/-- Looks a name up in a table whose entries have several names. -/
def lookUp? (table : List (String × CodePointSet)) (name : String) : Option CodePointSet :=
  (table.find? fun e => (e.1.splitOn " ").contains name).map Prod.snd

/-- What a version of the standard knew: all that it and the versions before it added. -/
def knownAt? (version : String) : List (String × CodePointSet) → Option CodePointSet
  | [] => none
  | (names, added) :: later =>
    if (names.splitOn " ").contains version then some added
    else (knownAt? version later).map added.union

/-- Removes a leading `is` in any case. -/
def dropIs : List Char → Option (List Char)
  | i :: s :: cs => if (i == 'i' || i == 'I') && (s == 's' || s == 'S') then some cs else none
  | _ => none

/-- The characters of a name that count, in lower case. -/
def countingCharacters (cs : List Char) : List Char :=
  (cs.filter fun c => c.toNat < 0x80 && c != ' ' && c != '_' && c != '-').map Char.toLower

/-- The form in which names are compared.  One name, which would be a single letter without its
first two, keeps them. -/
def normalise (cs : List Char) : String :=
  match dropIs cs with
  | some rest =>
    let name := String.ofList (countingCharacters rest)
    if name = "c" then "isc" else name
  | none => String.ofList (countingCharacters cs)

/-- The names that are those of a category although a property has them, too. -/
def categoryNames : List String := ["cf", "sc", "lc"]

/-- The characters of a property without a value, of a category or of a script. -/
def namedSet? (name : String) : Option CodePointSet :=
  let binary := if categoryNames.contains name then none else lookUp? binaryProperties name
  binary <|> lookUp? Unicode.categories name <|> lookUp? Unicode.scripts name

/-- The characters for which a property has a value. -/
def valuedSet? (name value : String) : Option CodePointSet :=
  match name with
  | "gc" | "generalcategory" => lookUp? Unicode.categories value
  | "sc" | "script" => lookUp? Unicode.scripts value
  | "scx" | "scriptextensions" => lookUp? Unicode.scriptExtensions value
  | "age" => knownAt? value Unicode.ages
  | "gcb" | "graphemeclusterbreak" => lookUp? Unicode.graphemeBreaks value
  | "wb" | "wordbreak" => lookUp? Unicode.wordBreaks value
  | "sb" | "sentencebreak" => lookUp? Unicode.sentenceBreaks value
  | _ => none

/-- The characters of a property. -/
def PropertyName.set? : PropertyName → Option CodePointSet
  | named name => namedSet? (normalise name)
  | valued name value => valuedSet? (normalise name) (normalise value)

end RecordQuery.Pattern
