import NoteForms.Pattern.Fault

/-!
# Unicode properties in patterns

A pattern may ask for the characters of a property, or of a value of a property.  Names are compared
without case, blanks, low lines and hyphens, and a leading `is` is ignored.
-/

namespace NoteForms.Pattern

/-! ## Names -/

/-- Properties of characters that hold or do not. -/
def binaryProperties : List String :=
  [
    "ahex", "asciihexdigit", "alpha", "alphabetic", "bidic", "bidicontrol", "bidim", "bidimirrored",
    "ci", "caseignorable", "cased", "cwcf", "changeswhencasefolded", "cwcm",
    "changeswhencasemapped", "cwl", "changeswhenlowercased", "cwt", "changeswhentitlecased", "cwu",
    "changeswhenuppercased", "dash", "di", "defaultignorablecodepoint", "dep", "deprecated", "dia",
    "diacritic", "emoji", "ecomp", "emojicomponent", "emod", "emojimodifier", "ebase",
    "emojimodifierbase", "epres", "emojipresentation", "extpict", "extendedpictographic", "ext",
    "extender", "grbase", "graphemebase", "grext", "graphemeextend", "grlink", "graphemelink",
    "hex", "hexdigit", "hyphen", "idsb", "idsbinaryoperator", "idst", "idstrinaryoperator", "idsu",
    "idsunaryoperator", "idcompatmathcontinue", "idcompatmathstart", "idc", "idcontinue", "ids",
    "idstart", "ideo", "ideographic", "joinc", "joincontrol", "loe", "logicalorderexception",
    "lower", "lowercase", "math", "mcm", "modifiercombiningmark", "nchar", "noncharactercodepoint",
    "oalpha", "otheralphabetic", "odi", "otherdefaultignorablecodepoint", "ogrext",
    "othergraphemeextend", "oidc", "otheridcontinue", "oids", "otheridstart", "olower",
    "otherlowercase", "omath", "othermath", "oupper", "otheruppercase", "patsyn", "patternsyntax",
    "patws", "patternwhitespace", "pcm", "prependedconcatenationmark", "qmark", "quotationmark",
    "radical", "ri", "regionalindicator", "sterm", "sentenceterminal", "sd", "softdotted", "term",
    "terminalpunctuation", "uideo", "unifiedideograph", "upper", "uppercase", "vs",
    "variationselector", "wspace", "whitespace", "space", "xidc", "xidcontinue", "xids", "xidstart"
  ]

/-- Properties that no class can be asked for. -/
def otherProperties : List String :=
  [
    "bc", "bidiclass", "blk", "block", "bmg", "bidimirroringglyph", "bpb", "bidipairedbracket",
    "bpt", "bidipairedbrackettype", "ccc", "canonicalcombiningclass", "ce", "compositionexclusion",
    "cf", "casefolding", "cjkaccountingnumeric", "kaccountingnumeric", "cjkcompatibilityvariant",
    "kcompatibilityvariant", "cjkiicore", "kiicore", "cjkirggsource", "kirggsource",
    "cjkirghsource", "kirghsource", "cjkirgjsource", "kirgjsource", "cjkirgkpsource",
    "kirgkpsource", "cjkirgksource", "kirgksource", "cjkirgmsource", "kirgmsource", "cjkirgssource",
    "kirgssource", "cjkirgtsource", "kirgtsource", "cjkirguksource", "kirguksource",
    "cjkirgusource", "kirgusource", "cjkirgvsource", "kirgvsource", "cjkothernumeric",
    "kothernumeric", "cjkprimarynumeric", "kprimarynumeric", "cjkrsunicode", "krsunicode",
    "unicoderadicalstroke", "urs", "compex", "fullcompositionexclusion", "cwkcf",
    "changeswhennfkccasefolded", "dm", "decompositionmapping", "dt", "decompositiontype", "ea",
    "eastasianwidth", "equideo", "equivalentunifiedideograph", "fcnfkc", "fcnfkcclosure", "hst",
    "hangulsyllabletype", "incb", "indicconjunctbreak", "inpc", "indicpositionalcategory", "insc",
    "indicsyllabiccategory", "jsn", "jamoshortname", "jg", "joininggroup", "jt", "joiningtype",
    "lb", "linebreak", "lc", "lowercasemapping", "na", "name", "na1", "unicode1name", "namealias",
    "nfcqc", "nfcquickcheck", "nfdqc", "nfdquickcheck", "nfkccf", "nfkccasefold", "nfkcqc",
    "nfkcquickcheck", "nfkcscf", "nfkcsimplecasefold", "nfkdqc", "nfkdquickcheck", "nt",
    "numerictype", "nv", "numericvalue", "scf", "sfc", "simplecasefolding", "slc",
    "simplelowercasemapping", "stc", "simpletitlecasemapping", "suc", "simpleuppercasemapping",
    "tc", "titlecasemapping", "uc", "uppercasemapping", "vo", "verticalorientation", "xonfc",
    "expandsonnfc", "xonfd", "expandsonnfd", "xonfkc", "expandsonnfkc", "xonfkd", "expandsonnfkd",
    "isc", "isocomment"
  ]

/-- General categories, and three sets beside them. -/
def categoryNames : List String :=
  [
    "c", "other", "cc", "control", "cntrl", "cf", "format", "cn", "unassigned", "co", "privateuse",
    "l", "letter", "lc", "casedletter", "ll", "lowercaseletter", "lm", "modifierletter", "lo",
    "otherletter", "lt", "titlecaseletter", "lu", "uppercaseletter", "m", "mark", "combiningmark",
    "mc", "spacingmark", "me", "enclosingmark", "mn", "nonspacingmark", "n", "number", "nd",
    "decimalnumber", "digit", "nl", "letternumber", "no", "othernumber", "p", "punctuation",
    "punct", "pc", "connectorpunctuation", "pd", "dashpunctuation", "pe", "closepunctuation", "pf",
    "finalpunctuation", "pi", "initialpunctuation", "po", "otherpunctuation", "ps",
    "openpunctuation", "s", "symbol", "sc", "currencysymbol", "sk", "modifiersymbol", "sm",
    "mathsymbol", "so", "othersymbol", "z", "separator", "zl", "lineseparator", "zp",
    "paragraphseparator", "zs", "spaceseparator", "any", "assigned", "ascii"
  ]

/-- Scripts. -/
def scriptNames : List String :=
  [
    "adlam", "adlm", "caucasianalbanian", "aghb", "ahom", "arabic", "arab", "imperialaramaic",
    "armi", "armenian", "armn", "avestan", "avst", "balinese", "bali", "bamum", "bamu", "bassavah",
    "bass", "batak", "batk", "bengali", "beng", "bhaiksuki", "bhks", "bopomofo", "bopo", "brahmi",
    "brah", "braille", "brai", "buginese", "bugi", "buhid", "buhd", "chakma", "cakm",
    "canadianaboriginal", "cans", "carian", "cari", "cham", "cherokee", "cher", "chorasmian",
    "chrs", "coptic", "copt", "qaac", "cyprominoan", "cpmn", "cypriot", "cprt", "cyrillic", "cyrl",
    "devanagari", "deva", "divesakuru", "diak", "dogra", "dogr", "deseret", "dsrt", "duployan",
    "dupl", "egyptianhieroglyphs", "egyp", "elbasan", "elba", "elymaic", "elym", "ethiopic", "ethi",
    "garay", "gara", "georgian", "geor", "glagolitic", "glag", "gunjalagondi", "gong",
    "masaramgondi", "gonm", "gothic", "goth", "grantha", "gran", "greek", "grek", "gujarati",
    "gujr", "gurungkhema", "gukh", "gurmukhi", "guru", "hangul", "hang", "han", "hani", "hanunoo",
    "hano", "hatran", "hatr", "hebrew", "hebr", "hiragana", "hira", "anatolianhieroglyphs", "hluw",
    "pahawhhmong", "hmng", "nyiakengpuachuehmong", "hmnp", "oldhungarian", "hung", "olditalic",
    "ital", "javanese", "java", "kayahli", "kali", "katakana", "kana", "kawi", "kharoshthi", "khar",
    "khmer", "khmr", "khojki", "khoj", "khitansmallscript", "kits", "kannada", "knda", "kiratrai",
    "krai", "kaithi", "kthi", "taitham", "lana", "lao", "laoo", "latin", "latn", "lepcha", "lepc",
    "limbu", "limb", "lineara", "lina", "linearb", "linb", "lisu", "lycian", "lyci", "lydian",
    "lydi", "mahajani", "mahj", "makasar", "maka", "mandaic", "mand", "manichaean", "mani",
    "marchen", "marc", "medefaidrin", "medf", "mendekikakui", "mend", "meroiticcursive", "merc",
    "meroitichieroglyphs", "mero", "malayalam", "mlym", "modi", "mongolian", "mong", "mro", "mroo",
    "meeteimayek", "mtei", "multani", "mult", "myanmar", "mymr", "nagmundari", "nagm",
    "nandinagari", "nand", "oldnortharabian", "narb", "nabataean", "nbat", "newa", "nko", "nkoo",
    "nushu", "nshu", "ogham", "ogam", "olchiki", "olck", "olonal", "onao", "oldturkic", "orkh",
    "oriya", "orya", "osage", "osge", "osmanya", "osma", "olduyghur", "ougr", "palmyrene", "palm",
    "paucinhau", "pauc", "oldpermic", "perm", "phagspa", "phag", "inscriptionalpahlavi", "phli",
    "psalterpahlavi", "phlp", "phoenician", "phnx", "miao", "plrd", "inscriptionalparthian", "prti",
    "rejang", "rjng", "hanifirohingya", "rohg", "runic", "runr", "samaritan", "samr",
    "oldsoutharabian", "sarb", "saurashtra", "saur", "signwriting", "sgnw", "shavian", "shaw",
    "sharada", "shrd", "siddham", "sidd", "khudawadi", "sind", "sinhala", "sinh", "sogdian", "sogd",
    "oldsogdian", "sogo", "sorasompeng", "sora", "soyombo", "soyo", "sundanese", "sund", "sunuwar",
    "sunu", "sylotinagri", "sylo", "syriac", "syrc", "tagbanwa", "tagb", "takri", "takr", "taile",
    "tale", "newtailue", "talu", "tamil", "taml", "tangut", "tang", "taiviet", "tavt", "telugu",
    "telu", "tifinagh", "tfng", "tagalog", "tglg", "thaana", "thaa", "thai", "tibetan", "tibt",
    "tirhuta", "tirh", "tangsa", "tnsa", "todhri", "todr", "toto", "tulutigalari", "tutg",
    "ugaritic", "ugar", "vai", "vaii", "vithkuqi", "vith", "warangciti", "wara", "wancho", "wcho",
    "oldpersian", "xpeo", "cuneiform", "xsux", "yezidi", "yezi", "yi", "yiii", "zanabazarsquare",
    "zanb", "inherited", "zinh", "qaai", "common", "zyyy"
  ]

/-- Versions of Unicode, as ages of characters. -/
def ageNames : List String :=
  [
    "1.1", "v11", "2.0", "v20", "2.1", "v21", "3.0", "v30", "3.1", "v31", "3.2", "v32", "4.0",
    "v40", "4.1", "v41", "5.0", "v50", "5.1", "v51", "5.2", "v52", "6.0", "v60", "6.1", "v61",
    "6.2", "v62", "6.3", "v63", "7.0", "v70", "8.0", "v80", "9.0", "v90", "10.0", "v100", "11.0",
    "v110", "12.0", "v120", "12.1", "v121", "13.0", "v130", "14.0", "v140", "15.0", "v150", "15.1",
    "v151", "16.0", "v160"
  ]

/-- Values of the property for clusters. -/
def clusterBreaks : List String :=
  [
    "cn", "control", "cr", "ex", "extend", "l", "lf", "lv", "lvt", "pp", "prepend", "ri",
    "regionalindicator", "sm", "spacingmark", "t", "v", "zwj"
  ]

/-- Values of the property for words. -/
def wordBreaks : List String :=
  [
    "le", "aletter", "cr", "dq", "doublequote", "extend", "ex", "extendnumlet", "fo", "format",
    "hl", "hebrewletter", "ka", "katakana", "lf", "ml", "midletter", "mn", "midnum", "mb",
    "midnumlet", "nl", "newline", "nu", "numeric", "ri", "regionalindicator", "sq", "singlequote",
    "wsegspace", "zwj"
  ]

/-- Values of the property for sentences. -/
def sentenceBreaks : List String :=
  [
    "at", "aterm", "cl", "close", "cr", "ex", "extend", "fo", "format", "lf", "lo", "lower", "nu",
    "numeric", "le", "oletter", "sc", "scontinue", "se", "sep", "sp", "st", "sterm", "up", "upper"
  ]

/-- Values that are known by name although no character has them. -/
def emptyValues : List String :=
  ["cs", "surrogate", "katakanaorhiragana", "hrkt", "unknown", "zzzz"]

/-- The properties whose values can be asked for. -/
def valuedProperties : List (List String × List String) :=
  [(["gc", "generalcategory"], categoryNames), (["sc", "script"], scriptNames),
    (["scx", "scriptextensions"], scriptNames), (["age"], ageNames),
    (["gcb", "graphemeclusterbreak"], clusterBreaks), (["wb", "wordbreak"], wordBreaks),
    (["sb", "sentencebreak"], sentenceBreaks)]

/-! ## Comparing names -/

/-- Whether a name has `is` in front, in either case. -/
def hasIs : List Char → Bool
  | i :: s :: _ => (i = 'i' || i = 'I') && (s = 's' || s = 'S')
  | _ => false

/-- The characters of a name that are compared, in lower case. -/
def comparedChars (name : List Char) : List Char :=
  (name.filter fun c => c.toNat < 128 && c != ' ' && c != '_' && c != '-').map Char.toLower

/-- A name as it is compared.  The abbreviation `isc` is not taken for `is` and a `c`. -/
def comparedName (name : String) : String :=
  if hasIs name.toList then
    let rest := comparedChars (name.toList.drop 2)
    if rest = ['c'] then "isc" else String.ofList rest
  else String.ofList (comparedChars name.toList)

/-! ## Asking -/

/-- What is wrong with asking for a property by one name.  Three abbreviations stand for general
categories and not for the properties of the same abbreviation. -/
def namedProblem (name : String) : Option Problem :=
  if binaryProperties.contains name then none
  else if ["cf", "sc", "lc"].contains name then none
  else if otherProperties.contains name then some .propertyUnknown
  else if valuedProperties.any (fun p => p.1.contains name) then some .propertyUnknown
  else if categoryNames.contains name || scriptNames.contains name then none
  else if emptyValues.contains name then some .propertyValueUnknown
  else some .propertyUnknown

/-- What is wrong with asking for a value of a property. -/
def valuedProblem (name value : String) : Option Problem :=
  match valuedProperties.find? fun p => p.1.contains name with
  | some p => if p.2.contains value then none else some .propertyValueUnknown
  | none =>
    if binaryProperties.contains name || otherProperties.contains name then
      some .propertyValueUnknown
    else some .propertyUnknown

/-- What is wrong with a query, if anything is. -/
def PropertyQuery.problem? : PropertyQuery → Option Problem
  | .named name => namedProblem (comparedName name)
  | .valued name value => valuedProblem (comparedName name) (comparedName value)

end NoteForms.Pattern
