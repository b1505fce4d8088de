import LocaleSite.Regex.Tree

/-!
# Properties of characters

The properties that a regular expression may ask for, by all their names: properties that hold or
do not hold, general categories, scripts, and the values of a few other properties. Names are
compared without regard to case, spaces, hyphens, underscores and a leading `is`.
-/

namespace LocaleSite.PropertyQuery

/-- A name in the form in which names are compared. The name `isc` does not lose its `is`. -/
def normalized (name : String) : String :=
  let chars := name.toList
  let startsWithIs := match chars with
    | i :: s :: _ => i.toLower == 'i' && s.toLower == 's'
    | _ => false
  let kept := ((if startsWithIs then chars.drop 2 else chars).filter fun c =>
    c.toNat < 128 && c != ' ' && c != '_' && c != '-').map Char.toLower
  if startsWithIs && kept == ['c'] then "isc" else String.ofList kept

/-- The properties that hold or do not hold. -/
def binaryProperties : List String :=
  ["ahex", "asciihexdigit", "alpha", "alphabetic", "bidic", "bidicontrol", "cased", "ci",
    "caseignorable", "cwcf", "changeswhencasefolded", "cwcm", "changeswhencasemapped", "cwl",
    "changeswhenlowercased", "cwt", "changeswhentitlecased", "cwu", "changeswhenuppercased", "dash",
    "dep", "deprecated", "di", "defaultignorablecodepoint", "dia", "diacritic", "ebase",
    "emojimodifierbase", "ecomp", "emojicomponent", "emod", "emojimodifier", "emoji", "epres",
    "emojipresentation", "ext", "extender", "extpict", "extendedpictographic", "grbase",
    "graphemebase", "grext", "graphemeextend", "grlink", "graphemelink", "hex", "hexdigit",
    "hyphen", "idc", "idcontinue", "idcompatmathcontinue", "idcompatmathstart", "ideo",
    "ideographic", "ids", "idstart", "idsb", "idsbinaryoperator", "idst", "idstrinaryoperator",
    "idsu", "idsunaryoperator", "joinc", "joincontrol", "loe", "logicalorderexception", "lower",
    "lowercase", "math", "mcm", "modifiercombiningmark", "nchar", "noncharactercodepoint", "oalpha",
    "otheralphabetic", "odi", "otherdefaultignorablecodepoint", "ogrext", "othergraphemeextend",
    "oidc", "otheridcontinue", "oids", "otheridstart", "olower", "otherlowercase", "omath",
    "othermath", "oupper", "otheruppercase", "patsyn", "patternsyntax", "patws",
    "patternwhitespace", "pcm", "prependedconcatenationmark", "qmark", "quotationmark", "radical",
    "ri", "regionalindicator", "sd", "softdotted", "sterm", "sentenceterminal", "term",
    "terminalpunctuation", "uideo", "unifiedideograph", "upper", "uppercase", "vs",
    "variationselector", "wspace", "whitespace", "space", "xidc", "xidcontinue", "xids", "xidstart"]

/-- The general categories, and the classes of all, all assigned and all ASCII characters. -/
def generalCategories : List String :=
  ["any", "ascii", "assigned", "c", "other", "cc", "control", "cntrl", "cf", "format", "cn",
    "unassigned", "co", "privateuse", "l", "letter", "lc", "casedletter", "ll", "lowercaseletter",
    "lm", "modifierletter", "lo", "otherletter", "lt", "titlecaseletter", "lu", "uppercaseletter",
    "m", "mark", "combiningmark", "mc", "spacingmark", "me", "enclosingmark", "mn",
    "nonspacingmark", "n", "number", "nd", "decimalnumber", "digit", "nl", "letternumber", "no",
    "othernumber", "p", "punctuation", "punct", "pc", "connectorpunctuation", "pd",
    "dashpunctuation", "pe", "closepunctuation", "pf", "finalpunctuation", "pi",
    "initialpunctuation", "po", "otherpunctuation", "ps", "openpunctuation", "s", "symbol", "sc",
    "currencysymbol", "sk", "modifiersymbol", "sm", "mathsymbol", "so", "othersymbol", "z",
    "separator", "zl", "lineseparator", "zp", "paragraphseparator", "zs", "spaceseparator"]

/-- The scripts. -/
def scripts : List String :=
  ["adlm", "adlam", "aghb", "caucasianalbanian", "ahom", "arab", "arabic", "armi",
    "imperialaramaic", "armn", "armenian", "avst", "avestan", "bali", "balinese", "bamu", "bamum",
    "bass", "bassavah", "batk", "batak", "beng", "bengali", "bhks", "bhaiksuki", "bopo", "bopomofo",
    "brah", "brahmi", "brai", "braille", "bugi", "buginese", "buhd", "buhid", "cakm", "chakma",
    "cans", "canadianaboriginal", "cari", "carian", "cham", "cher", "cherokee", "chrs",
    "chorasmian", "copt", "coptic", "qaac", "cpmn", "cyprominoan", "cprt", "cypriot", "cyrl",
    "cyrillic", "deva", "devanagari", "diak", "divesakuru", "dogr", "dogra", "dsrt", "deseret",
    "dupl", "duployan", "egyp", "egyptianhieroglyphs", "elba", "elbasan", "elym", "elymaic", "ethi",
    "ethiopic", "gara", "garay", "geor", "georgian", "glag", "glagolitic", "gong", "gunjalagondi",
    "gonm", "masaramgondi", "goth", "gothic", "gran", "grantha", "grek", "greek", "gujr",
    "gujarati", "gukh", "gurungkhema", "guru", "gurmukhi", "hang", "hangul", "hani", "han", "hano",
    "hanunoo", "hatr", "hatran", "hebr", "hebrew", "hira", "hiragana", "hluw",
    "anatolianhieroglyphs", "hmng", "pahawhhmong", "hmnp", "nyiakengpuachuehmong", "hung",
    "oldhungarian", "ital", "olditalic", "java", "javanese", "kali", "kayahli", "kana", "katakana",
    "kawi", "khar", "kharoshthi", "khmr", "khmer", "khoj", "khojki", "kits", "khitansmallscript",
    "knda", "kannada", "krai", "kiratrai", "kthi", "kaithi", "lana", "taitham", "laoo", "lao",
    "latn", "latin", "lepc", "lepcha", "limb", "limbu", "lina", "lineara", "linb", "linearb",
    "lisu", "lyci", "lycian", "lydi", "lydian", "mahj", "mahajani", "maka", "makasar", "mand",
    "mandaic", "mani", "manichaean", "marc", "marchen", "medf", "medefaidrin", "mend",
    "mendekikakui", "merc", "meroiticcursive", "mero", "meroitichieroglyphs", "mlym", "malayalam",
    "modi", "mong", "mongolian", "mroo", "mro", "mtei", "meeteimayek", "mult", "multani", "mymr",
    "myanmar", "nagm", "nagmundari", "nand", "nandinagari", "narb", "oldnortharabian", "nbat",
    "nabataean", "newa", "nkoo", "nko", "nshu", "nushu", "ogam", "ogham", "olck", "olchiki", "onao",
    "olonal", "orkh", "oldturkic", "orya", "oriya", "osge", "osage", "osma", "osmanya", "ougr",
    "olduyghur", "palm", "palmyrene", "pauc", "paucinhau", "perm", "oldpermic", "phag", "phagspa",
    "phli", "inscriptionalpahlavi", "phlp", "psalterpahlavi", "phnx", "phoenician", "plrd", "miao",
    "prti", "inscriptionalparthian", "rjng", "rejang", "rohg", "hanifirohingya", "runr", "runic",
    "samr", "samaritan", "sarb", "oldsoutharabian", "saur", "saurashtra", "sgnw", "signwriting",
    "shaw", "shavian", "shrd", "sharada", "sidd", "siddham", "sind", "khudawadi", "sinh", "sinhala",
    "sogd", "sogdian", "sogo", "oldsogdian", "sora", "sorasompeng", "soyo", "soyombo", "sund",
    "sundanese", "sunu", "sunuwar", "sylo", "sylotinagri", "syrc", "syriac", "tagb", "tagbanwa",
    "takr", "takri", "tale", "taile", "talu", "newtailue", "taml", "tamil", "tang", "tangut",
    "tavt", "taiviet", "telu", "telugu", "tfng", "tifinagh", "tglg", "tagalog", "thaa", "thaana",
    "thai", "tibt", "tibetan", "tirh", "tirhuta", "tnsa", "tangsa", "todr", "todhri", "toto",
    "tutg", "tulutigalari", "ugar", "ugaritic", "vaii", "vai", "vith", "vithkuqi", "wara",
    "warangciti", "wcho", "wancho", "xpeo", "oldpersian", "xsux", "cuneiform", "yezi", "yezidi",
    "yiii", "yi", "zanb", "zanabazarsquare", "zinh", "inherited", "qaai", "zyyy", "common"]

/-- The versions of the standard, as values of the property Age. -/
def ages : List String :=
  ["1.1", "2.0", "2.1", "3.0", "3.1", "3.2", "4.0", "4.1", "5.0", "5.1", "5.2", "6.0", "6.1", "6.2",
    "6.3", "7.0", "8.0", "9.0", "10.0", "11.0", "12.0", "12.1", "13.0", "14.0", "15.0", "15.1",
    "16.0", "v11", "v20", "v21", "v30", "v31", "v32", "v40", "v41", "v50", "v51", "v52", "v60",
    "v61", "v62", "v63", "v70", "v80", "v90", "v100", "v110", "v120", "v121", "v130", "v140",
    "v150", "v151", "v160"]

/-- The values of Grapheme_Cluster_Break. -/
def graphemeBreaks : List String :=
  ["cn", "control", "cr", "ex", "extend", "l", "lf", "lv", "lvt", "pp", "prepend", "ri",
    "regionalindicator", "sm", "spacingmark", "t", "v", "zwj"]

/-- The values of Word_Break. -/
def wordBreaks : List String :=
  ["le", "aletter", "cr", "dq", "doublequote", "extend", "ex", "extendnumlet", "fo", "format",
    "hl", "hebrewletter", "ka", "katakana", "lf", "ml", "midletter", "mn", "midnum", "mb",
    "midnumlet", "nl", "newline", "nu", "numeric", "ri", "regionalindicator", "sq", "singlequote",
    "wsegspace", "zwj"]

/-- The values of Sentence_Break. -/
def sentenceBreaks : List String :=
  ["at", "aterm", "cl", "close", "cr", "ex", "extend", "fo", "format", "lf", "lo", "lower", "nu",
    "numeric", "le", "oletter", "sc", "scontinue", "se", "sep", "sp", "st", "sterm", "up", "upper"]

/-- Whether there is such a property. -/
def isKnown : PropertyQuery → Bool
  | .name text =>
      let name := normalized text
      binaryProperties.contains name || generalCategories.contains name || scripts.contains name
  | .value left right =>
      let property := normalized left
      let wanted := normalized right
      if ["gc", "generalcategory"].contains property then generalCategories.contains wanted
      else if ["sc", "script", "scx", "scriptextensions"].contains property then
        scripts.contains wanted
      else if property == "age" then ages.contains wanted
      else if ["gcb", "graphemeclusterbreak"].contains property then graphemeBreaks.contains wanted
      else if ["wb", "wordbreak"].contains property then wordBreaks.contains wanted
      else if ["sb", "sentencebreak"].contains property then sentenceBreaks.contains wanted
      else false

end LocaleSite.PropertyQuery
