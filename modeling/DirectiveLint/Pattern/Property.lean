import DirectiveLint.Pattern.Segment
import DirectiveLint.Unicode.Age

/-!
# Named character properties

The sets that a pattern names by a property of Unicode: a general category, a script, an age,
a class of segments or a binary property.  Names are compared without regard to case, blanks,
underscores and hyphens, and a leading `is` is dropped.
-/

namespace DirectiveLint.Pattern

open Unicode

/-- The form in which the names of properties are compared.  The name `isc` keeps its first
letters, so that it is not the name of a category. -/
def looseName (name : Text) : Text :=
  let fold (t : Text) : Text :=
    (t.filter fun c => c.toNat < 0x80 && c != ' ' && c != '_' && c != '-').map Char.toLower
  match name with
  | i :: s :: rest =>
    if i.toLower == 'i' && s.toLower == 's' then
      if fold rest == ['c'] then "isc".toList else fold rest
    else fold name
  | _ => fold name

/-- The letters that stand for several categories, with their long names. -/
def categoryGroups : List (List String × List Category) :=
  [(["l", "letter"], [.lu, .ll, .lt, .lm, .lo]),
    (["lc", "casedletter"], [.lu, .ll, .lt]),
    (["m", "mark", "combiningmark"], [.mn, .mc, .me]),
    (["n", "number"], [.nd, .nl, .no]),
    (["p", "punctuation", "punct"], [.pc, .pd, .ps, .pe, .pi, .pf, .po]),
    (["s", "symbol"], [.sm, .sc, .sk, .so]),
    (["z", "separator"], [.zs, .zl, .zp])]

/-- The set that a general category or a group of them names. -/
def categoryNamed? (loose : Text) : Option CharSet :=
  let single := Category.all.find? fun c =>
    loose == looseName c.shortName.toList || loose == looseName c.longName.toList
  let group := categoryGroups.find? fun g => g.1.any (·.toList == loose)
  match single, group with
  | some c, _ => some (.among c.ranges)
  | none, some g => some (.ofCategories g.2)
  | none, none =>
    match String.ofList loose with
    | "any" => some .any
    | "assigned" => some .assigned
    | "ascii" => some (.range '\x00' '\x7f')
    | "digit" => some .digit
    | "cntrl" => some (.among Category.cc.ranges)
    | "cn" | "unassigned" => some (.compl .assigned)
    | "c" | "other" =>
      some (.unionOf [.among Category.cc.ranges, .among Category.cf.ranges,
        .among Category.co.ranges, .compl .assigned])
    | _ => none

/-- The script with a name. -/
def scriptNamed? (loose : Text) : Option Script :=
  match String.ofList loose with
  | "qaac" => some .coptic
  | "qaai" => some .inherited
  | _ =>
    Script.all.find? fun s =>
      loose == looseName s.name.toList || loose == looseName s.code.toList

/-- The characters that a script claims for itself. -/
def scriptSet (s : Script) : CharSet := .among s.ranges

/-- The characters that texts in a script use.  Those of `Common` and of `Inherited` are the
ones that no particular scripts share. -/
def scriptExtensionSet (s : Script) : CharSet :=
  if s.code == "Zyyy" || s.code == "Zinh" then
    .diff (.among s.ranges) (.unionOf (Script.allShared.map .among))
  else .union (.among s.ranges) (.among s.shared)

/-- The characters that were designated in a version or before it. -/
def ageNamed? (loose : Text) : Option CharSet :=
  let versions := Age.all.map fun a => (a.version.toList, a.ranges)
  match versions.findIdx? fun v => loose == v.1 || loose == 'v' :: v.1.filter (· != '.') with
  | some i => some (.unionOf ((versions.take (i + 1)).map (CharSet.among ·.2)))
  | none => none

/-- The characters that start names. -/
def nameStart : CharSet :=
  .diff (.union (.ofCategories [.lu, .ll, .lt, .lm, .lo, .nl]) (.among Binary.otherIdStart))
    (.range '\u2e2f' '\u2e2f')

/-- The characters that continue names. -/
def nameContinue : CharSet :=
  .unionOf [nameStart, .ofCategories [.mn, .mc, .nd, .pc], .among Binary.otherIdContinue]

/-- The characters that a lowercase mapping changes. -/
def lowercased : CharSet :=
  .diff (.union .uppercase (.ofCategories [.lt])) (.among Binary.unloweredCapitals)

/-- The characters that an uppercase mapping changes. -/
def uppercased : CharSet :=
  .diff (.union .lowercase (.ofCategories [.lt])) (.among Binary.uncapitalized)

/-- The characters that a titlecase mapping changes. -/
def titlecased : CharSet :=
  .diff (.union uppercased (.among Binary.titlecaseOnly)) (.among Binary.uppercaseOnly)

/-- The set among named ones that a name stands for. -/
def setNamed? (sets : List (List String × CharSet)) (loose : Text) : Option CharSet :=
  (sets.find? (·.1.any (·.toList == loose))).map (·.2)

/-- The binary properties with their names. -/
def binaryProperties : List (List String × CharSet) :=
  [(["alphabetic", "alpha"], .alphabetic),
    (["asciihexdigit", "ahex"], .unionOf [.asciiDigit, .range 'A' 'F', .range 'a' 'f']),
    (["bidicontrol", "bidic"], .among Binary.bidiControl),
    (["bidimirrored", "bidim"], .among Binary.bidiMirrored),
    (["caseignorable", "ci"],
      .union (.ofCategories [.mn, .me, .cf, .lm, .sk]) (.among Binary.otherCaseIgnorable)),
    (["cased"], .unionOf [.uppercase, .lowercase, .ofCategories [.lt]]),
    (["changeswhencasefolded", "cwcf"],
      .diff (.union lowercased (.among Binary.foldedOnly)) (.among Binary.loweredOnly)),
    (["changeswhencasemapped", "cwcm"], .unionOf [lowercased, uppercased, titlecased]),
    (["changeswhenlowercased", "cwl"], lowercased),
    (["changeswhentitlecased", "cwt"], titlecased),
    (["changeswhenuppercased", "cwu"], uppercased),
    (["dash"], .among Binary.dash),
    (["defaultignorablecodepoint", "di"], .among Binary.defaultIgnorableCodePoint),
    (["deprecated", "dep"], .among Binary.deprecated),
    (["diacritic", "dia"], .among Binary.diacritic),
    (["emoji"], .among Binary.emoji),
    (["emojicomponent", "ecomp"], .among Binary.emojiComponent),
    (["emojimodifier", "emod"], .among Binary.emojiModifier),
    (["emojimodifierbase", "ebase"], .among Binary.emojiModifierBase),
    (["emojipresentation", "epres"], .among Binary.emojiPresentation),
    (["extendedpictographic", "extpict"], .among Binary.extendedPictographic),
    (["extender", "ext"], .among Binary.extender),
    (["graphemebase", "grbase"],
      .diff .assigned (.union .extending (.ofCategories [.cc, .cf, .co, .zl, .zp]))),
    (["graphemeextend", "grext"], .extending),
    (["graphemelink", "grlink"], .among Binary.graphemeLink),
    (["hexdigit", "hex"], .among Binary.hexDigit),
    (["hyphen"], .among Binary.hyphen),
    (["idcompatmathcontinue"],
      .union (.among Binary.compatMathStart) (.among Binary.compatMathContinue)),
    (["idcompatmathstart"], .among Binary.compatMathStart),
    (["idcontinue", "idc"], nameContinue),
    (["idstart", "ids"], nameStart),
    (["ideographic", "ideo"], .among Binary.ideographic),
    (["idsbinaryoperator", "idsb"], .among Binary.idsBinaryOperator),
    (["idstrinaryoperator", "idst"], .among Binary.idsTrinaryOperator),
    (["idsunaryoperator", "idsu"], .range '\u2ffe' '\u2fff'),
    (["joincontrol", "joinc"], .range '\u200c' '\u200d'),
    (["logicalorderexception", "loe"], .among Binary.logicalOrderException),
    (["lowercase", "lower"], .lowercase),
    (["math"], .union (.ofCategories [.sm]) (.among Binary.otherMath)),
    (["modifiercombiningmark", "mcm"], .among Binary.modifierCombiningMark),
    (["noncharactercodepoint", "nchar"], .among Binary.noncharacterCodePoint),
    (["otheralphabetic", "oalpha"], .among otherAlphabetic),
    (["otherdefaultignorablecodepoint", "odi"], .among Binary.otherIgnorable),
    (["othergraphemeextend", "ogrext"], .among otherExtending),
    (["otheridcontinue", "oidc"], .among Binary.otherIdContinue),
    (["otheridstart", "oids"], .among Binary.otherIdStart),
    (["otherlowercase", "olower"], .among otherLowercase),
    (["othermath", "omath"], .among Binary.otherMath),
    (["otheruppercase", "oupper"], .among otherUppercase),
    (["patternsyntax", "patsyn"], .among Binary.patternSyntax),
    (["patternwhitespace", "patws"], .among Binary.patternWhiteSpace),
    (["prependedconcatenationmark", "pcm"], .among Binary.prependedConcatenationMark),
    (["quotationmark", "qmark"], .among Binary.quotationMark),
    (["radical"], .among Binary.radical),
    (["regionalindicator", "ri"], .among Binary.regionalIndicator),
    (["sentenceterminal", "sterm"], .among Binary.sentenceTerminal),
    (["softdotted", "sd"], .among Binary.softDotted),
    (["terminalpunctuation", "term"], .among Binary.terminalPunctuation),
    (["unifiedideograph", "uideo"], .among Binary.unifiedIdeograph),
    (["uppercase", "upper"], .uppercase),
    (["variationselector", "vs"], .among Binary.variationSelector),
    (["whitespace", "wspace", "space"], .space),
    (["xidcontinue", "xidc"], .diff nameContinue (.among Binary.unstableContinue)),
    (["xidstart", "xids"], .diff nameStart (.among Binary.unstableStart))]

/-- The set that a name without a value stands for. -/
def propertyNamed? (name : Text) : Option CharSet :=
  let loose := looseName name
  ((setNamed? binaryProperties loose).or (categoryNamed? loose)).or
    ((scriptNamed? loose).map scriptSet)

/-- The set that a property with a value stands for. -/
def propertyValued? (property value : Text) : Option CharSet :=
  let loose := looseName value
  match String.ofList (looseName property) with
  | "gc" | "generalcategory" => categoryNamed? loose
  | "sc" | "script" => (scriptNamed? loose).map scriptSet
  | "scx" | "scriptextensions" => (scriptNamed? loose).map scriptExtensionSet
  | "age" => ageNamed? loose
  | "gcb" | "graphemeclusterbreak" => setNamed? Segment.graphemes loose
  | "wb" | "wordbreak" => setNamed? Segment.words loose
  | "sb" | "sentencebreak" => setNamed? Segment.sentences loose
  | _ => none

end DirectiveLint.Pattern
