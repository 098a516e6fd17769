import DirectiveLint.Pattern.CharSet
import DirectiveLint.Unicode.Binary
import DirectiveLint.Unicode.Script

/-!
# Segments

The classes of characters between which texts part into graphemes, words and sentences.
Each is a set with its names; a class that holds all other characters has no set.
-/

namespace DirectiveLint.Pattern.Segment

open Unicode

/-- The code points of ranges given in hexadecimal. -/
def hex (rows : List String) : CharSet := .among (.ofHex rows)

/-- The marks that make up a grapheme with the character before them. -/
def attaching : CharSet := .union .extending (.among Binary.emojiModifier)

/-- The marks that make up a word with the character before them. -/
def joining : CharSet := .union attaching (.ofCategories [.mc])

/-- The format controls that neither attach nor join. -/
def formats : CharSet :=
  .diff (.ofCategories [.cf]) (.union .extending (.range '\u200c' '\u200d'))

/-- The Hangul syllables that end in a vowel: every twenty-eighth. -/
def openSyllables : CharSet :=
  .among ((List.range 399).map fun n => (0xAC00 + 28 * n, 0xAC00 + 28 * n))

/-- The classes for graphemes. -/
def graphemes : List (List String × CharSet) :=
  [(["cn", "control"],
      .diff
        (.union (.ofCategories [.zl, .zp, .cc, .cf])
          (.diff (.among Binary.defaultIgnorableCodePoint) .assigned))
        (.unionOf [.extending, .among Binary.prependedConcatenationMark, .single '\r', .single '\n',
          .single '\u200d'])),
    (["cr"], .single '\r'),
    (["ex", "extend"], attaching),
    (["l"], hex ["1100-115F A960-A97C"]),
    (["lf"], .single '\n'),
    (["lv"], openSyllables),
    (["lvt"], .diff (hex ["AC00-D7A3"]) openSyllables),
    (["pp", "prepend"],
      .union (.among Binary.prependedConcatenationMark)
        (hex ["D4E 111C2-111C3 113D1 1193F 11941 11A3A 11A84-11A89 11D46 11F02"])),
    (["ri", "regionalindicator"], .among Binary.regionalIndicator),
    (["sm", "spacingmark"],
      .diff (.union (.ofCategories [.mc]) (hex ["E33 EB3"]))
        (.union .extending
          (hex
            ["102B-102C 1038 1062-1064 1067-106D 1083 1087-108C 108F 109A-109C 1A61 1A63-1A64",
             "AA7B AA7D 11720-11721"]))),
    (["t"], hex ["11A8-11FF D7CB-D7FB"]),
    (["v"], hex ["1160-11A7 D7B0-D7C6 16D63 16D67-16D6A"]),
    (["zwj"], .single '\u200d')]

/-- The letters of words in Katakana. -/
def katakana : CharSet :=
  .union (.among Script.katakana.ranges) (hex ["3031-3035 309B-309C 30A0 30FC FF70"])

/-- The letters of words in Hebrew. -/
def hebrew : CharSet := .inter (.among Script.hebrew.ranges) (.ofCategories [.lo])

/-- The letters of scripts that do not part their words. -/
def unpartedLetters : CharSet :=
  hex
    ["E01-E30 E32-E33 E40-E46 E81-E82 E84 E86-E8A E8C-EA3 EA5 EA7-EB0 EB2-EB3 EBD EC0-EC4 EC6",
     "EDC-EDF 1000-102A 103F 1050-1055 105A-105D 1061 1065-1066 106E-1070 1075-1081 108E",
     "1780-17B3 17D7 17DC 1950-196D 1970-1974 1980-19AB 19B0-19C9 1A20-1A54 1AA7 A9E0-A9E4",
     "A9E6-A9EF A9FA-A9FE AA60-AA76 AA7A AA7E-AAAF AAB1 AAB5-AAB6 AAB9-AABD AAC0 AAC2",
     "AADB-AADD 11700-1171A 11740-11746"]

/-- Modifiers and marks that stand in words like letters. -/
def letterLike : CharSet :=
  hex
    ["2C2-2C5 2D2-2D7 2DE-2DF 2E5-2EB 2ED 2EF-2FF 55A-55C 55E 58A 5F3 A708-A716 A720-A721",
     "A789-A78A AB5B"]

/-- The classes for words. -/
def words : List (List String × CharSet) :=
  [(["le", "aletter"],
      .union letterLike
        (.diff .alphabetic
          (.unionOf [unpartedLetters, katakana, hebrew, joining, .among Binary.ideographic,
            .among Script.hiragana.ranges]))),
    (["cr"], .single '\r'),
    (["dq", "doublequote"], .single '"'),
    (["extend"], joining),
    (["ex", "extendnumlet"], .union (.ofCategories [.pc]) (.single '\u202f')),
    (["fo", "format"], .diff formats (.single '\u200b')),
    (["hl", "hebrewletter"], hebrew),
    (["ka", "katakana"], katakana),
    (["lf"], .single '\n'),
    (["mb", "midnumlet"], hex ["2E 2018-2019 2024 FE52 FF07 FF0E"]),
    (["ml", "midletter"], hex ["3A B7 387 55F 5F4 2027 FE13 FE55 FF1A"]),
    (["mn", "midnum"],
      hex ["2C 3B 37E 589 60C-60D 66C 7F8 2044 FE10 FE14 FE50 FE54 FF0C FF1B"]),
    (["nl", "newline"], hex ["B-C 85 2028-2029"]),
    (["nu", "numeric"], .union .digit (hex ["66B"])),
    (["ri", "regionalindicator"], .among Binary.regionalIndicator),
    (["sq", "singlequote"], .single '\''),
    (["wsegspace"], hex ["20 1680 2000-2006 2008-200A 205F 3000"]),
    (["zwj"], .single '\u200d')]

/-- The points that end sentences or stand in abbreviations. -/
def points : CharSet := hex ["2E 2024 FE52 FF0E"]

/-- The Georgian letters, of which none starts a sentence. -/
def georgian : CharSet := hex ["10D0-10FA 10FD-10FF 1C90-1CBA 1CBD-1CBF"]

/-- The lowercase letters of sentences. -/
def sentenceLower : CharSet := .diff .lowercase (.union .extending georgian)

/-- The uppercase letters of sentences. -/
def sentenceUpper : CharSet := .diff (.union .uppercase (.ofCategories [.lt])) georgian

/-- The classes for sentences. -/
def sentences : List (List String × CharSet) :=
  [(["at", "aterm"], points),
    (["cl", "close"],
      .diff
        (.unionOf [.ofCategories [.ps, .pe, .pi, .pf], .among Binary.quotationMark,
          hex ["275B-2760 2E00-2E01 2E06-2E08 2E0B 1F676-1F678"]])
        (hex ["FF02 FF07"])),
    (["cr"], .single '\r'),
    (["ex", "extend"], .unionOf [.extending, .ofCategories [.mc], .single '\u200d']),
    (["fo", "format"], formats),
    (["le", "oletter"],
      .diff (.unionOf [.alphabetic, georgian, .single '\u05f3'])
        (.unionOf [sentenceLower, sentenceUpper, joining])),
    (["lf"], .single '\n'),
    (["lo", "lower"], sentenceLower),
    (["nu", "numeric"], .union .digit (hex ["66B-66C"])),
    (["sc", "scontinue"],
      hex
        ["2C-2D 3A-3B 37E 55D 60C-60D 7F8 1802 1808 2013-2014 3001 FE10-FE11 FE13-FE14",
         "FE31-FE32 FE50-FE51 FE54-FE55 FE58 FE63 FF0C-FF0D FF1A-FF1B FF64"]),
    (["se", "sep"], hex ["85 2028-2029"]),
    (["sp"], .diff .space (hex ["A D 85 2028-2029"])),
    (["st", "sterm"], .diff (.among Binary.sentenceTerminal) points),
    (["up", "upper"], sentenceUpper)]

end DirectiveLint.Pattern.Segment
