import ActionGateway.Text.Basic
import ActionGateway.Text.Charset.Chinese
import ActionGateway.Text.Charset.Japanese
import ActionGateway.Text.Charset.Korean
import ActionGateway.Text.Charset.SingleByte
import ActionGateway.Text.Charset.Utf16

/-!
# Charsets of text parts

A text part is UTF-8 unless its media type names another charset or its bytes open with a byte
order mark. The mark wins over the name and is not part of the text. Bytes that spell no character
give U+FFFD, in every charset.

The names are the **labels** of the charsets that the web knows. Some stand for a wider charset than
they say: `iso-8859-1` for windows-1252, `gb2312` for GB 18030.
-/

namespace ActionGateway

/-! ## Labels -/

/-- A charset that a part may be written in. The charsets of one byte for every character differ in
their charts only. -/
inductive Charset
  | utf8
  | utf16 (bigEndian : Bool)
  | singleByte (chart : Chart)
  | gb18030
  | big5
  | eucJp
  | iso2022Jp
  | shiftJis
  | eucKr
  /-- ASCII, and 128 characters for private use -/
  | userDefined
  /-- a charset that is known, but too dangerous to be decoded -/
  | withheld
  deriving DecidableEq, Repr

namespace Charset

/-- The labels of the charsets. -/
def labels : List (Charset × List String) :=
  [(.utf8,
     ["unicode-1-1-utf-8", "unicode11utf8", "unicode20utf8", "utf-8", "utf8", "x-unicode20utf8"]),
   (.singleByte SingleByte.ibm866, ["866", "cp866", "csibm866", "ibm866"]),
   (.singleByte SingleByte.latin2,
     ["csisolatin2", "iso-8859-2", "iso-ir-101", "iso8859-2", "iso88592", "iso_8859-2",
      "iso_8859-2:1987", "l2", "latin2"]),
   (.singleByte SingleByte.latin3,
     ["csisolatin3", "iso-8859-3", "iso-ir-109", "iso8859-3", "iso88593", "iso_8859-3",
      "iso_8859-3:1988", "l3", "latin3"]),
   (.singleByte SingleByte.latin4,
     ["csisolatin4", "iso-8859-4", "iso-ir-110", "iso8859-4", "iso88594", "iso_8859-4",
      "iso_8859-4:1988", "l4", "latin4"]),
   (.singleByte SingleByte.isoCyrillic,
     ["csisolatincyrillic", "cyrillic", "iso-8859-5", "iso-ir-144", "iso8859-5", "iso88595",
      "iso_8859-5", "iso_8859-5:1988"]),
   (.singleByte SingleByte.isoArabic,
     ["arabic", "asmo-708", "csiso88596e", "csiso88596i", "csisolatinarabic", "ecma-114",
      "iso-8859-6", "iso-8859-6-e", "iso-8859-6-i", "iso-ir-127", "iso8859-6", "iso88596",
      "iso_8859-6", "iso_8859-6:1987"]),
   (.singleByte SingleByte.isoGreek,
     ["csisolatingreek", "ecma-118", "elot_928", "greek", "greek8", "iso-8859-7", "iso-ir-126",
      "iso8859-7", "iso88597", "iso_8859-7", "iso_8859-7:1987", "sun_eu_greek"]),
   (.singleByte SingleByte.isoHebrew,
     ["csiso88598e", "csiso88598i", "csisolatinhebrew", "hebrew", "iso-8859-8", "iso-8859-8-e",
      "iso-8859-8-i", "iso-ir-138", "iso8859-8", "iso88598", "iso_8859-8", "iso_8859-8:1988",
      "logical", "visual"]),
   (.singleByte SingleByte.latin6,
     ["csisolatin6", "iso-8859-10", "iso-ir-157", "iso8859-10", "iso885910", "l6", "latin6"]),
   (.singleByte SingleByte.latin7, ["iso-8859-13", "iso8859-13", "iso885913"]),
   (.singleByte SingleByte.latin8, ["iso-8859-14", "iso8859-14", "iso885914"]),
   (.singleByte SingleByte.latin9,
     ["csisolatin9", "iso-8859-15", "iso8859-15", "iso885915", "iso_8859-15", "l9"]),
   (.singleByte SingleByte.latin10, ["iso-8859-16"]),
   (.singleByte SingleByte.koi8r, ["cskoi8r", "koi", "koi8", "koi8-r", "koi8_r"]),
   (.singleByte SingleByte.koi8u, ["koi8-ru", "koi8-u"]),
   (.singleByte SingleByte.macintosh, ["csmacintosh", "mac", "macintosh", "x-mac-roman"]),
   (.singleByte SingleByte.windows874,
     ["dos-874", "iso-8859-11", "iso8859-11", "iso885911", "tis-620", "windows-874"]),
   (.singleByte SingleByte.windows1250, ["cp1250", "windows-1250", "x-cp1250"]),
   (.singleByte SingleByte.windows1251, ["cp1251", "windows-1251", "x-cp1251"]),
   (.singleByte SingleByte.windows1252,
     ["ansi_x3.4-1968", "ascii", "cp1252", "cp819", "csisolatin1", "ibm819", "iso-8859-1",
      "iso-ir-100", "iso8859-1", "iso88591", "iso_8859-1", "iso_8859-1:1987", "l1", "latin1",
      "us-ascii", "windows-1252", "x-cp1252"]),
   (.singleByte SingleByte.windows1253, ["cp1253", "windows-1253", "x-cp1253"]),
   (.singleByte SingleByte.windows1254,
     ["cp1254", "csisolatin5", "iso-8859-9", "iso-ir-148", "iso8859-9", "iso88599", "iso_8859-9",
      "iso_8859-9:1989", "l5", "latin5", "windows-1254", "x-cp1254"]),
   (.singleByte SingleByte.windows1255, ["cp1255", "windows-1255", "x-cp1255"]),
   (.singleByte SingleByte.windows1256, ["cp1256", "windows-1256", "x-cp1256"]),
   (.singleByte SingleByte.windows1257, ["cp1257", "windows-1257", "x-cp1257"]),
   (.singleByte SingleByte.windows1258, ["cp1258", "windows-1258", "x-cp1258"]),
   (.singleByte SingleByte.macintoshCyrillic, ["x-mac-cyrillic", "x-mac-ukrainian"]),
   (.gb18030,
     ["chinese", "csgb2312", "csiso58gb231280", "gb18030", "gb2312", "gb_2312", "gb_2312-80",
      "gbk", "iso-ir-58", "x-gbk"]),
   (.big5, ["big5", "big5-hkscs", "cn-big5", "csbig5", "x-x-big5"]),
   (.eucJp, ["cseucpkdfmtjapanese", "euc-jp", "x-euc-jp"]),
   (.iso2022Jp, ["csiso2022jp", "iso-2022-jp"]),
   (.shiftJis,
     ["csshiftjis", "ms932", "ms_kanji", "shift-jis", "shift_jis", "sjis", "windows-31j",
      "x-sjis"]),
   (.eucKr,
     ["cseuckr", "csksc56011987", "euc-kr", "iso-ir-149", "korean", "ks_c_5601-1987",
      "ks_c_5601-1989", "ksc5601", "ksc_5601", "windows-949"]),
   (.withheld,
     ["csiso2022kr", "hz-gb-2312", "iso-2022-cn", "iso-2022-cn-ext", "iso-2022-kr",
      "replacement"]),
   (.utf16 true, ["unicodefffe", "utf-16be"]),
   (.utf16 false,
     ["csunicode", "iso-10646-ucs-2", "ucs-2", "unicode", "unicodefeff", "utf-16", "utf-16le"]),
   (.userDefined, ["x-user-defined"])]

/-- The charset that a name in lower case stands for; a name that is no label counts as UTF-8.
Blanks around the name do not count. -/
def ofLabel (name : String) : Charset :=
  match labels.find? fun entry => entry.2.contains (Text.trim name) with
  | some (charset, _) => charset
  | none => .utf8

/-! ## Decoding

Decoding never fails. What is no character in the charset of a part is replaced, and the part is
taken for the text that is left. -/

/-- What a byte stands for in the user-defined charset. -/
def userDefinedChar (b : UInt8) : Char :=
  if b < 0x80 then Char.ofNat b.toNat else Char.ofNat (0xF780 + (b.toNat - 0x80))

/-- The text of bytes that carry no mark. -/
def decodeUnmarked (charset : Charset) (bytes : Bytes) : String :=
  match charset with
  | .utf8 => Utf8.decodeLossy bytes
  | .utf16 bigEndian => String.ofList (Utf16.decode bigEndian bytes)
  | .singleByte chart => String.ofList (SingleByte.decode chart bytes)
  | .gb18030 => String.ofList (Gb18030.decode bytes)
  | .big5 => String.ofList (Big5.decode bytes)
  | .eucJp => String.ofList (EucJp.decode bytes)
  | .iso2022Jp => String.ofList (Iso2022Jp.decode bytes)
  | .shiftJis => String.ofList (ShiftJis.decode bytes)
  | .eucKr => String.ofList (EucKr.decode bytes)
  | .userDefined => String.ofList (bytes.map userDefinedChar)
  | .withheld => if bytes.isEmpty then "" else "\uFFFD"

/-- The text of a part whose charset is `charset`, unless a byte order mark says otherwise. -/
def decode (charset : Charset) (bytes : Bytes) : String :=
  match bytes with
  | 0xEF :: 0xBB :: 0xBF :: rest => decodeUnmarked .utf8 rest
  | 0xFE :: 0xFF :: rest => decodeUnmarked (.utf16 true) rest
  | 0xFF :: 0xFE :: rest => decodeUnmarked (.utf16 false) rest
  | _ => decodeUnmarked charset bytes

end Charset

end ActionGateway
