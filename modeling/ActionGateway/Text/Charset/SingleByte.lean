import ActionGateway.Text.Charset.Chart

/-!
# Charsets of one byte a character

The upper half of each charset is a chart with 16 cells to a row that ends with the byte 0xFF. The
bytes before the chart stand for the code points of their number: always the first 128, and where
the chart has only six rows the control characters after them.
-/

namespace ActionGateway.SingleByte

/-- What a byte stands for. -/
def char? (chart : Chart) (b : UInt8) : Option Char :=
  let first := 256 - 16 * chart.size
  if b.toNat < first then some (Char.ofNat b.toNat)
  else chart.at? ((b.toNat - first) / 16) ((b.toNat - first) % 16)

/-- The text of bytes; a byte that stands for nothing gives U+FFFD. -/
def decode (chart : Chart) (bytes : Bytes) : List Char :=
  bytes.map fun b => (char? chart b).getD '\uFFFD'

/-! ## Charts -/

/-- The Cyrillic characters of code page 866. -/
def ibm866 : Chart := .ofRows #[
  "АБВГДЕЖЗИЙКЛМНОП",
  "РСТУФХЦЧШЩЪЫЬЭЮЯ",
  "абвгдежзийклмноп",
  "░▒▓│┤╡╢╖╕╣║╗╝╜╛┐",
  "└┴┬├─┼╞╟╚╔╩╦╠═╬╧",
  "╨╤╥╙╘╒╓╫╪┘┌█▄▌▐▀",
  "рстуфхцчшщъыьэюя",
  "ЁёЄєЇїЎў°∙·√№¤■\xa0"]

/-- Central European, ISO 8859-2. -/
def latin2 : Chart := .ofRows #[
  "\xa0Ą˘Ł¤ĽŚ§¨ŠŞŤŹ\xadŽŻ",
  "°ą˛ł´ľśˇ¸šşťź˝žż",
  "ŔÁÂĂÄĹĆÇČÉĘËĚÍÎĎ",
  "ĐŃŇÓÔŐÖ×ŘŮÚŰÜÝŢß",
  "ŕáâăäĺćçčéęëěíîď",
  "đńňóôőö÷řůúűüýţ˙"]

/-- South European, ISO 8859-3. -/
def latin3 : Chart := .ofRows #[
  "\xa0Ħ˘£¤ Ĥ§¨İŞĞĴ\xad Ż",
  "°ħ²³´µĥ·¸ışğĵ½ ż",
  "ÀÁÂ ÄĊĈÇÈÉÊËÌÍÎÏ",
  " ÑÒÓÔĠÖ×ĜÙÚÛÜŬŜß",
  "àáâ äċĉçèéêëìíîï",
  " ñòóôġö÷ĝùúûüŭŝ˙"]

/-- North European, ISO 8859-4. -/
def latin4 : Chart := .ofRows #[
  "\xa0ĄĸŖ¤ĨĻ§¨ŠĒĢŦ\xadŽ¯",
  "°ą˛ŗ´ĩļˇ¸šēģŧŊžŋ",
  "ĀÁÂÃÄÅÆĮČÉĘËĖÍÎĪ",
  "ĐŅŌĶÔÕÖ×ØŲÚÛÜŨŪß",
  "āáâãäåæįčéęëėíîī",
  "đņōķôõö÷øųúûüũū˙"]

/-- Cyrillic, ISO 8859-5. -/
def isoCyrillic : Chart := .ofRows #[
  "\xa0ЁЂЃЄЅІЇЈЉЊЋЌ\xadЎЏ",
  "АБВГДЕЖЗИЙКЛМНОП",
  "РСТУФХЦЧШЩЪЫЬЭЮЯ",
  "абвгдежзийклмноп",
  "рстуфхцчшщъыьэюя",
  "№ёђѓєѕіїјљњћќ§ўџ"]

/-- Arabic, ISO 8859-6. -/
def isoArabic : Chart := .ofRows #[
  "\xa0   ¤       ،\xad",
  "           \u061b   \u061f",
  " \u0621\u0622\u0623\u0624\u0625\u0626\u0627\u0628\u0629\u062a\u062b\u062c\u062d\u062e\u062f",
  "\u0630\u0631\u0632\u0633\u0634\u0635\u0636\u0637\u0638\u0639\u063a",
  "\u0640\u0641\u0642\u0643\u0644\u0645\u0646\u0647\u0648\u0649\u064a\u064b\u064c\u064d\u064e\u064f",
  "\u0650\u0651\u0652"]

/-- Greek, ISO 8859-7. -/
def isoGreek : Chart := .ofRows #[
  "\xa0‘’£€₯¦§¨©ͺ«¬\xad ―",
  "°±²³΄΅Ά·ΈΉΊ»Ό½ΎΏ",
  "ΐΑΒΓΔΕΖΗΘΙΚΛΜΝΞΟ",
  "ΠΡ ΣΤΥΦΧΨΩΪΫάέήί",
  "ΰαβγδεζηθικλμνξο",
  "πρςστυφχψωϊϋόύώ"]

/-- Hebrew, ISO 8859-8. -/
def isoHebrew : Chart := .ofRows #[
  "\xa0 ¢£¤¥¦§¨©×«¬\xad®¯",
  "°±²³´µ¶·¸¹÷»¼½¾",
  "",
  "               ‗",
  "\u05d0\u05d1\u05d2\u05d3\u05d4\u05d5\u05d6\u05d7\u05d8\u05d9\u05da\u05db\u05dc\u05dd\u05de\u05df",
  "\u05e0\u05e1\u05e2\u05e3\u05e4\u05e5\u05e6\u05e7\u05e8\u05e9\u05ea  \u200e\u200f"]

/-- Nordic, ISO 8859-10. -/
def latin6 : Chart := .ofRows #[
  "\xa0ĄĒĢĪĨĶ§ĻĐŠŦŽ\xadŪŊ",
  "°ąēģīĩķ·ļđšŧž―ūŋ",
  "ĀÁÂÃÄÅÆĮČÉĘËĖÍÎÏ",
  "ÐŅŌÓÔÕÖŨØŲÚÛÜÝÞß",
  "āáâãäåæįčéęëėíîï",
  "ðņōóôõöũøųúûüýþĸ"]

/-- Baltic, ISO 8859-13. -/
def latin7 : Chart := .ofRows #[
  "\xa0”¢£¤„¦§Ø©Ŗ«¬\xad®Æ",
  "°±²³“µ¶·ø¹ŗ»¼½¾æ",
  "ĄĮĀĆÄÅĘĒČÉŹĖĢĶĪĻ",
  "ŠŃŅÓŌÕÖ×ŲŁŚŪÜŻŽß",
  "ąįāćäåęēčéźėģķīļ",
  "šńņóōõö÷ųłśūüżž’"]

/-- Celtic, ISO 8859-14. -/
def latin8 : Chart := .ofRows #[
  "\xa0Ḃḃ£ĊċḊ§Ẁ©ẂḋỲ\xad®Ÿ",
  "ḞḟĠġṀṁ¶ṖẁṗẃṠỳẄẅṡ",
  "ÀÁÂÃÄÅÆÇÈÉÊËÌÍÎÏ",
  "ŴÑÒÓÔÕÖṪØÙÚÛÜÝŶß",
  "àáâãäåæçèéêëìíîï",
  "ŵñòóôõöṫøùúûüýŷÿ"]

/-- Western European with the euro sign, ISO 8859-15. -/
def latin9 : Chart := .ofRows #[
  "\xa0¡¢£€¥Š§š©ª«¬\xad®¯",
  "°±²³Žµ¶·ž¹º»ŒœŸ¿",
  "ÀÁÂÃÄÅÆÇÈÉÊËÌÍÎÏ",
  "ÐÑÒÓÔÕÖ×ØÙÚÛÜÝÞß",
  "àáâãäåæçèéêëìíîï",
  "ðñòóôõö÷øùúûüýþÿ"]

/-- South-Eastern European, ISO 8859-16. -/
def latin10 : Chart := .ofRows #[
  "\xa0ĄąŁ€„Š§š©Ș«Ź\xadźŻ",
  "°±ČłŽ”¶·žčș»ŒœŸż",
  "ÀÁÂĂÄĆÆÇÈÉÊËÌÍÎÏ",
  "ĐŃÒÓÔŐÖŚŰÙÚÛÜĘȚß",
  "àáâăäćæçèéêëìíîï",
  "đńòóôőöśűùúûüęțÿ"]

/-- Cyrillic, KOI8-R. -/
def koi8r : Chart := .ofRows #[
  "─│┌┐└┘├┤┬┴┼▀▄█▌▐",
  "░▒▓⌠■∙√≈≤≥\xa0⌡°²·÷",
  "═║╒ё╓╔╕╖╗╘╙╚╛╜╝╞",
  "╟╠╡Ё╢╣╤╥╦╧╨╩╪╫╬©",
  "юабцдефгхийклмно",
  "пярстужвьызшэщчъ",
  "ЮАБЦДЕФГХИЙКЛМНО",
  "ПЯРСТУЖВЬЫЗШЭЩЧЪ"]

/-- Cyrillic, KOI8-U. -/
def koi8u : Chart := .ofRows #[
  "─│┌┐└┘├┤┬┴┼▀▄█▌▐",
  "░▒▓⌠■∙√≈≤≥\xa0⌡°²·÷",
  "═║╒ёє╔ії╗╘╙╚╛ґў╞",
  "╟╠╡ЁЄ╣ІЇ╦╧╨╩╪ҐЎ©",
  "юабцдефгхийклмно",
  "пярстужвьызшэщчъ",
  "ЮАБЦДЕФГХИЙКЛМНО",
  "ПЯРСТУЖВЬЫЗШЭЩЧЪ"]

/-- Western European, Macintosh. -/
def macintosh : Chart := .ofRows #[
  "ÄÅÇÉÑÖÜáàâäãåçéè",
  "êëíìîïñóòôöõúùûü",
  "†°¢£§•¶ß®©™´¨≠ÆØ",
  "∞±≤≥¥µ∂∑∏π∫ªºΩæø",
  "¿¡¬√ƒ≈∆«»…\xa0ÀÃÕŒœ",
  "–—“”‘’÷◊ÿŸ⁄€‹›ﬁﬂ",
  "‡·‚„‰ÂÊÁËÈÍÎÏÌÓÔ",
  "\uf8ffÒÚÛÙıˆ˜¯˘˙˚¸˝˛ˇ"]

/-- Cyrillic, Macintosh. -/
def macintoshCyrillic : Chart := .ofRows #[
  "АБВГДЕЖЗИЙКЛМНОП",
  "РСТУФХЦЧШЩЪЫЬЭЮЯ",
  "†°Ґ£§•¶І®©™Ђђ≠Ѓѓ",
  "∞±≤≥іµґЈЄєЇїЉљЊњ",
  "јЅ¬√ƒ≈∆«»…\xa0ЋћЌќѕ",
  "–—“”‘’÷„ЎўЏџ№Ёёя",
  "абвгдежзийклмноп",
  "рстуфхцчшщъыьэю€"]

/-- Thai. -/
def windows874 : Chart := .ofRows #[
  "€\x81\x82\x83\x84…\x86\x87\x88\x89\x8a\x8b\x8c\x8d\x8e\x8f",
  "\x90‘’“”•–—\x98\x99\x9a\x9b\x9c\x9d\x9e\x9f",
  "\xa0กขฃคฅฆงจฉชซฌญฎฏ",
  "ฐฑฒณดตถทธนบปผฝพฟ",
  "ภมยรฤลฦวศษสหฬอฮฯ",
  "ะ\u0e31าำ\u0e34\u0e35\u0e36\u0e37\u0e38\u0e39\u0e3a    ฿",
  "เแโใไๅๆ\u0e47\u0e48\u0e49\u0e4a\u0e4b\u0e4c\u0e4d\u0e4e๏",
  "๐๑๒๓๔๕๖๗๘๙๚๛"]

/-- Central European. -/
def windows1250 : Chart := .ofRows #[
  "€\x81‚\x83„…†‡\x88‰Š‹ŚŤŽŹ",
  "\x90‘’“”•–—\x98™š›śťžź",
  "\xa0ˇ˘Ł¤Ą¦§¨©Ş«¬\xad®Ż",
  "°±˛ł´µ¶·¸ąş»Ľ˝ľż",
  "ŔÁÂĂÄĹĆÇČÉĘËĚÍÎĎ",
  "ĐŃŇÓÔŐÖ×ŘŮÚŰÜÝŢß",
  "ŕáâăäĺćçčéęëěíîď",
  "đńňóôőö÷řůúűüýţ˙"]

/-- Cyrillic. -/
def windows1251 : Chart := .ofRows #[
  "ЂЃ‚ѓ„…†‡€‰Љ‹ЊЌЋЏ",
  "ђ‘’“”•–—\x98™љ›њќћџ",
  "\xa0ЎўЈ¤Ґ¦§Ё©Є«¬\xad®Ї",
  "°±Ііґµ¶·ё№є»јЅѕї",
  "АБВГДЕЖЗИЙКЛМНОП",
  "РСТУФХЦЧШЩЪЫЬЭЮЯ",
  "абвгдежзийклмноп",
  "рстуфхцчшщъыьэюя"]

/-- Western European. -/
def windows1252 : Chart := .ofRows #[
  "€\x81‚ƒ„…†‡ˆ‰Š‹Œ\x8dŽ\x8f",
  "\x90‘’“”•–—˜™š›œ\x9džŸ",
  "\xa0¡¢£¤¥¦§¨©ª«¬\xad®¯",
  "°±²³´µ¶·¸¹º»¼½¾¿",
  "ÀÁÂÃÄÅÆÇÈÉÊËÌÍÎÏ",
  "ÐÑÒÓÔÕÖ×ØÙÚÛÜÝÞß",
  "àáâãäåæçèéêëìíîï",
  "ðñòóôõö÷øùúûüýþÿ"]

/-- Greek. -/
def windows1253 : Chart := .ofRows #[
  "€\x81‚ƒ„…†‡\x88‰\x8a‹\x8c\x8d\x8e\x8f",
  "\x90‘’“”•–—\x98™\x9a›\x9c\x9d\x9e\x9f",
  "\xa0΅Ά£¤¥¦§¨© «¬\xad®―",
  "°±²³΄µ¶·ΈΉΊ»Ό½ΎΏ",
  "ΐΑΒΓΔΕΖΗΘΙΚΛΜΝΞΟ",
  "ΠΡ ΣΤΥΦΧΨΩΪΫάέήί",
  "ΰαβγδεζηθικλμνξο",
  "πρςστυφχψωϊϋόύώ"]

/-- Turkish. -/
def windows1254 : Chart := .ofRows #[
  "€\x81‚ƒ„…†‡ˆ‰Š‹Œ\x8d\x8e\x8f",
  "\x90‘’“”•–—˜™š›œ\x9d\x9eŸ",
  "\xa0¡¢£¤¥¦§¨©ª«¬\xad®¯",
  "°±²³´µ¶·¸¹º»¼½¾¿",
  "ÀÁÂÃÄÅÆÇÈÉÊËÌÍÎÏ",
  "ĞÑÒÓÔÕÖ×ØÙÚÛÜİŞß",
  "àáâãäåæçèéêëìíîï",
  "ğñòóôõö÷øùúûüışÿ"]

/-- Hebrew. -/
def windows1255 : Chart := .ofRows #[
  "€\x81‚ƒ„…†‡ˆ‰\x8a‹\x8c\x8d\x8e\x8f",
  "\x90‘’“”•–—˜™\x9a›\x9c\x9d\x9e\x9f",
  "\xa0¡¢£₪¥¦§¨©×«¬\xad®¯",
  "°±²³´µ¶·¸¹÷»¼½¾¿",
  "\u05b0\u05b1\u05b2\u05b3\u05b4\u05b5\u05b6\u05b7\u05b8\u05b9\u05ba\u05bb\u05bc\u05bd\u05be\u05bf",
  "\u05c0\u05c1\u05c2\u05c3\u05f0\u05f1\u05f2\u05f3\u05f4",
  "\u05d0\u05d1\u05d2\u05d3\u05d4\u05d5\u05d6\u05d7\u05d8\u05d9\u05da\u05db\u05dc\u05dd\u05de\u05df",
  "\u05e0\u05e1\u05e2\u05e3\u05e4\u05e5\u05e6\u05e7\u05e8\u05e9\u05ea  \u200e\u200f"]

/-- Arabic. -/
def windows1256 : Chart := .ofRows #[
  "€\u067e‚ƒ„…†‡ˆ‰\u0679‹Œ\u0686\u0698\u0688",
  "\u06af‘’“”•–—\u06a9™\u0691›œ\u200c\u200d\u06ba",
  "\xa0،¢£¤¥¦§¨©\u06be«¬\xad®¯",
  "°±²³´µ¶·¸¹\u061b»¼½¾\u061f",
  "\u06c1\u0621\u0622\u0623\u0624\u0625\u0626\u0627\u0628\u0629\u062a\u062b\u062c\u062d\u062e\u062f",
  "\u0630\u0631\u0632\u0633\u0634\u0635\u0636×\u0637\u0638\u0639\u063a\u0640\u0641\u0642\u0643",
  "à\u0644â\u0645\u0646\u0647\u0648çèéêë\u0649\u064aîï",
  "\u064b\u064c\u064d\u064eô\u064f\u0650÷\u0651ù\u0652ûü\u200e\u200f\u06d2"]

/-- Baltic. -/
def windows1257 : Chart := .ofRows #[
  "€\x81‚\x83„…†‡\x88‰\x8a‹\x8c¨ˇ¸",
  "\x90‘’“”•–—\x98™\x9a›\x9c¯˛\x9f",
  "\xa0 ¢£¤ ¦§Ø©Ŗ«¬\xad®Æ",
  "°±²³´µ¶·ø¹ŗ»¼½¾æ",
  "ĄĮĀĆÄÅĘĒČÉŹĖĢĶĪĻ",
  "ŠŃŅÓŌÕÖ×ŲŁŚŪÜŻŽß",
  "ąįāćäåęēčéźėģķīļ",
  "šńņóōõö÷ųłśūüżž˙"]

/-- Vietnamese. -/
def windows1258 : Chart := .ofRows #[
  "€\x81‚ƒ„…†‡ˆ‰\x8a‹Œ\x8d\x8e\x8f",
  "\x90‘’“”•–—˜™\x9a›œ\x9d\x9eŸ",
  "\xa0¡¢£¤¥¦§¨©ª«¬\xad®¯",
  "°±²³´µ¶·¸¹º»¼½¾¿",
  "ÀÁÂĂÄÅÆÇÈÉÊË\u0300ÍÎÏ",
  "ĐÑ\u0309ÓÔƠÖ×ØÙÚÛÜƯ\u0303ß",
  "àáâăäåæçèéêë\u0301íîï",
  "đñ\u0323óôơö÷øùúûüư₫ÿ"]

end ActionGateway.SingleByte
