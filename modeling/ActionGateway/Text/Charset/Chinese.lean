import ActionGateway.Text.Charset.Big5
import ActionGateway.Text.Charset.Front
import ActionGateway.Text.Charset.Gb2312

/-!
# Chinese charsets

Big5 is a chart of its own. GB 18030 gives a row and a column of GB 2312 a byte each; the ideographs
up to U+9FA5 that the chart lacks follow one after the other in the places that are left; all other
characters take four bytes and are numbered in the order of their code points.
-/

namespace ActionGateway

namespace Big5

/-- What two bytes stand for: a character, or for four pairs a letter with a mark after it. -/
def chars? (first second : UInt8) : Option (List Char) :=
  if first = 0x88 ∧ second = 0x62 then some ['Ê', '\u0304']
  else if first = 0x88 ∧ second = 0x64 then some ['Ê', '\u030C']
  else if first = 0x88 ∧ second = 0xA3 then some ['ê', '\u0304']
  else if first = 0x88 ∧ second = 0xA5 then some ['ê', '\u030C']
  else if first < 0x87 then none
  else if 0x40 ≤ second ∧ second ≤ 0x7E then
    (leftHalf.at? (first.toNat - 0x87) (second.toNat - 0x40)).map fun c => [c]
  else if 0xA1 ≤ second ∧ second ≤ 0xFE then
    (rightHalf.at? (first.toNat - 0x87) (second.toNat - 0xA1)).map fun c => [c]
  else none

def front (b : UInt8) (rest : Bytes) : Front :=
  if b < 0x80 then .single (Char.ofNat b.toNat)
  else if 0x81 ≤ b ∧ b ≤ 0xFE then .pair (chars? b) rest
  else .fault 0

def decode (bytes : Bytes) : List Char :=
  Front.readAll front 0 [] bytes

end Big5

namespace Gb18030

/-! ## Two bytes -/

/-- The ideographs up to U+9FA5 that are not in the chart, in order, and those that come late. -/
def otherIdeographs : Array Char :=
  Gb2312.ideographs.others 0x4E00 20902 ++ Gb2312.lateIdeographs.toList.toArray

/-- The character of a row and a column of GB 2312. The rows 10 to 15, and 88 to 94, are for private
use. -/
def cell? (row column : Nat) : Option Char :=
  if row < 9 then Gb2312.symbols.at? row column
  else if row < 15 then some (Char.ofNat (0xE000 + (row - 9) * 94 + column))
  else if row < 87 then Gb2312.ideographs.at? (row - 15) column
  else some (Char.ofNat (0xE234 + (row - 87) * 94 + column))

/-- The character in one of the 96 places to the left of a row; the first seven rows have there a
further area for private use, in which one place belongs to the ideographic space. -/
def beside? (row place : Nat) : Option Char :=
  if row = 2 ∧ place = 95 then some '\u3000'
  else if row < 7 then some (Char.ofNat (0xE4C6 + row * 96 + place))
  else if row < 9 then Gb2312.moreSymbols.at? (row - 7) place
  else otherIdeographs[32 * 190 + (row - 9) * 96 + place]?

/-- What two bytes stand for. -/
def char? (first second : UInt8) : Option Char :=
  if second < 0x40 ∨ second = 0x7F ∨ second = 0xFF then none
  else
    let place := second.toNat - (if second < 0x7F then 0x40 else 0x41)
    if first < 0xA1 then otherIdeographs[(first.toNat - 0x81) * 190 + place]?
    else if second < 0xA1 then beside? (first.toNat - 0xA1) place
    else cell? (first.toNat - 0xA1) (second.toNat - 0xA1)

/-! ## Four bytes -/

/-- Where the numbering goes on at another code point: the number, and the code point. -/
def ranges : List (Nat × Nat) :=
  [(0, 0x80), (36, 0xA5), (38, 0xA9), (45, 0xB2), (50, 0xB8), (81, 0xD8), (89, 0xE2), (95, 0xEB),
   (96, 0xEE), (100, 0xF4), (103, 0xF8), (104, 0xFB), (105, 0xFD), (109, 0x102), (126, 0x114),
   (133, 0x11C), (148, 0x12C), (172, 0x145), (175, 0x149), (179, 0x14E), (208, 0x16C),
   (306, 0x1CF), (307, 0x1D1), (308, 0x1D3), (309, 0x1D5), (310, 0x1D7), (311, 0x1D9),
   (312, 0x1DB), (313, 0x1DD), (341, 0x1FA), (428, 0x252), (443, 0x262), (544, 0x2C8),
   (545, 0x2CC), (558, 0x2DA), (741, 0x3A2), (742, 0x3AA), (749, 0x3C2), (750, 0x3CA),
   (805, 0x402), (819, 0x450), (820, 0x452), (7922, 0x2011), (7924, 0x2017), (7925, 0x201A),
   (7927, 0x201E), (7934, 0x2027), (7943, 0x2031), (7944, 0x2034), (7945, 0x2036), (7950, 0x203C),
   (8062, 0x20AD), (8148, 0x2104), (8149, 0x2106), (8152, 0x210A), (8164, 0x2117), (8174, 0x2122),
   (8236, 0x216C), (8240, 0x217A), (8262, 0x2194), (8264, 0x219A), (8374, 0x2209), (8380, 0x2210),
   (8381, 0x2212), (8384, 0x2216), (8388, 0x221B), (8390, 0x2221), (8392, 0x2224), (8393, 0x2226),
   (8394, 0x222C), (8396, 0x222F), (8401, 0x2238), (8406, 0x223E), (8416, 0x2249), (8419, 0x224D),
   (8424, 0x2253), (8437, 0x2262), (8439, 0x2268), (8445, 0x2270), (8482, 0x2296), (8485, 0x229A),
   (8496, 0x22A6), (8521, 0x22C0), (8603, 0x2313), (8936, 0x246A), (8946, 0x249C), (9046, 0x254C),
   (9050, 0x2574), (9063, 0x2590), (9066, 0x2596), (9076, 0x25A2), (9092, 0x25B4), (9100, 0x25BE),
   (9108, 0x25C8), (9111, 0x25CC), (9113, 0x25D0), (9131, 0x25E6), (9162, 0x2607), (9164, 0x260A),
   (9218, 0x2641), (9219, 0x2643), (11329, 0x2E82), (11331, 0x2E85), (11334, 0x2E89),
   (11336, 0x2E8D), (11346, 0x2E98), (11361, 0x2EA8), (11363, 0x2EAB), (11366, 0x2EAF),
   (11370, 0x2EB4), (11372, 0x2EB8), (11375, 0x2EBC), (11389, 0x2ECB), (11682, 0x2FFC),
   (11686, 0x3004), (11687, 0x3018), (11692, 0x301F), (11694, 0x302A), (11714, 0x303F),
   (11716, 0x3094), (11723, 0x309F), (11725, 0x30F7), (11730, 0x30FF), (11736, 0x312A),
   (11982, 0x322A), (11989, 0x3232), (12102, 0x32A4), (12336, 0x3390), (12348, 0x339F),
   (12350, 0x33A2), (12384, 0x33C5), (12393, 0x33CF), (12395, 0x33D3), (12397, 0x33D6),
   (12510, 0x3448), (12553, 0x3474), (12851, 0x359F), (12962, 0x360F), (12973, 0x361B),
   (13738, 0x3919), (13823, 0x396F), (13919, 0x39D1), (13933, 0x39E0), (14080, 0x3A74),
   (14298, 0x3B4F), (14585, 0x3C6F), (14698, 0x3CE1), (15583, 0x4057), (15847, 0x4160),
   (16318, 0x4338), (16434, 0x43AD), (16438, 0x43B2), (16481, 0x43DE), (16729, 0x44D7),
   (17102, 0x464D), (17122, 0x4662), (17315, 0x4724), (17320, 0x472A), (17402, 0x477D),
   (17418, 0x478E), (17859, 0x4948), (17909, 0x497B), (17911, 0x497E), (17915, 0x4984),
   (17916, 0x4987), (17936, 0x499C), (17939, 0x49A0), (17961, 0x49B8), (18664, 0x4C78),
   (18703, 0x4CA4), (18814, 0x4D1A), (18962, 0x4DAF), (19043, 0x9FA6), (33469, 0xE76C),
   (33470, 0xE7C8), (33471, 0xE7E7), (33484, 0xE815), (33485, 0xE819), (33490, 0xE81F),
   (33497, 0xE827), (33501, 0xE82D), (33505, 0xE833), (33513, 0xE83C), (33520, 0xE844),
   (33536, 0xE856), (33550, 0xE865), (37845, 0xF92D), (37921, 0xF97A), (37948, 0xF996),
   (38029, 0xF9E8), (38038, 0xF9F2), (38064, 0xFA10), (38065, 0xFA12), (38066, 0xFA15),
   (38069, 0xFA19), (38075, 0xFA22), (38076, 0xFA25), (38078, 0xFA2A), (39108, 0xFE32),
   (39109, 0xFE45), (39113, 0xFE53), (39114, 0xFE58), (39115, 0xFE67), (39116, 0xFE6C),
   (39265, 0xFF5F), (39394, 0xFFE6)]

/-- The code point of a number in the numbering of the code points up to U+FFFF. -/
def codePoint (number : Nat) : Nat :=
  if number = 7457 then 0xE7C7
  else
    match (ranges.takeWhile fun range => range.1 ≤ number).getLast? with
    | none => number
    | some (start, codePoint) => codePoint + (number - start)

/-- The character of a number, if it has one. The code points above U+FFFF have numbers of their
own. -/
def numbered? (number : Nat) : Option Char :=
  if number ≤ 39419 then some (Char.ofNat (codePoint number))
  else if 189000 ≤ number ∧ number ≤ 1237575 then
    some (Char.ofNat (0x10000 + (number - 189000)))
  else none

/-- Whether a byte is a digit, which is what the second and the fourth of four bytes are. -/
def isDigit (b : UInt8) : Bool :=
  0x30 ≤ b && b ≤ 0x39

/-- Whether a byte may be the first of two or four, or the third of four. -/
def isLead (b : UInt8) : Bool :=
  0x81 ≤ b && b ≤ 0xFE

/-- The number that four bytes spell. -/
def number (first second third fourth : UInt8) : Nat :=
  (first.toNat - 0x81) * 12600 + (second.toNat - 0x30) * 1260 + (third.toNat - 0x81) * 10 +
    (fourth.toNat - 0x30)

/-- The front of four bytes, of which the second is a digit. Where they do not go on as they have
to, only the first is passed over; where they break off, all of them. -/
def longFront (first second : UInt8) : Bytes → Front
  | [] => .fault 1
  | third :: rest =>
    if isLead third then
      match rest with
      | [] => .fault 2
      | fourth :: _ =>
        if isDigit fourth then
          match numbered? (number first second third fourth) with
          | some c => ⟨[c], 3⟩
          | none => .fault 3
        else .fault 0
    else .fault 0

/-! ## Decoding -/

def front (b : UInt8) (rest : Bytes) : Front :=
  if b < 0x80 then .single (Char.ofNat b.toNat)
  else if b = 0x80 then .single '€'
  else if isLead b then
    match rest with
    | [] => .fault 0
    | second :: more =>
      if isDigit second then longFront b second more
      else .pair (fun second => (char? b second).map fun c => [c]) rest
  else .fault 0

def decode (bytes : Bytes) : List Char :=
  Front.readAll front 0 [] bytes

end Gb18030

end ActionGateway
