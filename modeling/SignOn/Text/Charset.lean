import SignOn.Text.Wide
import SignOn.Text.Punycode
import SignOn.Text.Cut
import SignOn.Text.CodePage.International
import SignOn.Text.CodePage.Desktop
import SignOn.Text.CodePage.Publishing
import SignOn.Text.CodePage.Terminal
import SignOn.Text.CodePage.Mainframe
import SignOn.Text.CodePage.National

/-!
Text of a declared charset, with a replacement for every byte that does not fit it.
-/

namespace SignOn

def CodePage.all : List CodePage :=
  international ++ desktop ++ publishing ++ terminal ++ mainframe ++ national

/-- A known charset. The last four are no charsets of texts in bytes, or know no replacements. -/
inductive Charset where
  | utf8
  | utf8Marked
  | ascii
  | latin1
  | page (p : CodePage)
  | utf16 (order : Option Wide.ByteOrder)
  | utf32 (order : Option Wide.ByteOrder)
  | punycode
  /-- a coding of bytes as bytes -/
  | transfer
  /-- a coding of texts as texts -/
  | rotation
  | hostNames
  /-- one that has no texts -/
  | undefined
  deriving DecidableEq

/-- Why bytes have no text in a charset, faults replaced. -/
inductive Charset.Refusal where
  /-- there is no byte order mark in front of units of so many bits -/
  | unmarked (bits : Nat)
  | notAscii (u : Undecodable)
  | transfer
  | rotation
  | hostNames
  | undefined
  deriving DecidableEq

namespace Charset

/-- The name of a charset in lower case, with one low line for every run of other characters than letters, digits and
points between two of them. -/
def normalize (name : List Char) : List Char :=
  let isNameChar (c : Char) : Bool := c.isAlphanum || c == '.'
  let spaced := name.map fun c => if isNameChar c then c.toLower else '_'
  ['_'].intercalate ((Text.cut '_' spaced).filter (!·.isEmpty))

/-- The charsets that are no pages, with their names. Those with several bytes to a character beside the Unicode ones, and
those that write escapes, are left out; they refuse nothing, and are read as if they were not known. -/
def named : List (Charset × String × List String) :=
  [ (.utf8, "utf_8", ["u8", "utf", "utf8", "utf8_ucs2", "utf8_ucs4", "cp65001"]),
    (.utf8Marked, "utf_8_sig", []),
    (.ascii, "ascii",
      ["646", "ansi_x3.4_1968", "ansi_x3_4_1968", "ansi_x3.4_1986", "cp367", "csascii", "ibm367", "iso646_us",
        "iso_646.irv_1991", "iso_ir_6", "us", "us_ascii"]),
    (.latin1, "latin_1",
      ["8859", "cp819", "csisolatin1", "ibm819", "iso8859", "iso8859_1", "iso_8859_1", "iso_8859_1_1987",
        "iso_ir_100", "l1", "latin", "latin1"]),
    (.latin1, "charmap", []),
    (.utf16 none, "utf_16", ["u16", "utf16"]),
    (.utf16 (some .little), "utf_16_le", ["unicodelittleunmarked", "utf_16le"]),
    (.utf16 (some .big), "utf_16_be", ["unicodebigunmarked", "utf_16be"]),
    (.utf32 none, "utf_32", ["u32", "utf32"]),
    (.utf32 (some .little), "utf_32_le", ["utf_32le"]),
    (.utf32 (some .big), "utf_32_be", ["utf_32be"]),
    (.punycode, "punycode", []),
    (.transfer, "base64_codec", ["base64", "base_64"]),
    (.transfer, "bz2_codec", ["bz2"]),
    (.transfer, "hex_codec", ["hex"]),
    (.transfer, "quopri_codec", ["quopri", "quoted_printable", "quotedprintable"]),
    (.transfer, "uu_codec", ["uu"]),
    (.transfer, "zlib_codec", ["zip", "zlib"]),
    (.rotation, "rot_13", ["rot13"]),
    (.hostNames, "idna", []),
    (.undefined, "undefined", []) ]

def all : List (Charset × String × List String) :=
  named ++ CodePage.all.map fun p => (.page p, p.name, p.aliases)

/-- Whether a key is one of the names of a charset. In the other names a point may stand for a low line. -/
def isCalled (name : String) (aliases : List String) (key : List Char) : Bool :=
  let undotted := key.map fun c => if c = '.' then '_' else c
  name == String.ofList key || aliases.contains (String.ofList key) || aliases.contains (String.ofList undotted)

def named? (name : List Char) : Option Charset :=
  let key := normalize name
  (all.find? fun entry => isCalled entry.2.1 entry.2.2 key).map (·.1)

/-- The text of some bytes, with a replacement for every fault. Without a byte order mark the wide charsets that need one
refuse the bytes. -/
def decode : Charset → List UInt8 → Except Refusal (List Char)
  | .utf8, bs => .ok (Utf8.decodeLossy bs)
  | .utf8Marked, 0xEF :: 0xBB :: 0xBF :: bs => .ok (Utf8.decodeLossy bs)
  | .utf8Marked, bs => .ok (Utf8.decodeLossy bs)
  | .ascii, bs => .ok (bs.map fun b => if b < 0x80 then Char.ofNat b.toNat else Symbol.replacement)
  | .latin1, bs => .ok (bs.map fun b => Char.ofNat b.toNat)
  | .page p, bs => .ok (p.decode bs)
  | .utf16 (some order), bs => .ok (Wide.lossy16 order bs)
  | .utf16 none, 0xFF :: 0xFE :: bs => .ok (Wide.lossy16 .little bs)
  | .utf16 none, 0xFE :: 0xFF :: bs => .ok (Wide.lossy16 .big bs)
  | .utf16 none, bs => if bs.length < 2 then .ok (Wide.lossy16 .little bs) else .error (.unmarked 16)
  | .utf32 (some order), bs => .ok (Wide.lossy32 order bs)
  | .utf32 none, 0xFF :: 0xFE :: 0x00 :: 0x00 :: bs => .ok (Wide.lossy32 .little bs)
  | .utf32 none, 0x00 :: 0x00 :: 0xFE :: 0xFF :: bs => .ok (Wide.lossy32 .big bs)
  | .utf32 none, bs => if bs.length < 4 then .ok (Wide.lossy32 .little bs) else .error (.unmarked 32)
  | .punycode, bs =>
    match Punycode.refusal? bs with
    | some u => .error (.notAscii u)
    | none => .ok ((Punycode.decode .stop bs).getD [])
  | .transfer, _ => .error .transfer
  | .rotation, _ => .error .rotation
  | .hostNames, _ => .error .hostNames
  | .undefined, _ => .error .undefined

/-- The characters that were read, if no half is among them. -/
def charsOf? {ε : Type} (read : Except ε (List Symbol)) : Option (List Char) :=
  read.toOption.bind Symbol.chars?

/-- The text of some bytes that have no fault. -/
def strict? : Charset → List UInt8 → Option (List Char)
  | .utf8, bs => charsOf? (Utf8.decode bs)
  | .utf8Marked, 0xEF :: 0xBB :: 0xBF :: bs => charsOf? (Utf8.decode bs)
  | .utf8Marked, bs => charsOf? (Utf8.decode bs)
  | .ascii, bs => if bs.all (· < 0x80) then some (bs.map fun b => Char.ofNat b.toNat) else none
  | .latin1, bs => some (bs.map fun b => Char.ofNat b.toNat)
  | .page p, bs => some (p.decode bs) |>.filter (!·.contains Symbol.replacement)
  | .utf16 (some order), bs => charsOf? (Wide.decode16 order 0 bs)
  | .utf16 none, 0xFE :: 0xFF :: bs => charsOf? (Wide.decode16 .big 0 bs)
  | .utf16 none, bs => charsOf? (Wide.decode16 .little 0 (if bs.take 2 = [0xFF, 0xFE] then bs.drop 2 else bs))
  | .utf32 (some order), bs => charsOf? (Wide.decode32 order 0 bs)
  | .utf32 none, 0x00 :: 0x00 :: 0xFE :: 0xFF :: bs => charsOf? (Wide.decode32 .big 0 bs)
  | .utf32 none, bs =>
    charsOf? (Wide.decode32 .little 0 (if bs.take 4 = [0xFF, 0xFE, 0x00, 0x00] then bs.drop 4 else bs))
  | .punycode, bs => if (Punycode.refusal? bs).isSome then none else Punycode.decode .refuse bs
  | _, _ => none

end Charset

end SignOn
