import SketchGen.Xml.Read

namespace SketchGen.Xml

/-! Documents read from bytes. Bytes that open with a UTF-8 byte order mark, or whose
declaration names no encoding or UTF-8, are UTF-8. The declaration may name another encoding:
ISO-8859-1 and US-ASCII are read byte for byte; UTF-16 cannot be declared by a document whose
declaration was read a byte at a time. Other names are looked up among the known character
sets after normalisation (lower case, each run of other characters than letters, digits and
`.` made one `_`): a single-byte set is read byte for byte, a byte it leaves undefined being
no character; a multi-byte set cannot be used; an unknown name stops the reading. -/

/-- Why the bytes of a document give no element. -/
inductive DocumentError where
  | malformed (e : ReadError)
  | unknownCharset (name : String)
  | multiByte

/-- A character set of one byte per character: ASCII below `0x80`, and for each byte above,
its character if it has one. -/
structure ByteCharset where
  high : Nat → Option Char

def ByteCharset.latin1 : ByteCharset := ⟨fun b => some (Char.ofNat b)⟩

def ByteCharset.ascii : ByteCharset := ⟨fun _ => none⟩

def ByteCharset.latin1Except (changes : List (Nat × Nat)) : ByteCharset :=
  ⟨fun b => match changes.lookup b with
    | some 0xFFFD => none
    | some c => some (Char.ofNat c)
    | none => some (Char.ofNat b)⟩

def ByteCharset.windows1252 : ByteCharset :=
  .latin1Except [(0x80, 0x20AC), (0x81, 0xFFFD), (0x82, 0x201A), (0x83, 0x0192),
    (0x84, 0x201E), (0x85, 0x2026), (0x86, 0x2020), (0x87, 0x2021), (0x88, 0x02C6),
    (0x89, 0x2030), (0x8A, 0x0160), (0x8B, 0x2039), (0x8C, 0x0152), (0x8D, 0xFFFD),
    (0x8E, 0x017D), (0x8F, 0xFFFD), (0x90, 0xFFFD), (0x91, 0x2018), (0x92, 0x2019),
    (0x93, 0x201C), (0x94, 0x201D), (0x95, 0x2022), (0x96, 0x2013), (0x97, 0x2014),
    (0x98, 0x02DC), (0x99, 0x2122), (0x9A, 0x0161), (0x9B, 0x203A), (0x9C, 0x0153),
    (0x9D, 0xFFFD), (0x9E, 0x017E), (0x9F, 0x0178)]

def ByteCharset.latin9 : ByteCharset :=
  .latin1Except [(0xA4, 0x20AC), (0xA6, 0x0160), (0xA8, 0x0161), (0xB4, 0x017D),
    (0xB8, 0x017E), (0xBC, 0x0152), (0xBD, 0x0153), (0xBE, 0x0178)]

/-- The character that stands for a byte without character: one no document may hold, so the
reader stops at it. -/
def noCharacter : Char := Char.ofNat 0xFFFF

def ByteCharset.decode (cs : ByteCharset) (bytes : List UInt8) : String :=
  String.ofList (bytes.map fun b =>
    if b.toNat < 0x80 then Char.ofNat b.toNat else (cs.high b.toNat).getD noCharacter)

/-- What a known character set name stands for. -/
inductive Charset where
  | single (cs : ByteCharset)
  | multi

/-- A name normalised for lookup: lower case, and each run of characters other than ASCII
letters, digits and `.` made one `_` between the kept characters. -/
def normalizeCharsetName (name : String) : String :=
  let step (acc : List Char × Bool) (c : Char) : List Char × Bool :=
    let (kept, gap) := acc
    if c.isAlphanum ∨ c = '.' then ((c.toLower :: (if gap ∧ !kept.isEmpty then '_' :: kept else kept)), false)
    else (kept, true)
  String.ofList (name.toList.foldl step ([], false)).1.reverse

def charsetNames : List (List String × Charset) :=
  [(["latin_1", "8859", "cp819", "csisolatin1", "ibm819", "iso8859", "iso8859_1", "iso_8859_1",
      "iso_8859_1_1987", "iso_ir_100", "l1", "latin", "latin1"], .single .latin1),
   (["ascii", "646", "ansi_x3.4_1968", "ansi_x3.4_1986", "ansi_x3_4_1968", "cp367", "csascii",
      "ibm367", "iso646_us", "iso_646.irv_1991", "iso_ir_6", "us", "us_ascii"], .single .ascii),
   (["utf_8", "utf_8_sig", "cp65001", "u8", "utf", "utf8", "utf8_ucs2", "utf8_ucs4"],
      .single .ascii),
   (["cp1252", "1252", "windows_1252"], .single .windows1252),
   (["iso8859_15", "iso_8859_15", "l9", "latin9"], .single .latin9),
   (["utf_16", "u16", "utf16", "utf_16_be", "unicodebigunmarked", "utf_16be", "utf_16_le",
      "unicodelittleunmarked", "utf_16le", "utf_32", "u32", "utf32", "utf_32_be", "utf_32be",
      "utf_32_le", "utf_32le", "utf_7", "u7", "unicode_1_1_utf_7", "utf7", "shift_jis",
      "csshiftjis", "s_jis", "shiftjis", "sjis", "x_mac_japanese", "euc_jp", "eucjp", "u_jis",
      "ujis", "gbk", "936", "cp936", "ms936", "gb2312", "chinese", "csiso58gb231280", "euc_cn",
      "euccn", "eucgb2312_cn", "gb2312_1980", "gb2312_80", "iso_ir_58", "x_mac_simp_chinese",
      "big5", "big5_tw", "csbig5", "x_mac_trad_chinese", "euc_kr", "euckr", "korean",
      "ks_c_5601", "ks_c_5601_1987", "ks_x_1001", "ksc5601", "ksx1001", "x_mac_korean", "cp932",
      "932", "ms932", "ms_kanji", "mskanji", "cp949", "949", "ms949", "uhc", "cp950", "950",
      "ms950", "gb18030", "gb18030_2000", "hz", "hz_gb", "hz_gb_2312", "hzgb", "iso2022_jp",
      "csiso2022jp", "iso_2022_jp", "iso2022_kr", "csiso2022kr", "iso_2022_kr", "big5hkscs",
      "big5_hkscs", "hkscs", "johab", "cp1361", "ms1361"], .multi)]

def charsetOf? (name : String) : Option Charset :=
  let n := normalizeCharsetName name
  let alt := String.ofList (n.toList.map fun c => if c = '.' then '_' else c)
  (charsetNames.find? fun (names, _) => names.contains n || names.contains alt).map (·.2)

def upperAscii (s : String) : String := String.ofList (s.toList.map Char.toUpper)

def readChars (text : String) : Except DocumentError Element :=
  match Document.read text with
  | .ok e => .ok e
  | .error e => .error (.malformed e)

def Document.readBytes (bytes : List UInt8) : Except DocumentError Element :=
  let utf8 := String.fromUTF8? (ByteArray.mk bytes.toArray)
  match bytes, utf8 with
  | 0xEF :: 0xBB :: 0xBF :: _, some text => readChars text
  | _, none => readChars (ByteCharset.latin1.decode bytes)
  | _, some text =>
    let cs := text.toList
    match leadingDeclaration (Src.ofList cs 0) with
    | .ok (some ⟨some enc, _⟩, _) =>
      match upperAscii enc.value with
      | "UTF-8" => readChars text
      | "ISO-8859-1" => readChars (ByteCharset.latin1.decode bytes)
      | "US-ASCII" => readChars (ByteCharset.ascii.decode bytes)
      | "UTF-16" | "UTF-16BE" | "UTF-16LE" =>
        .error (.malformed ((Failure.mk .incorrectEncoding enc.valuePos).locate cs))
      | _ =>
        match charsetOf? enc.value with
        | some (.single set) => readChars (set.decode bytes)
        | some .multi => .error .multiByte
        | none => .error (.unknownCharset enc.value)
    | _ => readChars text

end SketchGen.Xml
