/-!
# The character set of a properties text

A properties text is stored as UTF-8 and read one byte a character in the windows-1252 set, so that
only ASCII characters come out as they went in. A text that starts with a byte order mark is read
as the UTF-8 it is, without the mark.

* `windows1252`: the character of a byte.
* `decode`: the characters that a text is read as.
-/

namespace BusMaster.Properties

/-- The characters of the bytes `0x80` to `0x9F`; the five that the set leaves open are controls. -/
def windows1252High : List Nat :=
  [0x20AC, 0x81, 0x201A, 0x0192, 0x201E, 0x2026, 0x2020, 0x2021, 0x02C6, 0x2030, 0x0160, 0x2039,
    0x0152, 0x8D, 0x017D, 0x8F, 0x90, 0x2018, 0x2019, 0x201C, 0x201D, 0x2022, 0x2013, 0x2014,
    0x02DC, 0x2122, 0x0161, 0x203A, 0x0153, 0x9D, 0x017E, 0x0178]

/-- The character of a byte. Outside `0x80` to `0x9F` it is the one of the same number. -/
def windows1252 (byte : UInt8) : Char :=
  if 0x80 ≤ byte.toNat ∧ byte.toNat < 0xA0 then
    Char.ofNat (windows1252High.getD (byte.toNat - 0x80) 0)
  else Char.ofNat byte.toNat

/-- The characters that a text is read as. -/
def decode (text : List Char) : List Char :=
  match text with
  | '\uFEFF' :: rest => rest
  | _ => (text.flatMap String.utf8EncodeChar).map windows1252

end BusMaster.Properties
