/-!
# Byte text

Words, paths, program output and log lines are strings of bytes: nothing promises that they are
valid UTF-8. `Utf8.encode` writes a character, `Utf8.decode` reads a string of bytes as characters,
and every byte that starts no character is read as the replacement character U+FFFD.
-/
namespace AuditShell

/-- A string of bytes. -/
abbrev Bytes := List UInt8

/-- The character that stands for a byte which is not part of any character. -/
def replacement : Char := '\uFFFD'

namespace Utf8

/-- The bytes of one character. -/
def encodeChar (c : Char) : Bytes :=
  let n := c.toNat
  if n < 0x80 then [n.toUInt8]
  else if n < 0x800 then [(0xC0 + n / 0x40).toUInt8, (0x80 + n % 0x40).toUInt8]
  else if n < 0x10000 then
    [(0xE0 + n / 0x1000).toUInt8, (0x80 + n / 0x40 % 0x40).toUInt8, (0x80 + n % 0x40).toUInt8]
  else
    [(0xF0 + n / 0x40000).toUInt8, (0x80 + n / 0x1000 % 0x40).toUInt8,
      (0x80 + n / 0x40 % 0x40).toUInt8, (0x80 + n % 0x40).toUInt8]

/-- The bytes of a string of characters. -/
def encode (cs : List Char) : Bytes := cs.flatMap encodeChar

/-- A byte that continues a character. -/
def isTail (b : UInt8) : Bool := 0x80 ≤ b && b ≤ 0xBF

/-- The six bits that a continuing byte carries. -/
def tailBits (b : UInt8) : Nat := b.toNat - 0x80

/-- What the text starts with: a character and the number of its bytes, or nothing where the first
byte starts no character. The shortest form is the only one, and surrogates are no characters. -/
def first? : Bytes → Option (Char × Nat)
  | [] => none
  | a :: rest =>
    if a < 0x80 then some (Char.ofNat a.toNat, 1)
    else if 0xC2 ≤ a && a ≤ 0xDF then
      match rest with
      | b :: _ => if isTail b then some (Char.ofNat ((a.toNat - 0xC0) * 0x40 + tailBits b), 2) else none
      | _ => none
    else if 0xE0 ≤ a && a ≤ 0xEF then
      match rest with
      | b :: c :: _ =>
        let n := (a.toNat - 0xE0) * 0x1000 + tailBits b * 0x40 + tailBits c
        if isTail b && isTail c && 0x800 ≤ n && !(0xD800 ≤ n && n ≤ 0xDFFF) then some (Char.ofNat n, 3)
        else none
      | _ => none
    else if 0xF0 ≤ a && a ≤ 0xF4 then
      match rest with
      | b :: c :: d :: _ =>
        let n := (a.toNat - 0xF0) * 0x40000 + tailBits b * 0x1000 + tailBits c * 0x40 + tailBits d
        if isTail b && isTail c && isTail d && 0x10000 ≤ n && n ≤ 0x10FFFF then some (Char.ofNat n, 4)
        else none
      | _ => none
    else none

/-- One unit of a text: a character with its bytes, or a byte that belongs to none. -/
inductive Piece where
  | char (c : Char)
  | stray (b : UInt8)
  deriving DecidableEq, Repr

/-- The units of a text in order. `skip` counts the bytes of the current character still to come. -/
def piecesFrom : Nat → Bytes → List Piece
  | _, [] => []
  | skip + 1, _ :: rest => piecesFrom skip rest
  | 0, b :: rest =>
    match first? (b :: rest) with
    | some (c, n) => .char c :: piecesFrom (n - 1) rest
    | none => .stray b :: piecesFrom 0 rest

/-- The units of a text in order. -/
def pieces (bs : Bytes) : List Piece := piecesFrom 0 bs

/-- The character that is read for a unit. -/
def Piece.toChar : Piece → Char
  | .char c => c
  | .stray _ => replacement

/-- The text read as characters: each stray byte is one replacement character. -/
def decode (bs : Bytes) : List Char := (pieces bs).map Piece.toChar

/-- Whether the text is the encoding of some string of characters. -/
def isValid (bs : Bytes) : Bool :=
  (pieces bs).all fun p => match p with
    | .char _ => true
    | .stray _ => false

/-- The text with each stray byte replaced by the bytes of U+FFFD. -/
def repair (bs : Bytes) : Bytes := encode (decode bs)

end Utf8

/-- The bytes of a literal. -/
def text (s : String) : Bytes := Utf8.encode s.toList

namespace Bytes

/-- The decimal digits of an integer. -/
def ofInt (n : Int) : Bytes := text (toString n)

/-- The decimal digits of a natural number. -/
def ofNat (n : Nat) : Bytes := text (toString n)

/-- The pieces with a separator between every two of them. -/
def join (sep : Bytes) : List Bytes → Bytes
  | [] => []
  | [b] => b
  | b :: bs => b ++ sep ++ join sep bs

/-- The pieces between the occurrences of a byte: one more piece than occurrences. -/
def splitOn (sep : UInt8) : Bytes → List Bytes
  | [] => [[]]
  | b :: rest =>
    if b = sep then [] :: splitOn sep rest
    else match splitOn sep rest with
      | [] => [[b]]
      | piece :: more => (b :: piece) :: more

/-- Whether `needle` occurs in the text. -/
def contains (needle : Bytes) : Bytes → Bool
  | [] => needle.isEmpty
  | b :: rest => needle.isPrefixOf (b :: rest) || contains needle rest

/-- The order of byte strings: byte by byte, a proper beginning first. -/
def le : Bytes → Bytes → Bool
  | [], _ => true
  | _ :: _, [] => false
  | a :: as, b :: bs => a < b || (a == b && le as bs)

/-- The text as a `String`, stray bytes replaced. -/
def toString (bs : Bytes) : String := String.ofList (Utf8.decode bs)

end Bytes

end AuditShell
