import BusMaster.Decimal.Shortest
import BusMaster.Text.Hex

/-!
# JSON values

A JSON document as a value, and its two written forms: `Json.compact` on one line without blanks,
`Json.pretty` with one item a line and two blanks a level.
-/

namespace BusMaster

/-- A JSON document. A number is an integer if it is written as one and fits in 64 bits, and a
float otherwise. -/
inductive Json where
  | null
  | bool (value : Bool)
  | integer (value : Int)
  | float (value : Float)
  | string (value : String)
  | array (items : List Json)
  | object (fields : List (String × Json))
deriving Inhabited

namespace Json

/-- A character inside a string: quotes, backslashes and control characters are escaped. -/
def escape (c : Char) : List Char :=
  match c with
  | '"' => ['\\', '"']
  | '\\' => ['\\', '\\']
  | '\n' => ['\\', 'n']
  | '\r' => ['\\', 'r']
  | '\t' => ['\\', 't']
  | '\x08' => ['\\', 'b']
  | '\x0c' => ['\\', 'f']
  | c =>
    if c.toNat < 0x20 then
      ['\\', 'u', '0', '0'] ++ (Text.hexByte c.toNat.toUInt8).map Char.toLower
    else [c]

/-- The string between its quotes. -/
def quoted (s : String) : String :=
  .ofList ('"' :: s.toList.flatMap escape ++ ['"'])

/-- The digits of a decimal as JSON writes them: positional from `1e-5` up to sixteen places before
the point, always with a point; otherwise one digit, the point if more follow, and an exponent with
its sign. -/
def decimalText (d : Decimal.Scaled) : String :=
  let digits := Nat.toDigits 10 d.digits
  let point : Int := digits.length + d.exponent
  let zeros (n : Int) := List.replicate n.toNat '0'
  .ofList <|
    if 0 ≤ d.exponent ∧ point ≤ 16 then digits ++ zeros d.exponent ++ ['.', '0']
    else if 0 < point ∧ point ≤ 16 then digits.take point.toNat ++ '.' :: digits.drop point.toNat
    else if -5 < point ∧ point ≤ 0 then '0' :: '.' :: zeros (-point) ++ digits
    else
      let mantissa := if digits.length = 1 then digits else digits.take 1 ++ '.' :: digits.drop 1
      mantissa ++ 'e' :: (if 0 < point then ['+'] else []) ++ (toString (point - 1)).toList

/-- The shortest text that reads back as the float. -/
def floatText (x : Float) : String :=
  let sign := if x.toBits < 0x8000000000000000 then "" else "-"
  sign ++ decimalText (Decimal.Binary.ofFloat x).shortest

mutual

/-- The document on one line. -/
def compact : Json → String
  | null => "null"
  | bool value => if value then "true" else "false"
  | integer value => toString value
  | float value => floatText value
  | string value => quoted value
  | array items => "[" ++ ",".intercalate (compactItems items) ++ "]"
  | object fields => "\x7b" ++ ",".intercalate (compactFields fields) ++ "\x7d"

def compactItems : List Json → List String
  | [] => []
  | item :: items => compact item :: compactItems items

def compactFields : List (String × Json) → List String
  | [] => []
  | (key, value) :: fields => (quoted key ++ ":" ++ compact value) :: compactFields fields

end

/-- Items between brackets, each on a line of its own at depth `depth + 1`. -/
def block (opening closing : String) (depth : Nat) (items : List String) : String :=
  let line (n : Nat) := "\n" ++ "".pushn ' ' (2 * n)
  if items.isEmpty then opening ++ closing
  else opening ++ line (depth + 1) ++ ("," ++ line (depth + 1)).intercalate items ++ line depth
    ++ closing

mutual

/-- The document at an indentation of `depth` levels, its first line not indented. -/
def prettyAt (depth : Nat) : Json → String
  | array items => block "[" "]" depth (prettyItems (depth + 1) items)
  | object fields => block "\x7b" "\x7d" depth (prettyFields (depth + 1) fields)
  | value => compact value

def prettyItems (depth : Nat) : List Json → List String
  | [] => []
  | item :: items => prettyAt depth item :: prettyItems depth items

def prettyFields (depth : Nat) : List (String × Json) → List String
  | [] => []
  | (key, value) :: fields =>
    (quoted key ++ ": " ++ prettyAt depth value) :: prettyFields depth fields

end

/-- The document with one item a line. -/
def pretty (value : Json) : String :=
  value.prettyAt 0

end Json

end BusMaster
