import BusMaster.Json.Value
import BusMaster.Text.Numeral

/-!
# Reading JSON

A JSON text as a value. The reader is made for texts that are well formed; from others it reads what
it can, or nothing.

* `Json.parseNumber`: the rule for numbers; `Json.scaled`: digits and an exponent as a float.
* `Json.parse?`: the value of a text.
-/

namespace BusMaster.Json

def skipBlanks (cs : List Char) : List Char :=
  cs.dropWhile fun c => c == ' ' || c == '\t' || c == '\n' || c == '\r'

/-- The number that the digits give in a base, every other character counting as zero. -/
def valueOf (base : Nat) (digits : List Char) : Nat :=
  digits.foldl (fun n c => n * base + (Text.Numeral.digit? base c).getD 0) 0

/-- The character that a backslash and `c` stand for, `u` apart. -/
def escapedChar : Char → Char
  | 'n' => '\n'
  | 't' => '\t'
  | 'r' => '\r'
  | 'b' => '\x08'
  | 'f' => '\x0c'
  | c => c

/-- The rest of a string up to its closing quote, and what comes after. Two units that are a
surrogate pair are one character. -/
def parseString : List Char → Option (List Char × List Char)
  | '"' :: rest => some ([], rest)
  | '\\' :: 'u' :: a :: b :: c :: d :: '\\' :: 'u' :: e :: f :: g :: h :: rest =>
    let high := valueOf 16 [a, b, c, d]
    let low := valueOf 16 [e, f, g, h]
    if 0xD800 ≤ high ∧ high < 0xDC00 then
      (parseString rest).map fun (cs, after) =>
        (Char.ofNat (0x10000 + (high - 0xD800) * 0x400 + (low - 0xDC00)) :: cs, after)
    else
      (parseString ('\\' :: 'u' :: e :: f :: g :: h :: rest)).map fun (cs, after) =>
        (Char.ofNat high :: cs, after)
  | '\\' :: 'u' :: a :: b :: c :: d :: rest =>
    (parseString rest).map fun (cs, after) => (Char.ofNat (valueOf 16 [a, b, c, d]) :: cs, after)
  | '\\' :: c :: rest => (parseString rest).map fun (cs, after) => (escapedChar c :: cs, after)
  | c :: rest => (parseString rest).map fun (cs, after) => (c :: cs, after)
  | [] => none

/-- The exponent of a number; nothing stands for zero. -/
def parseExponent : List Char → Int
  | _ :: '-' :: digits => -(valueOf 10 digits : Int)
  | _ :: '+' :: digits => valueOf 10 digits
  | _ :: digits => valueOf 10 digits
  | [] => 0

/-- The digits appended to a number for as long as it fits in 64 bits, and those that are left. -/
def gather : Nat → List Char → Nat × List Char
  | n, [] => (n, [])
  | n, c :: cs =>
    let next := n * 10 + valueOf 10 [c]
    if next ≤ 0xFFFFFFFFFFFFFFFF then gather next cs else (n, c :: cs)

/-- The largest power of ten that a float holds. -/
def greatestPower : Nat := 308

/-- A power of ten as a float. -/
def powerOfTen (n : Nat) : Float :=
  .ofScientific 1 false n

/-- A float divided by a power of ten, in steps of at most the largest power. -/
def dividedBy (x : Float) (power : Nat) : Float :=
  if power ≤ greatestPower then x / powerOfTen power
  else if x == 0 then x
  else dividedBy (x / powerOfTen greatestPower) (power - greatestPower)
termination_by power
decreasing_by simp only [greatestPower] at *; omega

/-- A number times a power of ten. The number, the power and the result are each rounded, so that
the last place may differ from that of the nearest float. -/
def scaled (n : Nat) (exponent : Int) : Float :=
  if n = 0 then 0
  else if 0 ≤ exponent then n.toFloat * powerOfTen exponent.toNat
  else dividedBy n.toFloat exponent.natAbs

/-- The number that a text gives: an integer if it has neither fraction nor exponent and fits in 64
bits, with a sign or without, and a float otherwise. A negative zero is a float. A float is read
from the digits that fit in 64 bits; of those that do not, the ones before the point still raise the
exponent. -/
def parseNumber (text : List Char) : Json :=
  let negative := text.head? == some '-'
  let body := if negative then text.drop 1 else text
  let whole := body.takeWhile Char.isDigit
  let rest := body.drop whole.length
  let fraction := if rest.head? == some '.' then (rest.drop 1).takeWhile Char.isDigit else []
  let (value, excess) := gather 0 whole
  let fits : Bool := excess.isEmpty && (!negative || (0 < value && value ≤ 0x8000000000000000))
  if rest.isEmpty && fits then integer (if negative then -(value : Int) else value)
  else
    let tail := if rest.head? == some '.' then rest.drop (fraction.length + 1) else rest
    let (digits, unread) := gather value fraction
    let exponent : Int := parseExponent tail + excess.length + unread.length - fraction.length
    let magnitude := scaled digits exponent
    float (if negative then -magnitude else magnitude)

def isNumberChar (c : Char) : Bool :=
  c.isDigit || c == '-' || c == '+' || c == '.' || c == 'e' || c == 'E'

mutual

/-- The value at the start of a text and what comes after it, within `depth` nested calls. -/
def parseValue : (depth : Nat) → List Char → Option (Json × List Char)
  | 0, _ => none
  | depth + 1, text =>
    match skipBlanks text with
    | '"' :: rest => (parseString rest).map fun (cs, after) => (string (.ofList cs), after)
    | '[' :: rest =>
      match skipBlanks rest with
      | ']' :: after => some (array [], after)
      | rest => (parseItems depth rest).map fun (items, after) => (array items, after)
    | '\x7b' :: rest =>
      match skipBlanks rest with
      | '\x7d' :: after => some (object [], after)
      | rest => (parseFields depth rest).map fun (fields, after) => (object fields, after)
    | 't' :: 'r' :: 'u' :: 'e' :: after => some (bool true, after)
    | 'f' :: 'a' :: 'l' :: 's' :: 'e' :: after => some (bool false, after)
    | 'n' :: 'u' :: 'l' :: 'l' :: after => some (null, after)
    | rest =>
      some (parseNumber (rest.takeWhile isNumberChar), rest.dropWhile isNumberChar)

/-- The items of an array up to its end. -/
def parseItems : (depth : Nat) → List Char → Option (List Json × List Char)
  | 0, _ => none
  | depth + 1, text => do
    let (item, rest) ← parseValue depth text
    match skipBlanks rest with
    | ',' :: rest =>
      let (items, after) ← parseItems depth rest
      return (item :: items, after)
    | ']' :: after => return ([item], after)
    | _ => none

/-- The fields of an object up to its end. -/
def parseFields : (depth : Nat) → List Char → Option (List (String × Json) × List Char)
  | 0, _ => none
  | depth + 1, text =>
    match skipBlanks text with
    | '"' :: rest => do
      let (key, rest) ← parseString rest
      match skipBlanks rest with
      | ':' :: rest =>
        let (value, rest) ← parseValue depth rest
        match skipBlanks rest with
        | ',' :: rest =>
          let (fields, after) ← parseFields depth rest
          return ((.ofList key, value) :: fields, after)
        | '\x7d' :: after => return ([(.ofList key, value)], after)
        | _ => none
      | _ => none
    | _ => none

end

/-- The value of a text. Every call reads at least one character or ends, so twice the length is
depth enough. -/
def parse? (text : String) : Option Json :=
  (parseValue (2 * text.length + 2) text.toList).map (·.1)

end BusMaster.Json
