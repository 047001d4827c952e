import BusMaster.Properties.Charset
import BusMaster.Properties.Escape
import BusMaster.Properties.Line

/-!
# Properties

Keys and values read from a text with one pair a line.

* `Properties`: the pairs, with `get?`, `insert`, `keys` and `size`.
* `Content.ofLine`: what a logical line holds.
* `Properties.parse`: the pairs of a text, or the first line with a bad escape.
* `Properties.writePair`: a pair as a line that `parse` reads back.
-/

namespace BusMaster

/-- Keys with their values, in the order in which the keys came up. -/
structure Properties where
  pairs : List (String × String) := []
deriving DecidableEq, Repr

namespace Properties

def get? (props : Properties) (key : String) : Option String :=
  props.pairs.lookup key

/-- The pairs with `value` under `key`, in the place of the value before it if there was one. -/
def insertPair (key value : String) : List (String × String) → List (String × String)
  | [] => [(key, value)]
  | (k, v) :: rest => if k = key then (k, value) :: rest else (k, v) :: insertPair key value rest

def insert (props : Properties) (key value : String) : Properties :=
  ⟨insertPair key value props.pairs⟩

def keys (props : Properties) : List String :=
  props.pairs.map (·.1)

/-- The number of keys. -/
def size (props : Properties) : Nat :=
  props.pairs.length

/-! ## Reading -/

/-- What a logical line holds, still escaped. -/
inductive Content where
  | nothing
  | comment (text : List Char)
  | entry (key value : List Char)
deriving DecidableEq, Repr

/-- The key at the start of the text, and what comes after it: the key ends before white space, a
colon or an equals sign that no backslash precedes. -/
def splitKey : List Char → List Char × List Char
  | [] => ([], [])
  | '\\' :: c :: rest =>
    let (key, after) := splitKey rest
    ('\\' :: c :: key, after)
  | c :: rest =>
    if c == '\\' || c == ':' || c == '=' || isSpace c then ([], c :: rest)
    else
      let (key, after) := splitKey rest
      (c :: key, after)

/-- The text after the separator: white space with at most one colon or equals sign in it. -/
def afterSeparator (text : List Char) : List Char :=
  match text.dropWhile isSpace with
  | ':' :: rest => rest.dropWhile isSpace
  | '=' :: rest => rest.dropWhile isSpace
  | rest => rest

/-- What the line holds. White space counts neither before the line's first other character nor at
the end of a comment. -/
def Content.ofLine (line : List Char) : Content :=
  match line.dropWhile isSpace with
  | [] => .nothing
  | c :: rest =>
    if isCommentMark c then
      .comment (((rest.dropWhile isSpace).reverse.dropWhile isSpace).reverse)
    else
      let (key, after) := splitKey (c :: rest)
      .entry key (afterSeparator after)

/-- A line that could not be read. -/
structure Malformed where
  line : Nat
  cause : EscapeError
deriving DecidableEq, Repr

namespace Malformed

def reason (e : Malformed) : String :=
  s!"Malformed \\uxxxx encoding: {e.cause.description}. (line_number = {e.line})"

def message (e : Malformed) : String :=
  s!"line {e.line}: {e.reason}"

end Malformed

/-- Adds what a logical line holds. The escapes of comments are checked too. -/
def addLine (props : Properties) (line : LogicalLine) : Except Malformed Properties :=
  let result : Except EscapeError Properties :=
    match Content.ofLine line.text with
    | .nothing => return props
    | .comment text => do
      let _ ← unescape text
      return props
    | .entry key value => do
      let key ← unescape key
      let value ← unescape value
      return props.insert (.ofList key) (.ofList value)
  result.mapError (⟨line.number, ·⟩)

/-- The pairs of a text. Of several values for a key the last one counts. -/
def parse (text : String) : Except Malformed Properties :=
  (logicalLines (decode text.toList)).foldlM addLine {}

/-! ## Writing -/

/-- A pair as a line. -/
def writePair (key value : String) : List Char :=
  key.toList.flatMap escape ++ '=' :: value.toList.flatMap escape ++ ['\n']

end Properties

end BusMaster
