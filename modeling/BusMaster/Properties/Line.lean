import BusMaster.Text.Blank

/-!
# Lines of a properties text

A text is cut into physical lines, and these are joined into logical ones: a physical line that ends
in an odd number of backslashes goes on in the next.

* `physicalLines`: the lines between the ends CR, LF and CRLF, the last one with no end after it.
* `LogicalLine`, `logicalLines`: the joined lines, each with the number of its first physical line.
-/

namespace BusMaster.Properties

/-- The white space that separates a key from its value. -/
def isSpace (c : Char) : Bool :=
  c == ' ' || c == '\t' || c == '\r' || c == '\n' || c == '\x0c'

/-- A character that starts a comment. -/
def isCommentMark (c : Char) : Bool :=
  c == '#' || c == '!'

/-- The lines of a text: one more than it has line ends. -/
def physicalLines : List Char → List (List Char)
  | [] => [[]]
  | '\r' :: '\n' :: cs => [] :: physicalLines cs
  | '\r' :: cs => [] :: physicalLines cs
  | '\n' :: cs => [] :: physicalLines cs
  | c :: cs =>
    match physicalLines cs with
    | [] => [[c]]
    | line :: lines => (c :: line) :: lines

/-- A comment mark is the first character of the line that is no white space. -/
def isComment (line : List Char) : Bool :=
  (line.dropWhile isSpace).head?.any isCommentMark

/-- The number of backslashes at the end of the line. -/
def trailingBackslashes (line : List Char) : Nat :=
  (line.reverse.takeWhile (· == '\\')).length

/-- The last backslash of the line escapes the end of the line. -/
def continues (line : List Char) : Bool :=
  trailingBackslashes line % 2 == 1

/-- Physical lines joined into one. -/
structure LogicalLine where
  /-- The number of the first of them, counted from one. -/
  number : Nat
  text : List Char
deriving DecidableEq, Repr

/-- The logical lines of the physical lines from number `number` on, the first of which continues
`begun`, if it is given. A continuation loses the blanks that it starts with and starts no comment;
a comment that starts a logical line does not continue. A logical line that the text leaves
unfinished is lost. -/
def join (number : Nat) (begun : Option LogicalLine) : List (List Char) → List LogicalLine
  | [] => []
  | line :: rest =>
    match begun with
    | none =>
      if !isComment line && continues line then
        join (number + 1) (some ⟨number, line.dropLast⟩) rest
      else ⟨number, line⟩ :: join (number + 1) none rest
    | some before =>
      if continues line then
        let text := before.text ++ (Text.trimStart line).dropLast
        join (number + 1) (some { before with text }) rest
      else
        { before with text := before.text ++ Text.trimStart line } :: join (number + 1) none rest

/-- The logical lines of a text. -/
def logicalLines (text : List Char) : List LogicalLine :=
  join 1 none (physicalLines text)

end BusMaster.Properties
