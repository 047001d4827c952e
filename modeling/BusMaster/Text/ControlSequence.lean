/-!
# Control sequences

Sequences of characters that steer a terminal and print nothing. They start with the escape
character, and what follows it says how they end: a control sequence (`[`) at its final character,
a command (`]`) at a bell, a device control string (`P`) and other strings at a terminator, and the
rest after one character. An escape character starts anew anywhere, and two other controls break any
sequence off. White space only interrupts a sequence that is no string: it is printed, and so is
what follows up to the next control, where the sequence goes on.

* `State.advance`: one character of a sequence.
* `Reader.advance`: one character of a text.
* `strip`: the text that is left to print.
-/

namespace BusMaster.Text.ControlSequence

/-- What was read of the parameters of a sequence. -/
inductive Part where
  | entry
  | parameters
  | intermediates
deriving DecidableEq, Repr

/-- Where in a sequence a reader stands. -/
inductive State where
  /-- Outside of any sequence. -/
  | ground
  /-- After the escape character, and intermediate characters if there were any. -/
  | escape (intermediates : Bool)
  | control (part : Part)
  /-- In a control sequence that is badly formed, up to its final character. -/
  | badControl
  /-- In the parameters of a device control string. -/
  | device (part : Part)
  /-- In a string, up to its terminator. -/
  | string
  /-- In a command, up to a bell. -/
  | command
deriving DecidableEq, Repr

/-- What a character does to the parameters of a sequence: they go on, are badly formed, or end. -/
inductive Parameters where
  | more (part : Part)
  | bad
  | final
deriving DecidableEq, Repr

def Part.read (part : Part) (code : Nat) : Parameters :=
  if code < 0x30 then .more .intermediates
  else if code < 0x3C then if part = .intermediates then .bad else .more .parameters
  else if code < 0x40 then if part = .entry then .more .parameters else .bad
  else .final

/-- The state after a graphic ASCII character. -/
def State.graphic (s : State) (code : Nat) : State :=
  match s with
  | ground => ground
  | escape intermediates =>
    if code < 0x30 then escape true
    else if intermediates then ground
    else if code = '['.toNat then control .entry
    else if code = ']'.toNat then command
    else if code = 'P'.toNat then device .entry
    else if code = 'X'.toNat ∨ code = '^'.toNat ∨ code = '_'.toNat then string
    else ground
  | control part =>
    match part.read code with
    | .more part => control part
    | .bad => badControl
    | .final => ground
  | badControl => if code < 0x40 then badControl else ground
  | device part =>
    match part.read code with
    | .more part => device part
    | .bad | .final => string
  | string => string
  | command => command

/-- White space that moves the place of printing. It is printed even inside of a sequence, unless
that is a string. -/
def isLayout (c : Char) : Bool :=
  c == '\t' || c == '\n' || c == '\x0c' || c == '\r'

/-- A string ends in the middle of a character whose bytes hold the terminator. -/
def holdsTerminator (c : Char) : Bool :=
  (String.utf8EncodeChar c).contains 0x9C

/-- The state after a character that is read as part of a sequence, and whether it is printed. -/
def State.advance (s : State) (c : Char) : State × Bool :=
  let code := c.toNat
  if code = 0x18 ∨ code = 0x1A then (ground, false)
  else if code = 0x1B then (escape false, false)
  else if code = 0x7F then (s, false)
  else if code < 0x20 then
    match s with
    | command => (if code = 0x07 then ground else command, false)
    | device _ | string => (s, false)
    | ground | escape _ | control _ | badControl => (s, isLayout c)
  else if code < 0x80 then (s.graphic code, s = ground)
  else
    match s with
    | ground => (ground, true)
    | string => (if holdsTerminator c then ground else string, false)
    | other => (other, false)

/-- A reader of a text: where it stands, and whether it printed the character before. -/
structure Reader where
  state : State := .ground
  printing : Bool := false
deriving DecidableEq, Repr

/-- White space and graphic characters, which are printed after one that was printed. -/
def isPlain (c : Char) : Bool :=
  isLayout c || (0x20 ≤ c.toNat && c.toNat != 0x7F)

/-- The reader after a character, and whether the character is printed. A sequence that white space
interrupted is forgotten at the first character beyond ASCII that is printed. -/
def Reader.advance (r : Reader) (c : Char) : Reader × Bool :=
  if r.printing && isPlain c then
    ({ r with state := if c.toNat < 0x80 then r.state else .ground }, true)
  else
    let (state, printing) := r.state.advance c
    ({ state, printing }, printing)

/-- The characters printed from a reader on. -/
def stripFrom (r : Reader) : List Char → List Char
  | [] => []
  | c :: rest =>
    let (next, printed) := r.advance c
    if printed then c :: stripFrom next rest else stripFrom next rest

/-- The text without its control sequences and other controls; white space stays. -/
def strip (text : List Char) : List Char :=
  stripFrom {} text

end BusMaster.Text.ControlSequence
