/-!
# Taking control sequences out of a text

Text that comes from outside may hold sequences that a terminal obeys instead of showing them. `plain` keeps what
a terminal would show: printable characters, and the blanks that move on a line or to the next one.

The reader of sequences is in one of ten **phases**; `Phase.next` says which phase a character leads to. The
characters of a sequence are dropped. A **run** of shown characters is read as ordinary text up to the first
character that is not shown, whatever phase the run began in: a blank inside a sequence is shown and lets the
rest of that sequence be shown as well.
-/
namespace CartridgeFixture.Terminal

/-- Where in a control sequence a character stands. -/
inductive Phase where
  /-- Outside of any sequence. -/
  | ground
  /-- Behind an escape character. -/
  | escape
  /-- Behind an escape character and an intermediate one. -/
  | escapeIntermediate
  /-- In a control sequence proper, `ESC [`. -/
  | control
  /-- In an operating system command, `ESC ]`. -/
  | command
  /-- At the start of a device control string, `ESC P`. -/
  | deviceEntry
  /-- In the parameters of a device control string. -/
  | deviceParameter
  /-- Behind an intermediate character of a device control string. -/
  | deviceIntermediate
  /-- In the data of a device control string, or in one that is malformed. -/
  | deviceData
  /-- In a string for the application, `ESC X`, `ESC ^` or `ESC _`. -/
  | applicationString
  deriving DecidableEq, Repr

/-- The character that opens every sequence. -/
def escapeChar : Char := '\x1b'

/-- Whether a character lies between two others, both included. -/
def between (low high c : Char) : Bool := low ≤ c && c ≤ high

/-- Whether a character is a single byte. -/
def isAscii (c : Char) : Bool := c.toNat < 0x80

/-- Whether the encoding of a character has the byte that ends device and application strings. -/
def hasTerminator (c : Char) : Bool := (String.utf8EncodeChar c).contains 0x9c

namespace Phase

/-- The phase behind an intermediate or final character of a device control string. -/
def nextInDevice (p : Phase) (c : Char) : Phase :=
  if between '@' '~' c then .deviceData
  else if p = .deviceIntermediate then
    if between '0' '?' c then .deviceData else p
  else if between ' ' '/' c then .deviceIntermediate
  else if c = ':' then .deviceData
  else if between '<' '?' c then (if p = .deviceEntry then .deviceParameter else .deviceData)
  else if between '0' ';' c then .deviceParameter
  else p

/-- The phase behind an escape character and one more. -/
def nextInEscape (c : Char) : Phase :=
  if between ' ' '/' c then .escapeIntermediate
  else if c = '[' then .control
  else if c = ']' then .command
  else if c = 'P' then .deviceEntry
  else if c = 'X' ∨ c = '^' ∨ c = '_' then .applicationString
  else if between '0' '~' c then .ground
  else .escape

/-- The phase behind a character. An escape character opens a sequence from anywhere, and two control
characters break off any sequence. A character of several bytes can only end a string. -/
def next (p : Phase) (c : Char) : Phase :=
  if c = escapeChar then .escape
  else if c = '\x18' ∨ c = '\x1a' then .ground
  else if !isAscii c then
    if (p = .deviceData ∨ p = .applicationString) ∧ hasTerminator c then .ground else p
  else match p with
    | .ground => .ground
    | .escape => nextInEscape c
    | .escapeIntermediate => if between '0' '~' c then .ground else p
    | .control => if between '@' '~' c then .ground else p
    | .command => if c = '\x07' then .ground else p
    | .deviceEntry | .deviceParameter | .deviceIntermediate => nextInDevice p c
    | .deviceData | .applicationString => p

/-- Whether single control characters take effect inside the sequence. -/
def obeysControls : Phase → Bool
  | .ground | .escape | .escapeIntermediate | .control => true
  | _ => false

/-- Whether a character is shown. -/
def shows (p : Phase) (c : Char) : Bool :=
  (p = .ground && (between ' ' '~' c || !isAscii c)) ||
  (p.obeysControls && (c == '\t' || c == '\n' || c == '\x0c' || c == '\r'))

end Phase

/-- The shown characters of a text. The flag tells whether a run of shown characters is under way; then
characters are judged as outside of any sequence. -/
def shown (inRun : Bool) (p : Phase) : List Char → List Char
  | [] => []
  | c :: rest =>
    if (if inRun then Phase.ground else p).shows c then
      c :: shown true (if isAscii c then p else .ground) rest
    else shown false (p.next c) rest

/-- A text without its control sequences. -/
def plain (text : String) : String := String.ofList (shown false .ground text.toList)

end CartridgeFixture.Terminal
