import PassPipeline.Text.Quoted
import PassPipeline.Text.Utf8

/-!
# Text on a terminal

A terminal takes some characters as commands: most controls, and the sequences that an
escape character introduces.  Text that a user chose must not command the terminal on
which it is shown.  Help and the faults of a command line are shown without the commands
in them; the log shows a command as text.
-/

namespace PassPipeline.Text.Terminal

/-! ## Sequences -/

/-- How far the head of a sequence has come. -/
inductive Part where
  | opening
  | parameters
  | intermediates
  deriving DecidableEq, Repr

/-- Where in a sequence the next character stands. -/
inductive State where
  /-- Outside every sequence. -/
  | ground
  /-- After an escape character, and perhaps intermediate characters. -/
  | escape (intermediate : Bool)
  /-- In the head of a control sequence, or of a control string for a device. -/
  | head (device : Bool) (part : Part)
  /-- In a control sequence that no terminal knows. -/
  | ignored
  /-- In a command for the operating system, which ends with a bell. -/
  | system
  /-- In a control string, which ends with a string terminator. -/
  | string
  deriving DecidableEq, Repr

namespace State

/-- Where a head leads that is not well formed. -/
def unknown (device : Bool) : State := if device then .string else .ignored

/-- Where a printable character leads in a head. -/
def nextInHead (device : Bool) (part : Part) (c : Char) : State :=
  if '@' ≤ c then (if device then .string else .ground)
  else if c ≤ '/' then .head device .intermediates
  else
    match part with
    | .opening => .head device .parameters
    | .parameters => if c ≤ ';' then .head device .parameters else unknown device
    | .intermediates => unknown device

/-- Where a printable character leads after an escape character. -/
def nextInEscape (c : Char) : State :=
  if c = '[' then .head false .opening
  else if c = 'P' then .head true .opening
  else if c = ']' then .system
  else if c = 'X' ∨ c = '^' ∨ c = '_' then .string
  else .ground

/-- Where a printable character leads. -/
def next (state : State) (c : Char) : State :=
  match state with
  | .ground => .ground
  | .escape intermediate =>
    if c ≤ '/' then .escape true else if intermediate then .ground else nextInEscape c
  | .head device part => nextInHead device part c
  | .ignored => if '@' ≤ c then .ground else .ignored
  | .system => .system
  | .string => .string

/-- Does a control that stands there have its own effect? -/
def isOpen : State → Bool
  | .ground | .escape _ | .head false _ | .ignored => true
  | .head true _ | .system | .string => false

end State

/-! ## Text without commands -/

/-- What has been read of a text. -/
structure Reading where
  /-- Where the next character stands. -/
  state : State := .ground
  /-- Has a blank interrupted the sequence?  What follows it is then shown. -/
  interrupted : Bool := false
  deriving DecidableEq, Repr

/-- Is the character a control? -/
def isControl (c : Char) : Bool := c.toNat < 0x20 || c.toNat = 0x7F

/-- Is the character a control that moves on in the text? -/
def isBlankControl (c : Char) : Bool := c = '\t' || c = '\n' || c = '\x0c' || c = '\r'

/-- The byte that ends a control string. -/
def terminator : UInt8 := 0x9C

namespace Reading

/-- As what the next character is read. -/
def role (reading : Reading) : State := if reading.interrupted then .ground else reading.state

/-- Reads a character beyond ASCII inside a sequence.  A sequence that may be resumed takes
all its bytes; any other one ends after the first, and the bytes that are left are no
text. -/
def absorb (resumes : Bool) (state : State) (c : Char) : Reading × List Char :=
  if !resumes then ({}, List.replicate (c.utf8Size - 1) Utf8.replacement)
  else if state = .string ∧ (String.utf8EncodeChar c).contains terminator then ({}, [])
  else ({ state }, [])

/-- Reads a control.  It is shown only if it moves on in the text. -/
def obey (resumes : Bool) (reading : Reading) (c : Char) : Reading × List Char :=
  if c = '\x1b' then ({ state := .escape false }, [])
  else if c = '\x18' ∨ c = '\x1a' then ({}, [])
  else if isBlankControl c && reading.role.isOpen then
    (if resumes then { reading with interrupted := true } else {}, [c])
  else if c = '\x07' ∧ reading.role = .system then ({}, [])
  else ({ state := reading.state }, [])

/-- Reads a character, and tells what is shown of it. -/
def step (resumes : Bool) (reading : Reading) (c : Char) : Reading × List Char :=
  if isControl c then reading.obey resumes c
  else if reading.role = .ground then
    (if 0x80 ≤ c.toNat then {} else reading, [c])
  else if 0x80 ≤ c.toNat then absorb resumes reading.role c
  else ({ state := reading.role.next c }, [])

/-- What is shown of a text. -/
def shown (resumes : Bool) (reading : Reading) : List Char → List Char
  | [] => []
  | c :: rest =>
    (reading.step resumes c).2 ++ shown resumes (reading.step resumes c).1 rest

end Reading

/-- A text as help shows it.  A blank in a sequence ends it. -/
def plain (text : String) : String := String.ofList (Reading.shown false {} text.toList)

/-- A text as it is quoted to the user.  A blank in a sequence interrupts it up to the next
control. -/
def quotable (text : String) : String := String.ofList (Reading.shown true {} text.toList)

example : plain "\x1b[31mred\x1b[0m\x07" = "red" := by decide +kernel
example : plain "\x1b]0;title\x07after" = "after" := by decide +kernel

/-! ## Commands as text -/

/-- The controls of ASCII that the log shows as text. -/
def loggedControls : List Char := ['\x1b', '\x07', '\x08', '\x0c', '\x7f']

/-- A character as the log shows it. -/
def logged (c : Char) : List Char :=
  if c ∈ loggedControls then
    ['\\', 'x'] ++ (if c.toNat < 0x10 then ['0'] else []) ++ hexadecimal c.toNat
  else if 0x80 ≤ c.toNat ∧ c.toNat ≤ 0x9F then
    ['\\', 'u', '\x7b'] ++ hexadecimal c.toNat ++ ['\x7d']
  else [c]

/-- A text as the log shows it. -/
def forLog (text : String) : String := String.ofList (text.toList.flatMap logged)

example : forLog "a\x1bb\x07" = "a\\x1bb\\x07" := by decide +kernel

end PassPipeline.Text.Terminal
