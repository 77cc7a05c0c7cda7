import PassPipeline.Program
import PassPipeline.Usage
import PassPipeline.Text.Quoted

/-!
# Descriptions of pass types

A pass type is described by how it is called on the command line and by how its
instances behave.  Beside what its author gave, a description keeps what sessions
change: the selection flag, the number of changes made so far, and what the pass
type remembers from run to run.
-/

namespace PassPipeline

/-- How the instances of a pass type behave. -/
structure Behaviour where
  declarations : List Declaration := []
  /-- What an instance made only for its declarations declares, if such instances
  are made in a way of their own. -/
  internalDeclarations : Option (List Declaration) := none
  run : Program Report

namespace Behaviour

/-- The usage that a manager learns from an instance made for that purpose. -/
def usage (behaviour : Behaviour) : Usage :=
  Usage.ofDeclarations (behaviour.internalDeclarations.getD behaviour.declarations)

/-- The call that makes such an instance. -/
def inquiry (behaviour : Behaviour) : Phase :=
  if behaviour.internalDeclarations.isSome then .constructInternal else .construct

end Behaviour

/-- A pass type as its author gives it. -/
structure Registration where
  name : String
  /-- One line of help. -/
  description : String := ""
  /-- The long argument that selects the pass. -/
  arg : String
  /-- The short argument that selects the pass, if there is one. -/
  short : Option Char := none
  behaviour : Behaviour

/-- A pass type in a catalogue. -/
structure Descriptor extends Registration where
  /-- The identity under which it is registered. -/
  id : PassId
  /-- The number of changes made by its successful slots, as a 64-bit word. -/
  changes : UInt64 := 0
  selected : Bool := false
  /-- What it remembers from run to run. -/
  memory : Nat := 0

namespace Descriptor

/-- Adds changes to the counter, which wraps around. -/
def addChanges (descriptor : Descriptor) (count : UInt64) : Descriptor :=
  { descriptor with changes := descriptor.changes + count }

/-- The fields of a description with their values, each value either on one line or
wrapped in a constructor. -/
def fields (descriptor : Descriptor) : List (String × String × Option String) :=
  [("name", Text.quoted descriptor.name, none),
   ("arg_str", Text.quoted descriptor.arg, none),
   ("arg_char",
    match descriptor.short with
    | some c => (Text.quotedChar c, some "Some")
    | none => ("None", none)),
   ("id", toString descriptor.id.toNat, some "PassId"),
   ("changes", toString descriptor.changes.toNat, none),
   ("selected", toString descriptor.selected, none)]

/-- Describes a pass type on one line. -/
def debug (descriptor : Descriptor) : String :=
  "PassDescriptor \x7b " ++
    ", ".intercalate (descriptor.fields.map fun field =>
      field.1 ++ ": " ++
        match field.2 with
        | (value, none) => value
        | (value, some wrapper) => wrapper ++ "(" ++ value ++ ")") ++
    " \x7d"

/-- Describes a pass type with one field to a line. -/
def debugPretty (descriptor : Descriptor) : String :=
  "PassDescriptor \x7b\n" ++
    String.join (descriptor.fields.map fun field =>
      "    " ++ field.1 ++ ": " ++
        (match field.2 with
        | (value, none) => value
        | (value, some wrapper) => wrapper ++ "(\n        " ++ value ++ ",\n    )") ++
        ",\n") ++
    "\x7d"

end Descriptor

end PassPipeline
