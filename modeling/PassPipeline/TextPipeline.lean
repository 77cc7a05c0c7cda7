import PassPipeline.Text.Words
import PassPipeline.World

/-!
# The text pipeline

Six passes work on a text: one reads it, one splits it into words, one counts, one
stands for the counts being available, one prints the words and one prints the
counts.  The counting pass provides the availability, so whoever requires the
availability gets the counts.

The pass that stands for the availability is registered before the counting pass,
whose identity it can learn only afterwards.
-/

namespace PassPipeline.TextPipeline

open Program (effect)

/-- The counts of a text whose words are given. -/
def stats (text : String) (tokens : List String) : TextStats where
  lines := Text.lineCount text
  words := tokens.length
  chars := text.length
  distinct := Text.distinctCount tokens

/-- The lines that show counts. -/
def showStats (stats : TextStats) : String :=
  "lines: " ++ toString stats.lines ++ "\nwords: " ++ toString stats.words ++
    "\nchars: " ++ toString stats.chars ++ "\ndistinct: " ++ toString stats.distinct ++ "\n"

/-- Ends a run that succeeded without changes. -/
def success : Program Report := return { succeeded := true }

/-- Stores a value under the identity of the running pass. -/
def storeOwn (value : Value) : Program Report := do
  effect (.store (← effect .whoAmI) value)
  success

/-- Tells why a run fails, and fails. -/
def giveUp (text : String) : Program Report := do
  effect (.log .warn text)
  return .failure

/-- Reads the standard input, unless a text is there already. -/
def read : Program Report := do
  if ← effect (.holds (← effect .whoAmI)) then
    effect (.log .debug "Read: input already loaded")
    success
  else
    match ← effect .readInput with
    | some text => storeOwn (.text text)
    | none => giveUp "Read: failed to read stdin: stream did not contain valid UTF-8"

/-- Splits the text into words. -/
def tokenize (read : PassId) : Program Report := do
  match ← effect (.fetch read .text) with
  | .error error => giveUp ("Tokenize: " ++ error.message)
  | .ok text =>
    let tokens := Text.words text
    effect (.log .debug ("Tokenize: " ++ toString tokens.length ++ " tokens"))
    storeOwn (.texts tokens)

/-- Counts. -/
def count (read tokenize : PassId) : Program Report := do
  match ← effect (.fetch read .text), ← effect (.fetch tokenize .texts) with
  | .ok text, .ok tokens => storeOwn (.stats (stats text tokens))
  | _, _ => giveUp "Stats: input or tokens missing"

/-- Checks that counts are there.  The run itself always succeeds. -/
def summary (counting : Option PassId) : Program Report := do
  match counting with
  | none => return { succeeded := true, verified := false }
  | some counting =>
    return { succeeded := true, verified := (← effect (.fetch counting .stats)).isOk }

/-- Writes words, one to a line, up to the first that is refused. -/
def writeTokens : List String → Program (Except PassError Unit)
  | [] => return .ok ()
  | token :: rest => do
    match ← effect (.write (token ++ "\n")) with
    | .ok () => writeTokens rest
    | .error error => return .error error

/-- Prints the words. -/
def emit (tokenize : PassId) : Program Report := do
  match ← effect (.fetch tokenize .texts) with
  | .error _ => return .failure
  | .ok tokens =>
    match ← writeTokens tokens with
    | .ok () => return { succeeded := true, changes := UInt64.ofNat tokens.length }
    | .error error => giveUp ("Emit: " ++ error.message)

/-- Prints the counts. -/
def report (counting : PassId) : Program Report := do
  match ← effect (.fetch counting .stats) with
  | .error _ => return .failure
  | .ok stats =>
    match ← effect (.write (showStats stats)) with
    | .ok () => success
    | .error _ => return .failure

/-! ## Registration -/

/-- The reading pass. -/
def readRegistration : Registration where
  name := "Read"
  description := "read the input text from stdin"
  arg := "read"
  behaviour := { run := read }

/-- The splitting pass. -/
def tokenizeRegistration (read : PassId) : Registration where
  name := "Tokenize"
  description := "split the input into whitespace separated tokens"
  arg := "tokenize"
  short := some 't'
  behaviour := { declarations := [.require read], run := tokenize read }

/-- The pass that stands for the availability of counts. -/
def summaryRegistration : Registration where
  name := "Summary"
  description := "text statistics are available"
  arg := "summary"
  behaviour := { run := summary none }

/-- The counting pass. -/
def statsRegistration (read tokenize summary : PassId) : Registration where
  name := "Stats"
  description := "count lines, words and distinct tokens"
  arg := "stats"
  short := some 's'
  behaviour :=
    { declarations := [.require tokenize, .provide summary], run := count read tokenize }

/-- The pass that prints the words. -/
def emitRegistration (tokenize : PassId) : Registration where
  name := "Emit"
  description := "print one token per line"
  arg := "emit"
  short := some 'e'
  behaviour := { declarations := [.require tokenize], run := emit tokenize }

/-- The pass that prints the counts. -/
def reportRegistration (summary counting : PassId) : Registration where
  name := "Report"
  description := "print the text statistics"
  arg := "report"
  short := some 'r'
  behaviour := { declarations := [.require summary], run := report counting }

/-- The identities of the passes. -/
structure Ids where
  read : PassId
  tokenize : PassId
  summary : PassId
  stats : PassId
  emit : PassId
  report : PassId
  deriving DecidableEq, Repr

/-- The identities in registration order. -/
def Ids.all (ids : Ids) : List PassId :=
  [ids.read, ids.tokenize, ids.summary, ids.stats, ids.emit, ids.report]

/-- Lets the pass that stands for the availability know the counting pass. -/
def introduce (catalog : Catalog) (summary counting : PassId) : Catalog :=
  catalog.update summary fun pass =>
    { pass with behaviour := { pass.behaviour with run := TextPipeline.summary (some counting) } }

/-- Registers one more pass, and stops at a refusal. -/
def enter (registration : Registration) : ExceptT PassError (StateM Catalog) PassId := do
  match (← get).register registration with
  | .error error => throw error
  | .ok (id, catalog) =>
    set catalog
    return id

/-- Registers the passes.  A refusal leaves those registered that came before it. -/
def registerAll : ExceptT PassError (StateM Catalog) Ids := do
  let read ← enter readRegistration
  let tokenize ← enter (tokenizeRegistration read)
  let summary ← enter summaryRegistration
  let stats ← enter (statsRegistration read tokenize summary)
  modify (introduce · summary stats)
  let emit ← enter (emitRegistration tokenize)
  let report ← enter (reportRegistration summary stats)
  return { read, tokenize, summary, stats, emit, report }

end PassPipeline.TextPipeline
