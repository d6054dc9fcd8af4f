import Formwork.Decimal.Literal
import Formwork.Expr.Eval

/-!
# Command lines

A command line is a command with options around it. Options for all commands may stand before the
command or after it, where they count more. An option is written `--name value` or `--name=value`
and may occur once in each place.
-/

namespace Formwork.Command

/-- The commands. -/
inductive Verb where
  /-- Print the state that the answers lead to. -/
  | evaluate
  /-- Validate one view or all of them. -/
  | validate
  /-- Print what would be sent to the host. -/
  | payload
  /-- Print the first view. -/
  | render
  /-- Go from view to view with a host that agrees to everything, and submit. -/
  | walk
deriving Repr, DecidableEq

namespace Verb

def all : List Verb := [evaluate, validate, payload, render, walk]

def name : Verb → String
  | .evaluate => "evaluate"
  | .validate => "validate"
  | .payload => "payload"
  | .render => "render"
  | .walk => "walk"

def ofName? (word : String) : Option Verb := all.find? fun verb => verb.name == word

end Verb

/-- The options. -/
inductive Switch where
  | verbose
  | maxSteps
  | timeBudgetMs
  | maxMemoryBytes
  | spec
  | answers
  | context
  | view
  | format
deriving Repr, DecidableEq

namespace Switch

/-- The names of the options; one of them has two. -/
def named : List (String × Switch) :=
  [("verbose", verbose), ("debug", verbose), ("max-steps", maxSteps),
    ("time-budget-ms", timeBudgetMs), ("max-memory-bytes", maxMemoryBytes), ("spec", spec),
    ("answers", answers), ("context", context), ("view", view), ("format", format)]

def ofName? (name : String) : Option Switch := named.lookup name

/-- Whether an option may stand before the command. -/
def isGlobal : Switch → Bool
  | .verbose | .maxSteps | .timeBudgetMs | .maxMemoryBytes => true
  | _ => false

/-- Whether an option may stand after a command. -/
def isFor (switch : Switch) (verb : Verb) : Bool :=
  match switch with
  | .view => verb = .validate
  | .format => verb = .render || verb = .walk
  | _ => true

/-- Whether an option can have a value; the one that has none takes an empty one. -/
def allows (switch : Switch) (value : String) : Bool :=
  match switch with
  | .verbose | .view => true
  | .maxSteps | .timeBudgetMs | .maxMemoryBytes => (Decimal.readIndex? value).isSome
  | .spec | .answers | .context => !value.isEmpty
  | .format => value == "text" || value == "json"

end Switch

/-- What is wrong with a command line. -/
inductive UsageError where
  | missingCommand
  | unexpected (word : String)
  | repeated (word : String)
  | missingValue (word : String)
  | badValue (word : String)
  | missingSpec
deriving DecidableEq

def UsageError.message : UsageError → String
  | .missingCommand => "a command is missing"
  | .unexpected word => "unexpected argument '" ++ word ++ "'"
  | .repeated word => "the argument '" ++ word ++ "' is given twice"
  | .missingValue word => "the argument '" ++ word ++ "' needs a value"
  | .badValue word => "the value of the argument '" ++ word ++ "' is not allowed"
  | .missingSpec => "the argument '--spec' is missing"

/-- Options with their values. -/
abbrev Options := List (Switch × String)

/-- Whether a word can only be an option. A single dash is a plain word. -/
def isOption (word : String) : Bool := word.startsWith "-" && word != "-"

/-- The name and the attached value of a word that starts with two dashes. -/
def splitOption? (word : String) : Option (String × Option String) :=
  match word.toList with
  | '-' :: '-' :: rest =>
    let name := rest.takeWhile (· != '=')
    match rest.drop name.length with
    | _ :: value => some (String.ofList name, some (String.ofList value))
    | [] => some (String.ofList name, none)
  | _ => none

/-- Adds an option to those of the same place. -/
def addOption (options : Options) (word : String) (switch : Switch) (value : String) :
    Except UsageError Options :=
  if (options.lookup switch).isSome then .error (.repeated word)
  else if switch.allows value then .ok (options ++ [(switch, value)])
  else .error (.badValue word)

/-- Reads the options in front of the first plain word, and gives the words from there on. -/
def readOptions (allowed : Switch → Bool) (options : Options) :
    List String → Except UsageError (Options × List String)
  | [] => .ok (options, [])
  | word :: rest =>
    if !isOption word then .ok (options, word :: rest)
    else if word = "--" then
      match rest with
      | [] => .ok (options, [])
      | next :: _ => .error (.unexpected next)
    else
      match (splitOption? word).bind fun (name, value) =>
          ((Switch.ofName? name).filter allowed).map ((·, value)) with
      | none => .error (.unexpected word)
      | some (.verbose, some _) => .error (.badValue word)
      | some (.verbose, none) => do
        readOptions allowed (← addOption options word .verbose "") rest
      | some (switch, some value) => do
        readOptions allowed (← addOption options word switch value) rest
      | some (switch, none) =>
        match rest with
        | [] => .error (.missingValue word)
        | value :: rest =>
          if isOption value then .error (.missingValue word)
          else do readOptions allowed (← addOption options word switch value) rest

/-- How a screen is printed. -/
inductive Format where
  | text
  | json
deriving Repr, DecidableEq

/-- A command line that is in order. -/
structure Arguments where
  verb : Verb
  spec : String
  answers : Option String
  context : Option String
  view : String
  format : Format
  maxSteps : Option Nat
  timeBudgetMs : Option Nat
  maxMemoryBytes : Option Nat

namespace Arguments

/-- The arguments that options stand for. -/
def ofOptions (verb : Verb) (options : Options) : Except UsageError Arguments :=
  let number (switch : Switch) := (options.lookup switch).bind Decimal.readIndex?
  match options.lookup .spec with
  | none => .error .missingSpec
  | some spec => .ok
    { verb
      spec
      answers := options.lookup .answers
      context := options.lookup .context
      view := (options.lookup .view).getD ""
      format := if options.lookup .format = some "json" then .json else .text
      maxSteps := number .maxSteps
      timeBudgetMs := number .timeBudgetMs
      maxMemoryBytes := number .maxMemoryBytes }

/-- The arguments that the words of a command line stand for. -/
def parse (words : List String) : Except UsageError Arguments := do
  let (outer, rest) ← readOptions Switch.isGlobal [] words
  match rest with
  | [] => throw .missingCommand
  | word :: rest =>
    match Verb.ofName? word with
    | none => throw (.unexpected word)
    | some verb =>
      let (inner, rest) ← readOptions (·.isFor verb) [] rest
      match rest with
      | [] => ofOptions verb (inner ++ outer)
      | word :: _ => throw (.unexpected word)

/-- The files that are read. -/
def paths (arguments : Arguments) : List String :=
  arguments.spec :: arguments.context.toList ++ arguments.answers.toList

/-- The limits of a form with those of the command line in their place. -/
def limits (arguments : Arguments) (limits : Limits) : Limits where
  maxSteps := arguments.maxSteps.getD limits.maxSteps
  timeBudgetMs := arguments.timeBudgetMs.getD limits.timeBudgetMs
  maxMemoryBytes := arguments.maxMemoryBytes.getD limits.maxMemoryBytes

end Arguments

end Formwork.Command
