/-!
# Options

The words of a command line are options with their values, and other words. An option is named by
a long name after two dashes, or by one character after one dash; a value follows as the next
word, after an equals sign, or right behind the character. An option given again takes the place
of the one before. Two dashes alone end the options.

A value that is a word of its own is looked at only when the next option comes up, or at the end.

## Main definitions

* `CommandLine.UsageError`: why a command line makes no sense, or what it asks for instead.
* `CommandLine.Switch`: an option.
* `CommandLine.Grammar`: options and other words.
* `CommandLine.Grammar.read`: what a command line says.
-/

namespace Toolsmith.CommandLine

/-- Why a command line makes no sense, or what it asks for instead. -/
inductive UsageError where
  /-- The description of the program is asked for. -/
  | displayHelp
  /-- The version of the program is asked for. -/
  | displayVersion
  /-- Nothing is asked for. -/
  | nothingGiven
  /-- No command is named. -/
  | missingCommand
  /-- A word is no command. -/
  | unknownCommand
  /-- An option that has to be there is missing. -/
  | missingOption
  /-- A word or option has no place. -/
  | unknownArgument
  /-- An option has no value, or an empty one. -/
  | missingValue
  /-- A value makes no sense. -/
  | invalidValue
  /-- An option has a value but takes none. -/
  | surplusValue
  /-- Two options exclude each other. -/
  | conflict
deriving DecidableEq

/-- The wording of why a command line makes no sense. -/
def UsageError.message : UsageError → String
  | .displayHelp => "help was asked for"
  | .displayVersion => "the version was asked for"
  | .nothingGiven => "a command is needed"
  | .missingCommand => "a command is needed"
  | .unknownCommand => "no command has this name"
  | .missingOption => "an option that is needed is missing"
  | .unknownArgument => "an argument has no place"
  | .missingValue => "an option needs a value"
  | .invalidValue => "the value of an option makes no sense"
  | .surplusValue => "an option takes no value"
  | .conflict => "two options exclude each other"

/-- What an option does to the settings. -/
inductive Effect (α : Type) where
  /-- It asks for something else. -/
  | stop (reason : UsageError)
  /-- It is there or not. -/
  | flag (set : α → α)
  /-- It has a value. -/
  | value (set : String → α → Except UsageError α)

/-- An option. -/
structure Switch (α : Type) where
  /-- The name after two dashes. -/
  long : String
  /-- The character after one dash. -/
  short : Option Char := none
  /-- What it does. -/
  effect : Effect α

/-- Where the option before stands. -/
inductive Pending (α : Type) where
  /-- It is done with. -/
  | nothing
  /-- Its value is still to come. -/
  | awaiting (set : String → α → Except UsageError α)
  /-- Its value is there but not looked at yet. -/
  | holding (value : String) (set : String → α → Except UsageError α)

/-- Options and other words, which make settings and in the end something of another type. -/
structure Grammar (α β : Type) where
  /-- The options. -/
  switches : List (Switch α)
  /-- What another word does, given the words after it. The flag tells whether the options have
  been ended. -/
  word : Bool → α → String → List String → Except UsageError β
  /-- What is made of the settings at the end. -/
  finish : α → Except UsageError β

/-- A word of a command line, as it looks. -/
inductive Shape where
  /-- Two dashes alone. -/
  | escape
  /-- A long name, with a value after an equals sign if there is one. -/
  | long (name : String) (value : Option String)
  /-- Characters after one dash. -/
  | short (chars : List Char)
  /-- Any other word. -/
  | plain
deriving DecidableEq

/-- How a word looks. -/
def Shape.of (word : String) : Shape :=
  match word.toList with
  | ['-', '-'] => .escape
  | '-' :: '-' :: cs =>
    let name := String.ofList (cs.takeWhile (· ≠ '='))
    match cs.dropWhile (· ≠ '=') with
    | _ :: value => .long name (some (String.ofList value))
    | [] => .long name none
  | '-' :: c :: cs => .short (c :: cs)
  | _ => .plain

namespace Grammar

variable {α β : Type}

/-- The settings once the value of the option before has been looked at. -/
def settle : Pending α → α → Except UsageError α
  | .nothing, a => .ok a
  | .awaiting _, _ => .error .missingValue
  | .holding value set, a => set value a

/-- The settings after an option with a long name, and where that option stands. -/
def readLong (g : Grammar α β) (pending : Pending α) (a : α) (name : String)
    (value : Option String) : Except UsageError (α × Pending α) :=
  match g.switches.find? (·.long = name) with
  | none => .error .unknownArgument
  | some s =>
    match s.effect, value with
    | .value set, some v => do return (← set v (← settle pending a), .nothing)
    | .value set, none => do return (← settle pending a, .awaiting set)
    | _, some _ => .error .surplusValue
    | .flag set, none => do return (set (← settle pending a), .nothing)
    | .stop reason, none => do
      let _ ← settle pending a
      throw reason

/-- The settings after characters behind one dash, and where the last option stands. -/
def readShort (g : Grammar α β) (pending : Pending α) (a : α) :
    List Char → Except UsageError (α × Pending α)
  | [] => .ok (a, pending)
  | c :: cs =>
    match g.switches.find? (·.short = some c) with
    | none => .error .unknownArgument
    | some s =>
      match s.effect, cs with
      | .stop reason, _ => do
        let _ ← settle pending a
        throw reason
      | .flag set, cs => do g.readShort .nothing (set (← settle pending a)) cs
      | .value set, [] => do return (← settle pending a, .awaiting set)
      | .value set, '=' :: v => do
        return (← set (String.ofList v) (← settle pending a), .nothing)
      | .value set, v => do return (← set (String.ofList v) (← settle pending a), .nothing)

/-- What words say, given where the option before stands. -/
def readFrom (g : Grammar α β) : Pending α → α → List String → Except UsageError β
  | pending, a, [] => do g.finish (← settle pending a)
  | pending, a, word :: rest =>
    match Shape.of word with
    | .escape =>
      match rest with
      | [] => do g.finish (← settle pending a)
      | next :: more => g.word true a next more
    | .long name value => do
      let (a, pending) ← g.readLong pending a name value
      g.readFrom pending a rest
    | .short chars => do
      let (a, pending) ← g.readShort pending a chars
      g.readFrom pending a rest
    | .plain =>
      match pending with
      | .awaiting set => g.readFrom (.holding word set) a rest
      | _ => g.word false a word rest

/-- What a command line says, given the settings to begin with. -/
def read (g : Grammar α β) (a : α) (words : List String) : Except UsageError β :=
  g.readFrom .nothing a words

end Grammar

end Toolsmith.CommandLine
