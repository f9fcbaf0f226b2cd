import Stepwise.Report.Style

/-!
# Options of a report

Options are read from command line arguments. Errors come in the order in which a
reader finds them: the value of an option is looked at when the next option is read or
when the arguments end.
-/

namespace Stepwise

structure Options where
  /-- How often more details were asked for, up to 255. -/
  verbosity : Nat := 0
  coloring : Coloring := .auto
  /-- Whether time and memory are left out. -/
  hidesTimer : Bool := false
  /-- The directory that paths are shown relative to. -/
  base : Option String := none
deriving DecidableEq, Repr

/-- Why arguments are no options. -/
inductive OptionError
  | unknownArgument (argument : String)
  /-- An option has no value, or an empty one where it needs more. -/
  | missingValue
  /-- The value of an option is not one of those it may have. -/
  | badValue
  /-- A value is given to something that takes none. -/
  | unexpectedValue
  /-- An option is given twice. -/
  | repeated
  /-- The arguments ask for help. -/
  | helpRequested
deriving DecidableEq, Repr

namespace Options

/-- The options that are given once at most. -/
inductive Single
  | coloring
  | base
  | hidesTimer
deriving DecidableEq, Repr

/-- What has been read of the arguments. -/
structure Reader where
  options : Options := {}
  /-- The options that were settled. -/
  given : List Single := []
  /-- The option that was read last, if it takes a value, and that value if there is
  one. -/
  pending : Option (Single × Option String) := none
deriving DecidableEq, Repr

namespace Reader

/-- Notes that an option is given, which it must not be twice. -/
def note (reader : Reader) (option : Single) : Except OptionError Reader :=
  if option ∈ reader.given then .error .repeated
  else .ok { reader with given := option :: reader.given }

def assign (reader : Reader) (option : Single) (value : String) :
    Except OptionError Reader := do
  let reader ← reader.note option
  match option with
  | .coloring =>
      match Coloring.ofText? value with
      | some coloring => return { reader with options.coloring := coloring }
      | none => throw .badValue
  | .base =>
      if value.isEmpty then throw .missingValue
      else return { reader with options.base := some value }
  | .hidesTimer => throw .unexpectedValue

/-- Settles the option that was read last. -/
def settle (reader : Reader) : Except OptionError Reader :=
  match reader.pending with
  | none => .ok reader
  | some (_, none) => .error .missingValue
  | some (option, some value) => { reader with pending := none }.assign option value

/-- Whether the option that was read last has no value yet. -/
def awaited? (reader : Reader) : Option Single :=
  match reader.pending with
  | some (option, none) => some option
  | _ => none

def raiseVerbosity (reader : Reader) : Reader :=
  { reader with options.verbosity := min 255 (reader.options.verbosity + 1) }

def readLetters (reader : Reader) : List Char → Except OptionError Reader
  | [] => .ok reader
  | 'v' :: rest => do
      let reader ← reader.settle
      reader.raiseVerbosity.readLetters rest
  | 'h' :: _ => do
      let _ ← reader.settle
      throw .helpRequested
  | c :: _ => .error (.unknownArgument ("-" ++ c.toString))

/-- Reads an option that takes a value, which may be given with it. -/
def readValued (reader : Reader) (option : Single) (value : Option String) :
    Except OptionError Reader := do
  let reader ← reader.settle
  match value with
  | some value => reader.assign option value
  | none => return { reader with pending := some (option, none) }

def readNamed (reader : Reader) (name : String) (value : Option String) :
    Except OptionError Reader :=
  match name, value with
  | "color", value => reader.readValued .coloring value
  | "base-path", value => reader.readValued .base value
  | "no-timer", none => do
      let reader ← (← reader.settle).note .hidesTimer
      return { reader with options.hidesTimer := true }
  | "help", none => do
      let _ ← reader.settle
      throw .helpRequested
  | "no-timer", some _ => .error .unexpectedValue
  | "help", some _ => .error .unexpectedValue
  | name, _ => .error (.unknownArgument ("--" ++ name))

/-- Reads an argument that is no option: the value that is awaited. -/
def readPlain (reader : Reader) (argument : String) : Except OptionError Reader :=
  match reader.awaited? with
  | some option => .ok { reader with pending := some (option, some argument) }
  | none => .error (.unknownArgument argument)

/-- Reads an argument. Two hyphens introduce a name, which an equals sign separates from
its value; one hyphen introduces letters. -/
def readArgument (reader : Reader) (argument : String) : Except OptionError Reader :=
  match argument.toList with
  | '-' :: '-' :: rest =>
      let name := String.ofList (rest.takeWhile (· ≠ '='))
      match rest.dropWhile (· ≠ '=') with
      | [] => reader.readNamed name none
      | _ :: value => reader.readNamed name (some (String.ofList value))
  | '-' :: c :: letters => reader.readLetters (c :: letters)
  | _ => reader.readPlain argument

/-- Reads arguments. Behind two hyphens alone, no argument is an option. -/
def read (reader : Reader) : List String → Except OptionError Reader
  | [] => reader.settle
  | argument :: rest =>
      if argument = "--" then
        match rest with
        | [] => reader.settle
        | plain :: _ => .error (.unknownArgument plain)
      else do
        let reader ← reader.readArgument argument
        reader.read rest

end Reader

def ofArguments (arguments : List String) : Except OptionError Options :=
  (({} : Reader).read arguments).map (·.options)

end Options

end Stepwise
