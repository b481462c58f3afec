/-!
# Arguments of a command line

Arguments are options and the words between them. An option has names that start with two hyphens,
or with one hyphen and a single letter; letters may share a hyphen. An option that takes a value
takes it from behind an equals sign or from the next argument, and a letter also from the rest of
its own argument. Two hyphens on their own end the options.
-/

namespace ShellVet.Cli

/-- An option that a command knows. -/
structure Switch (α : Type) where
  label : α
  names : List String
  takesValue : Bool := false

/-- Why arguments are refused. -/
inductive ArgumentError where
  | unknownOption (name : String)
  | missingValue (name : String)
  | unwantedValue (name : String)
  | missingWord
  | unwantedWord (word : String)
  | missingCommand
  | unknownCommand (word : String)
  deriving DecidableEq, Repr

/-- Options with their values, empty for those that take none, and words. -/
structure Arguments (α : Type) where
  options : List (α × String) := []
  words : List String := []

namespace Arguments

/-- The arguments with a word in front. -/
def withWord {α : Type} (word : String) (arguments : Arguments α) : Arguments α :=
  { arguments with words := word :: arguments.words }

/-- The option of a name. -/
def switch? {α : Type} (switches : List (Switch α)) (name : String) : Option (Switch α) :=
  switches.find? fun switch => switch.names.contains name

/-- The options of letters that share a hyphen. The last one may lack a value, which then is the
next argument. -/
def readLetters {α : Type} (switches : List (Switch α)) :
    List Char → Except ArgumentError (List (α × String) × Option (Switch α))
  | [] => .ok ([], none)
  | letter :: rest =>
    let name := String.ofList ['-', letter]
    match switch? switches name with
    | none => .error (.unknownOption name)
    | some switch =>
      if switch.takesValue then
        if rest.isEmpty then .ok ([], some switch)
        else .ok ([(switch.label, String.ofList rest)], none)
      else (readLetters switches rest).map fun (options, last) =>
        ((switch.label, "") :: options, last)

/-- What an argument that starts with a hyphen says: options, and the one that waits for its value
in the next argument. -/
def readOption {α : Type} (switches : List (Switch α)) (argument : String) :
    Except ArgumentError (List (α × String) × Option (Switch α)) :=
  let chars := argument.toList
  let name := String.ofList (chars.takeWhile (· != '='))
  if argument.startsWith "--" then
    match switch? switches name, chars.dropWhile (· != '=') with
    | none, _ => .error (.unknownOption name)
    | some switch, [] =>
      .ok (if switch.takesValue then ([], some switch) else ([(switch.label, "")], none))
    | some switch, _ :: value =>
      if switch.takesValue then .ok ([(switch.label, String.ofList value)], none)
      else .error (.unwantedValue name)
  else readLetters switches (chars.drop 1)

/-- Whether an argument is read as an option. -/
def isOption (argument : String) : Bool :=
  argument.startsWith "-" && argument != "-"

/-- Reads arguments. Unless options may come behind words, the first word and all that follows it
are words. -/
def read {α : Type} (switches : List (Switch α)) (behindWords : Bool) :
    List String → Except ArgumentError (Arguments α)
  | [] => .ok {}
  | argument :: rest =>
    if argument == "--" then .ok { words := rest }
    else if isOption argument then
      match readOption switches argument, rest with
      | .error error, _ => .error error
      | .ok (options, none), rest =>
        (read switches behindWords rest).map fun arguments =>
          { arguments with options := options ++ arguments.options }
      | .ok (_, some switch), [] => .error (.missingValue (switch.names.headD ""))
      | .ok (options, some switch), value :: rest =>
        (read switches behindWords rest).map fun arguments =>
          { arguments with options := options ++ (switch.label, value) :: arguments.options }
    else if behindWords then (read switches behindWords rest).map (withWord argument)
    else .ok { words := argument :: rest }

/-- The value that an option was given last. -/
def value? {α : Type} [BEq α] (arguments : Arguments α) (label : α) : Option String :=
  arguments.options.reverse.lookup label

/-- Whether an option was given. -/
def has {α : Type} [BEq α] (arguments : Arguments α) (label : α) : Bool :=
  arguments.options.any fun option => option.1 == label

end Arguments

end ShellVet.Cli
