import ShellVet.Config.Basic
import ShellVet.Files.Basic
import ShellVet.Json.Merge
import ShellVet.Json.Reader
import ShellVet.Json.Writer

/-!
# Loading and saving the preference

The preference is a JSON file at a path. Whatever is wrong with the file, loading gives the default
and a notice, with one exception: a file that nests deeper than the stack goes breaks loading off.
Changing the preference merges the changes into what is loaded, and saves the result only if it
makes a configuration that can be written.
-/

namespace ShellVet.Config

/-- Why a change is not made. -/
inductive ChangeError where
  | level (value : Json CodeText)
  | threshold (value : Json CodeText)
  | unfit (reason : Unfit)
  | file (error : FileError)
  deriving Repr

/-- The wording of what makes an object unfit. -/
def Unfit.message : Unfit → String
  | .security => "\"security\" must be an object"
  | .limit .digits => overlongMessage
  | .limit .depth => "maximum recursion depth exceeded"

/-- The wording of an error. -/
def ChangeError.message (path : FilePath) : ChangeError → String
  | .level value => s!"Invalid security level: {value.shown}"
  | .threshold value => s!"Invalid fail_on value: {value.shown}"
  | .unfit reason => reason.message
  | .file error => error.message path

/-- Whether the error is one of the value. A stack that is used up and a file that cannot be written
are not. -/
def ChangeError.isOfValue : ChangeError → Bool
  | .unfit (.limit .depth) => false
  | .file _ => false
  | _ => true

/-- Says that the file holds no configuration. -/
def malformed (reason : String) : String :=
  s!"pakky-guard: malformed config, using defaults: {reason}"

/-- Says that the file cannot be read. -/
def unreadable (reason : String) : String :=
  s!"pakky-guard: cannot read config, using defaults: {reason}"

/-- Why bytes hold no configuration. -/
inductive Unread where
  | malformed (reason : String)
  /-- They nest deeper than the stack goes. -/
  | overflow
  deriving DecidableEq, Repr

/-- What is told of an object that makes no configuration where one is read. -/
def Unread.ofUnfit : Unfit → Unread
  | .limit .depth => .overflow
  | reason => .malformed reason.message

/-- The configuration of the bytes of a file, or why there is none, and notices of what was
replaced. -/
def ofBytes (stack : Stack) (bytes : List UInt8) : List String × Except Unread Config :=
  match Text.decode bytes with
  | .error fault => ([], .error (.malformed fault.message))
  | .ok text =>
    let text := Text.joinLineEnds text
    match Json.read stack.reading text with
    | .error .tooDeep => ([], .error .overflow)
    | .error fault => ([], .error (.malformed (fault.message text)))
    | .ok (.object members) =>
      let (notices, read) := ofMembers stack members
      (notices, read.mapError .ofUnfit)
    | .ok _ => ([], .error (.malformed "top-level value must be an object"))

/-- The saved configuration, and notices of what is wrong with it. -/
def load (stack : Stack) (files : Files) (path : FilePath) (now : String) :
    List String × Except Overflow Config :=
  if !files.has path then ([], .ok (default now))
  else match files.read path with
    | .error error => ([unreadable (error.message path)], .ok (default now))
    | .ok bytes =>
      match ofBytes stack bytes with
      | (notices, .ok config) => (notices, .ok config)
      | (notices, .error (.malformed reason)) => (notices ++ [malformed reason], .ok (default now))
      | (notices, .error .overflow) => (notices, .error .overflow)

/-- The members of a configuration, as far as the stack has room to copy them. -/
def copied (stack : Stack) (config : Config) : Except Limit (Json.Members CodeText) :=
  if stack.copying < config.toJson.depth then .error .depth else .ok config.members

/-- The text that a configuration is saved as. -/
def text (stack : Stack) (config : Config) : Except Limit String := do
  let members ← config.copied stack
  let document := Json.object members
  match document.limit? stack.copying with
  | some limit => throw limit
  | none => return document.lines

/-- Saves a configuration. The folder is made first, and stays where the rest fails. -/
def save (stack : Stack) (config : Config) (files : Files) (path : FilePath) :
    Files × Except ChangeError Unit :=
  match files.makeFolders path.parent with
  | .error error => (files, .error (.file error))
  | .ok made =>
    match config.text stack with
    | .error limit => (made, .error (.unfit (.limit limit)))
    | .ok text =>
      match made.write path (Files.bytesOf text) with
      | .error error => (made, .error (.file error))
      | .ok written => (written, .ok ())

/-- What an attempt to change the preference leaves: notices, the files, and what was saved or why
nothing was. -/
structure Change where
  notices : List String
  files : Files
  result : Except ChangeError Config

/-- Merges changes into the saved configuration and saves the result. -/
def update (stack : Stack) (files : Files) (path : FilePath) (now : String)
    (changes : Json.Members CodeText) : Change :=
  let (notices, loaded) := load stack files path now
  match loaded with
  | .error .overflow => ⟨notices, files, .error (.unfit (.limit .depth))⟩
  | .ok config =>
    match config.copied stack with
    | .error limit => ⟨notices, files, .error (.unfit (.limit limit))⟩
    | .ok members =>
      let (more, changed) := ofMembers stack (Json.merge members changes)
      match changed with
      | .error reason => ⟨notices ++ more, files, .error (.unfit reason)⟩
      | .ok changed =>
        let (files, saved) := changed.save stack files path
        ⟨notices ++ more, files, saved.map fun _ => changed⟩

/-- The value that names lead to in a document; null where there is none. -/
def valueAt (document : Json CodeText) : List String → Json CodeText
  | [] => document
  | name :: rest =>
    match document.get? name with
    | some value => valueAt value rest
    | none => .null

/-- The names of a key with points between them. -/
def namesOf (key : String) : List String := (key.toList.splitOn '.').map String.ofList

/-- The value of a key in the saved configuration, and notices of what is wrong with it. -/
def get (stack : Stack) (files : Files) (path : FilePath) (now key : String) :
    List String × Except Overflow (Json CodeText) :=
  let (notices, loaded) := load stack files path now
  match loaded with
  | .error .overflow => (notices, .error .overflow)
  | .ok config =>
    match config.copied stack with
    | .error _ => (notices, .error .overflow)
    | .ok members => (notices, .ok (valueAt (.object members) (namesOf key)))

/-- The object in which names lead to a value. -/
def nested (value : Json CodeText) : List String → Json CodeText
  | [] => value
  | name :: rest => .object [(name, nested value rest)]

/-- The error of a value that is not accepted. Telling it shows the value, which has to be within
the limits for that. -/
def refused (stack : Stack) (error : Json CodeText → ChangeError) (value : Json CodeText) :
    ChangeError :=
  match value.limit? stack.showing with
  | some limit => .unfit (.limit limit)
  | none => error value

/-- The changes that set a key. The two security settings are checked, and levels take their usual
spelling. -/
def changesFor (stack : Stack) (key : String) (value : Json CodeText) :
    Except ChangeError (Json.Members CodeText) := do
  let value ←
    if key == "security.level" then
      match Level.ofJson? value with
      | some level => pure (Json.string (level.key : CodeText))
      | none => throw (refused stack .level value)
    else if key == "security.fail_on" then
      match Threshold.ofJson? value with
      | some _ => pure value
      | none => throw (refused stack .threshold value)
    else pure value
  match nested value (namesOf key) with
  | .object members => return members
  | _ => return []

/-- Sets the value of a key and saves the result. -/
def set (stack : Stack) (files : Files) (path : FilePath) (now key : String)
    (value : Json CodeText) : Change :=
  match changesFor stack key value with
  | .ok changes => update stack files path now changes
  | .error error => ⟨[], files, .error error⟩

end ShellVet.Config
