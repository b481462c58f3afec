import ShellVet.Files.Basic
import ShellVet.Json.Reader
import ShellVet.Source.Url
import ShellVet.Text.Case
import ShellVet.Yaml.Basic

/-!
# Loading documents

A document comes from a file, or from the web if its source looks like an address. Files whose name
ends like that of a YAML file are read as YAML, all others as JSON. A YAML text can hold a
collection that holds itself: such a text is loaded, but there is no document of it (`none`).
-/

namespace ShellVet.Source

/-- The answer to a request: a status and a text, or why there is none. -/
abbrev Answer := Except String (Nat × String)

/-- What loading needs from outside. -/
structure Surroundings where
  files : Files
  /-- The answer to a request for an address. -/
  fetch : String → Answer
  stack : Stack

/-- Why a text is not the document it should be. -/
inductive FormatError where
  | json (fault : Json.Fault) (text : List Char)
  | yaml (fault : Yaml.Fault)
  deriving Repr

/-- Why a document is not loaded. -/
inductive LoadError where
  | refused (source : String)
  | unreachable (source reason : String)
  | status (source : String) (code : Nat)
  | notFound (source : String)
  | undecodable (source : String) (fault : Text.Utf8Fault)
  | format (name : String) (error : FormatError)
  /-- The path cannot be followed. -/
  | path (error : FileError)
  deriving Repr

/-- Whether the error is one of the document, which is reported as a failure to load it. Numbers of
too many digits, single values of YAML, texts that nest too deep and overlong paths are not. -/
def LoadError.isReported : LoadError → Bool
  | .path _ => false
  | .format _ (.json (.flaw ..) _) => true
  | .format _ (.json ..) => false
  | .format _ (.yaml fault) => fault == .malformed
  | _ => true

/-- The wording of an error. That of malformed YAML ends before what is wrong with it. -/
def LoadError.message : LoadError → String
  | .refused source => s!"Refusing to fetch non-http(s) URL: {source}"
  | .unreachable source reason => s!"Failed to fetch {source}: {reason}"
  | .status source code => s!"Failed to fetch {source}: HTTP {code}"
  | .notFound source => s!"File not found: {source}"
  | .undecodable source fault => s!"Cannot read {source}: {fault.message}"
  | .format name (.json (.flaw flaw pos) text) =>
    s!"Failed to parse {name}: {(Json.Fault.flaw flaw pos).message text}"
  | .format _ (.json fault text) => fault.message text
  | .format name (.yaml .malformed) => s!"Failed to parse {name}: "
  | .format _ (.yaml fault) => fault.message
  | .path error => error.reason

/-- Whether a source looks like an address. -/
def looksLikeUrl (source : String) : Bool :=
  source.contains "://"

/-- The ends of the names of YAML files. -/
def yamlEndings : List (List Char) := [".yml".toList, ".yaml".toList]

/-- Whether a name is that of a YAML file. -/
def isYamlName (name : String) : Bool :=
  yamlEndings.any fun ending => ending.isSuffixOf (Text.lower name.toList)

/-- The document of a text that stands under a name. -/
def parse (stack : Stack) (name : String) (text : List Char) : Except LoadError (Option Document) :=
  if isYamlName name then
    (Yaml.read stack.composing text).mapError fun fault => .format name (.yaml fault)
  else match Json.read stack.reading text with
    | .ok document => .ok (some (.ofJson document))
    | .error fault => .error (.format name (.json fault text))

/-- Loads the document of a file. -/
def loadFile (stack : Stack) (files : Files) (source : String) :
    Except LoadError (Option Document) :=
  let path := FilePath.ofString source
  match files.read path with
  | .error .nameTooLong => .error (.path .nameTooLong)
  | .error _ => .error (.notFound source)
  | .ok bytes =>
    match Text.decode bytes with
    | .error fault => .error (.undecodable source fault)
    | .ok text => parse stack path.name (Text.joinLineEnds text)

/-- The document of the answer to a request. -/
def parseAnswer (stack : Stack) (source : String) : Answer → Except LoadError (Option Document)
  | .error reason => .error (.unreachable source reason)
  | .ok (status, text) =>
    if status ≠ 200 then .error (.status source status)
    else
      let path := ((Url.ofText? source.toList).map (·.path)).getD []
      parse stack (String.ofList path) text.toList

/-- Loads a document. Also gives the addresses that were asked for, of which there is at most
one. -/
def load (surroundings : Surroundings) (source : String) :
    List String × Except LoadError (Option Document) :=
  let stack := surroundings.stack
  if looksLikeUrl source then
    if isSafe source then ([source], parseAnswer stack source (surroundings.fetch source))
    else ([], .error (.refused source))
  else ([], loadFile stack surroundings.files source)

end ShellVet.Source
