import ShellVet.Proofs.Json.Faults
import ShellVet.Proofs.Source.Fetched
import ShellVet.Proofs.Yaml.Values

/-!
# Failures that are not reported

A failure to load a document is reported as one unless loading stumbles over a single thing: a path
that is too long, a number of too many digits, a text that opens more collections than the stack has
room for, an escape for a code point that there is none of, an alias inside its own anchor, or a
value that its tag does not fit (`isReported_iff`).
-/

namespace ShellVet

/-! ## Paths -/

namespace Files

/-- The path is longer than paths may be, or one of its names is longer than names may be. -/
def IsOverlong (path : FilePath) : Prop :=
  longestPath < path.toString.utf8ByteSize ∨ ∃ name ∈ path.names, longestName < name.utf8ByteSize

/-- The error is about the length of the path only if that is too long. -/
def FitsError (path : FilePath) (error : FileError) : Prop :=
  error = .nameTooLong → IsOverlong path

theorem settles_walk (files : Files) {path : FilePath} (place : FilePath) {names : List String}
    (inside : ∀ name ∈ names, name ∈ path.names) :
    Settles (fun _ => True) (FitsError path) (files.walk place names) := by
  induction names generalizing place with
  | nil => trivial
  | cons name rest ih =>
    obtain ⟨own, later⟩ := List.forall_mem_cons.mp inside
    unfold walk
    split
    · exact nofun
    · exact nofun
    · refine .ite (fun _ => ih _ later) fun _ => .ite (fun long _ => ?_) fun _ => ih _ later
      exact .inr ⟨name, own, long⟩

theorem settles_place (files : Files) (path : FilePath) :
    Settles (fun _ => True) (FitsError path) (files.place path) :=
  .ite (fun long _ => .inl long) fun _ =>
    .ite (fun _ => nofun) fun _ => files.settles_walk _ fun _ => id

theorem settles_files_read (files : Files) (path : FilePath) :
    Settles (fun _ => True) (FitsError path) (files.read path) := by
  have found : Settles (fun _ => True) (FitsError path) (files.find path) := by
    refine (files.settles_place path).bind fun place _ => ?_
    split
    · trivial
    · exact nofun
  refine found.bind fun entry _ => ?_
  split
  · trivial
  · exact nofun

end Files

namespace Source

/-! ## Documents -/

/-- The text that a source leads to, under the name that it stands under: that of a file, or of the
answer to a request. -/
inductive Given (surroundings : Surroundings) (source : String) : String → List Char → Prop
  | file {bytes : List UInt8} {text : List Char} (looks : looksLikeUrl source = false)
      (found : surroundings.files.read (FilePath.ofString source) = .ok bytes)
      (decoded : Text.decode bytes = .ok text) :
      Given surroundings source (FilePath.ofString source).name (Text.joinLineEnds text)
  | answer {text : String} (looks : looksLikeUrl source = true) (safe : isSafe source = true)
      (answered : surroundings.fetch source = .ok (200, text)) :
      Given surroundings source
        (String.ofList (((Url.ofText? source.toList).map (·.path)).getD [])) text.toList

/-- What loading stumbles over, so that the failure is not reported. -/
inductive Stumbles (surroundings : Surroundings) (source : String) : LoadError → Prop
  /-- A path that is too long, as a whole or in one name. -/
  | path (looks : looksLikeUrl source = false)
      (long : Files.IsOverlong (FilePath.ofString source)) :
      Stumbles surroundings source (.path .nameTooLong)
  /-- A number of JSON with too many digits. -/
  | digits {name : String} {text : List Char} {count : Nat}
      (given : Given surroundings source name text) (json : isYamlName name = false)
      (holds : Json.HoldsDigits text count) :
      Stumbles surroundings source (.format name (.json (.tooManyDigits count) text))
  /-- A text of JSON that nests too deep. -/
  | deep {name : String} {text : List Char} (given : Given surroundings source name text)
      (json : isYamlName name = false)
      (opens : surroundings.stack.reading < Json.openings text) :
      Stumbles surroundings source (.format name (.json .tooDeep text))
  /-- A value of YAML, or an escape or alias there, or its nesting. -/
  | value {name : String} {text : List Char} {fault : Yaml.Fault}
      (given : Given surroundings source name text) (yaml : isYamlName name = true)
      (single : fault ≠ .malformed) (about : fault.IsAbout surroundings.stack.composing text) :
      Stumbles surroundings source (.format name (.yaml fault))

variable {surroundings : Surroundings} {source : String}

theorem isReported_of_stumbles {error : LoadError} (stumbles : Stumbles surroundings source error) :
    error.isReported = false := by
  cases stumbles with
  | path => rfl
  | digits => rfl
  | deep => rfl
  | value _ _ single _ => exact beq_eq_false_iff_ne.mpr single

/-- The error is reported, or loading stumbles. -/
def Explained (surroundings : Surroundings) (source : String) (error : LoadError) : Prop :=
  error.isReported = true ∨ Stumbles surroundings source error

theorem settles_parse {name : String} {text : List Char}
    (given : Given surroundings source name text) :
    Settles (fun _ => True) (Explained surroundings source)
      (parse surroundings.stack name text) := by
  unfold parse
  split
  · next yaml =>
    refine (Yaml.settles_read _ text).mapError fun fault about => ?_
    by_cases single : fault = .malformed
    · rw [single]
      exact .inl rfl
    · exact .inr (.value given yaml single about)
  · next other =>
    split
    · trivial
    · next fault refused =>
      cases fault with
      | flaw flaw pos => exact .inl rfl
      | tooManyDigits count =>
        exact .inr (.digits given (Bool.eq_false_iff.mpr other) (Json.holdsDigits_of_read refused))
      | tooDeep =>
        exact .inr (.deep given (Bool.eq_false_iff.mpr other) (Json.lt_openings_of_read refused))

theorem settles_loadFile (looks : looksLikeUrl source = false) :
    Settles (fun _ => True) (Explained surroundings source)
      (loadFile surroundings.stack surroundings.files source) := by
  have lengths := surroundings.files.settles_files_read (FilePath.ofString source)
  unfold loadFile
  dsimp only
  split
  · next long =>
    rw [long] at lengths
    exact .inr (.path looks (lengths rfl))
  · exact .inl rfl
  · next bytes found =>
    split
    · exact .inl rfl
    · next text decoded => exact settles_parse (.file looks found decoded)

theorem settles_parseAnswer (looks : looksLikeUrl source = true) (safe : isSafe source = true) :
    Settles (fun _ => True) (Explained surroundings source)
      (parseAnswer surroundings.stack source (surroundings.fetch source)) := by
  unfold parseAnswer
  split
  · exact .inl rfl
  · next status text answered =>
    split
    · exact .inl rfl
    · next fine =>
      rw [Decidable.not_not.mp fine] at answered
      have given := Given.answer looks safe answered
      dsimp only
      -- the name is that of the path in the address; how it is found plays no part here
      generalize String.ofList _ = name at given ⊢
      exact settles_parse given

/-- Whatever keeps a document from being loaded is reported, or loading stumbles over it. -/
theorem settles_load (surroundings : Surroundings) (source : String) :
    Settles (fun _ => True) (Explained surroundings source) (load surroundings source).2 := by
  cases looks : looksLikeUrl source with
  | false =>
    rw [load_of_path surroundings looks]
    exact settles_loadFile looks
  | true =>
    cases safe : isSafe source with
    | false =>
      rw [load_of_refused surroundings looks safe]
      exact .inl rfl
    | true =>
      rw [load_of_safe surroundings looks safe]
      exact settles_parseAnswer looks safe

/-- A failure is reported if and only if loading does not stumble. -/
theorem isReported_iff {error : LoadError} (failed : (load surroundings source).2 = .error error) :
    error.isReported = true ↔ ¬Stumbles surroundings source error := by
  have explained := settles_load surroundings source
  rw [failed] at explained
  constructor
  · intro reported stumbles
    rw [isReported_of_stumbles stumbles] at reported
    cases reported
  · exact fun clear => explained.resolve_right clear

end Source

end ShellVet
