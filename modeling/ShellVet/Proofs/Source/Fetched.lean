import Mathlib.Logic.Basic
import ShellVet.Proofs.Text.Ascii
import ShellVet.Proofs.Text.Folded
import ShellVet.Source.Load

/-!
# What is fetched

An address is split at its first colon, and behind two slashes its host goes up to the next
separator. Of addresses in plain characters exactly those may be fetched that put `http` or `https`,
in any case, and then `://` before something that is no separator (`isSafe_iff`). Loading asks for
the source itself, once, if it looks like an address and may be fetched, and then looks at no file;
else it asks for nothing (`only_web_fetched`).
-/

namespace ShellVet.Source

variable {text : List Char}

/-- Whether the character is one of ASCII that is printed, other than the blank and the square
brackets. -/
def isPlain (c : Char) : Bool :=
  32 < c.toNat && c.toNat < 127 && c != '[' && c != ']'

/-- The text starts like a web address: with one of the two schemes, in any case, and `://`, and
then something other than a separator. -/
def IsWebAddress (text : List Char) : Prop :=
  ∃ scheme first rest, text = scheme ++ "://".toList ++ first :: rest ∧
    (scheme.map Char.toLower = "http".toList ∨ scheme.map Char.toLower = "https".toList) ∧
    first ∉ ['/', '?', '#']

/-! ## Plain characters -/

theorem isPlain_iff {c : Char} :
    isPlain c = true ↔ 32 < c.toNat ∧ c.toNat < 127 ∧ c ≠ '[' ∧ c ≠ ']' := by
  simp [isPlain, and_assoc]

/-- In a plain text every character counts. -/
theorem cleaned_of_plain (plain : ∀ c ∈ text, isPlain c = true) : cleaned text = text := by
  have counts : ∀ c ∈ text, (c != '\t' && c != '\r' && c != '\n') = true := by
    intro c inside
    have visible := (isPlain_iff.mp (plain c inside)).1
    simp only [Bool.and_eq_true, bne_iff_ne]
    refine ⟨⟨?_, ?_⟩, ?_⟩ <;> rintro rfl <;> exact absurd visible (by decide)
  unfold cleaned
  cases text with
  | nil => rfl
  | cons c text =>
    have visible := (isPlain_iff.mp (plain c List.mem_cons_self)).1
    rw [List.dropWhile_cons_of_neg (by simpa using visible)]
    exact List.filter_eq_self.mpr counts

theorem fitsBrackets_of_plain (plain : ∀ c ∈ text, isPlain c = true) :
    fitsBrackets text = true := by
  have opens : text.contains '[' = false := by
    rw [← Bool.not_eq_true, List.contains_iff_mem]
    intro inside
    exact absurd (plain _ inside) (by decide)
  have closes : text.contains ']' = false := by
    rw [← Bool.not_eq_true, List.contains_iff_mem]
    intro inside
    exact absurd (plain _ inside) (by decide)
  unfold fitsBrackets
  rw [opens, closes]
  rfl

theorem hasNoDisguise_of_plain (plain : ∀ c ∈ text, isPlain c = true) :
    hasNoDisguise text = true := by
  have far : (disguisedCodes.all fun code => decide (127 ≤ code)) = true := by decide
  refine List.all_eq_true.mpr fun c inside => ?_
  rw [Bool.not_eq_true', ← Bool.not_eq_true, List.contains_iff_mem]
  intro disguised
  have beyond := of_decide_eq_true (List.all_eq_true.mp far _ disguised)
  have within := (isPlain_iff.mp (plain c inside)).2.1
  omega

/-! ## Schemes -/

/-- A text has no scheme, or its scheme, in any case, stands before the first colon. -/
theorem splitScheme_cases (text : List Char) :
    splitScheme text = ([], text) ∨ ∃ scheme rest, text = scheme ++ ':' :: rest ∧
      splitScheme text = (scheme.map Char.toLower, rest) := by
  have whole : text.takeWhile (· != ':') ++ text.dropWhile (· != ':') = text :=
    List.takeWhile_append_dropWhile
  unfold splitScheme
  dsimp only
  split
  · next mark rest first more behind before =>
    have colon : mark = ':' := by
      have stops := List.head?_dropWhile_not (· != ':') text
      rw [behind] at stops
      simpa using stops
    split
    · rw [behind, colon] at whole
      exact .inr ⟨_, _, whole.symm, rfl⟩
    · exact .inl rfl
  · exact .inl rfl

/-- Letters before a colon are a scheme. -/
theorem splitScheme_of_letters {scheme rest : List Char} (some : scheme ≠ [])
    (letters : ∀ c ∈ scheme, c.isAlpha = true) :
    splitScheme (scheme ++ ':' :: rest) = (scheme.map Char.toLower, rest) := by
  have passes : ∀ c ∈ scheme, (c != ':') = true := by
    intro c inside
    rw [bne_iff_ne]
    rintro rfl
    exact absurd (letters _ inside) (by decide)
  have valid : scheme.all isSchemeChar = true := by
    refine List.all_eq_true.mpr fun c inside => ?_
    simp [isSchemeChar, Char.isAlphanum, letters c inside]
  have before : (scheme ++ ':' :: rest).takeWhile (· != ':') = scheme := by
    rw [List.takeWhile_append_of_pos passes, List.takeWhile_cons_of_neg (by decide),
      List.append_nil]
  have behind : (scheme ++ ':' :: rest).dropWhile (· != ':') = ':' :: rest := by
    rw [List.dropWhile_append_of_pos passes, List.dropWhile_cons_of_neg (by decide)]
  unfold splitScheme
  dsimp only
  rw [before, behind]
  cases scheme with
  | nil => exact absurd rfl some
  | cons first more =>
    dsimp only
    rw [letters first List.mem_cons_self, valid]
    rfl

/-! ## Hosts -/

/-- A host is there where two slashes come before something other than a separator. -/
theorem splitAuthority_ne_nil_iff :
    (splitAuthority text).1 ≠ [] ↔
      ∃ first rest, text = '/' :: '/' :: first :: rest ∧ first ∉ ['/', '?', '#'] := by
  unfold splitAuthority
  split
  · next rest =>
    cases rest with
    | nil => simp
    | cons first rest =>
      dsimp only
      rw [List.takeWhile_cons]
      split
      · next goes => simpa [and_assoc] using goes
      · next ends => simpa [or_assoc, or_iff_not_imp_left] using ends
  · next other =>
    refine ⟨fun some => absurd rfl some, ?_⟩
    rintro ⟨first, rest, rfl, -⟩
    exact absurd rfl (other (first :: rest))

theorem mem_of_mem_splitAuthority {c : Char} (inside : c ∈ (splitAuthority text).1) : c ∈ text := by
  unfold splitAuthority at inside
  split at inside
  · exact List.mem_cons_of_mem _ (List.mem_cons_of_mem _ ((List.takeWhile_sublist _).subset inside))
  · cases inside

theorem mem_of_mem_splitScheme {c : Char} (inside : c ∈ (splitScheme text).2) : c ∈ text := by
  rcases splitScheme_cases text with none | ⟨scheme, rest, whole, split⟩
  · rwa [none] at inside
  · rw [split] at inside
    rw [whole]
    exact List.mem_append_right _ (List.mem_cons_of_mem _ inside)

/-! ## Safe addresses -/

/-- A plain address may be fetched if its scheme is one of the web and its host is there. -/
theorem isSafe_of_plain {address : String} (plain : ∀ c ∈ address.toList, isPlain c = true) :
    isSafe address = true ↔
      ((splitScheme address.toList).1 = "http".toList ∨
        (splitScheme address.toList).1 = "https".toList) ∧
      (splitAuthority (splitScheme address.toList).2).1 ≠ [] := by
  have host : ∀ c ∈ (splitAuthority (splitScheme address.toList).2).1, isPlain c = true :=
    fun c inside => plain c (mem_of_mem_splitScheme (mem_of_mem_splitAuthority inside))
  unfold isSafe Url.ofText?
  rw [cleaned_of_plain plain]
  dsimp only
  rw [fitsBrackets_of_plain host, hasNoDisguise_of_plain host]
  simp [Url.isWeb]

theorem isAlpha_of_toLower_mem {c : Char} (known : c.toLower ∈ "https".toList) :
    c.isAlpha = true := by
  have letters : ("https".toList.all Char.isAlpha) = true := by decide
  rw [← Text.eq_toLower Char.isAlpha (by decide) c]
  exact List.all_eq_true.mp letters _ known

/-- Of plain addresses, those that start like a web address may be fetched, and no others. -/
theorem isSafe_iff {address : String} (plain : ∀ c ∈ address.toList, isPlain c = true) :
    isSafe address = true ↔ IsWebAddress address.toList := by
  rw [isSafe_of_plain plain, splitAuthority_ne_nil_iff]
  constructor
  · rintro ⟨web, first, rest, behind, host⟩
    rcases splitScheme_cases address.toList with none | ⟨scheme, after, whole, split⟩
    · -- without a scheme, the empty one would be one of the web
      rw [none] at web
      dsimp only at web
      exact absurd web (by decide)
    · rw [split] at web behind
      dsimp only at behind
      rw [behind] at whole
      refine ⟨scheme, first, rest, ?_, web, host⟩
      rw [whole, List.append_assoc]
      rfl
  · rintro ⟨scheme, first, rest, whole, web, host⟩
    have some : scheme ≠ [] := by
      rintro rfl
      exact absurd web (by decide)
    have letters : ∀ c ∈ scheme, c.isAlpha = true := by
      intro c inside
      refine isAlpha_of_toLower_mem ?_
      have image : c.toLower ∈ scheme.map Char.toLower := List.mem_map_of_mem inside
      rcases web with web | web
      · rw [web] at image
        exact List.mem_append_left ['s'] image
      · rwa [web] at image
    have split : splitScheme address.toList =
        (scheme.map Char.toLower, '/' :: '/' :: first :: rest) := by
      rw [whole, List.append_assoc]
      exact splitScheme_of_letters some letters
    rw [split]
    exact ⟨web, first, rest, rfl, host⟩

/-! ## Requests -/

theorem looksLikeUrl_iff {source : String} :
    looksLikeUrl source = true ↔ "://".toList <:+: source.toList :=
  String.contains_string_iff

section

variable {source : String} (surroundings : Surroundings)

theorem load_of_path (looks : looksLikeUrl source = false) :
    load surroundings source = ([], loadFile surroundings.stack surroundings.files source) := by
  unfold load
  rw [looks]
  rfl

theorem load_of_refused (looks : looksLikeUrl source = true) (safe : isSafe source = false) :
    load surroundings source = ([], .error (.refused source)) := by
  unfold load
  rw [looks, safe]
  rfl

theorem load_of_safe (looks : looksLikeUrl source = true) (safe : isSafe source = true) :
    load surroundings source =
      ([source], parseAnswer surroundings.stack source (surroundings.fetch source)) := by
  unfold load
  rw [looks, safe]
  rfl

end

/-- **What is fetched.** A plain address may be fetched if and only if it starts like a web address.
Whatever the source and whatever there is outside, loading asks for something if and only if `://`
stands in the source and the source may be fetched. It then asks for the source, once, and its
outcome depends on the answer to that alone, and on no file; else it depends on no answer, and a
source with `://` is refused whatever the files are. -/
theorem only_web_fetched :
    (∀ address : String, (∀ c ∈ address.toList, isPlain c = true) →
      (isSafe address = true ↔ IsWebAddress address.toList)) ∧
    ∀ (surroundings : Surroundings) (source : String),
      let asked := (load surroundings source).1
      (asked ≠ [] ↔ "://".toList <:+: source.toList ∧ isSafe source = true) ∧
      (asked ≠ [] → asked = [source] ∧ ∀ files fetch, fetch source = surroundings.fetch source →
        load { surroundings with files, fetch } source = load surroundings source) ∧
      (asked = [] → ∀ fetch, load { surroundings with fetch } source = load surroundings source) ∧
      ("://".toList <:+: source.toList → isSafe source = false → ∀ files,
        load { surroundings with files } source = ([], .error (.refused source)) ∧
          (LoadError.refused source).isReported = true) := by
  refine ⟨fun address plain => isSafe_iff plain, fun surroundings source => ?_⟩
  dsimp only
  rw [← looksLikeUrl_iff]
  cases looks : looksLikeUrl source with
  | false =>
    rw [load_of_path surroundings looks]
    exact ⟨by simp, fun some => absurd rfl some, fun _ fetch => load_of_path _ looks, nofun⟩
  | true =>
    cases safe : isSafe source with
    | false =>
      rw [load_of_refused surroundings looks safe]
      exact ⟨by simp, fun some => absurd rfl some, fun _ fetch => load_of_refused _ looks safe,
        fun _ _ files => ⟨load_of_refused _ looks safe, rfl⟩⟩
    | true =>
      rw [load_of_safe surroundings looks safe]
      refine ⟨by simp, fun _ => ⟨rfl, fun files fetch same => ?_⟩, nofun, nofun⟩
      rw [load_of_safe _ looks safe]
      dsimp only
      rw [same]

/-- The scheme may be written in capitals; one that is not of the web is refused. -/
theorem only_web_fetched_capitals :
    (∀ c ∈ "HTTPS://h:1//x?y".toList, isPlain c = true) ∧ isSafe "HTTPS://h:1//x?y" = true ∧
      (∀ c ∈ "file:///etc/passwd".toList, isPlain c = true) ∧ isSafe "file:///etc/passwd" = false ∧
      ∀ surroundings : Surroundings,
        (load surroundings "HTTPS://h:1//x?y").1 = ["HTTPS://h:1//x?y"] ∧
        load surroundings "file:///etc/passwd" = ([], .error (.refused "file:///etc/passwd")) := by
  obtain ⟨language, requests⟩ := only_web_fetched
  have plain : ∀ c ∈ "HTTPS://h:1//x?y".toList, isPlain c = true :=
    Text.forall_mem_of_all (by decide)
  have plain' : ∀ c ∈ "file:///etc/passwd".toList, isPlain c = true :=
    Text.forall_mem_of_all (by decide)
  have safe : isSafe "HTTPS://h:1//x?y" = true :=
    (language _ plain).mpr
      ⟨"HTTPS".toList, 'h', ":1//x?y".toList, by decide, .inr (by decide), by decide⟩
  have refusable : isSafe "file:///etc/passwd" = false := by decide
  have stands : "://".toList <:+: "HTTPS://h:1//x?y".toList :=
    ⟨"HTTPS".toList, "h:1//x?y".toList, by decide⟩
  have stands' : "://".toList <:+: "file:///etc/passwd".toList :=
    ⟨"file".toList, "/etc/passwd".toList, by decide⟩
  refine ⟨plain, safe, plain', refusable, fun surroundings => ?_⟩
  obtain ⟨asks, once, -⟩ := requests surroundings "HTTPS://h:1//x?y"
  obtain ⟨-, -, -, refused⟩ := requests surroundings "file:///etc/passwd"
  exact ⟨(once (asks.mpr ⟨stands, safe⟩)).1, (refused stands' refusable _).1⟩

end ShellVet.Source
