import ShellVet.Proofs.Terminal.Markup
import ShellVet.Terminal.Screen

/-!
# Markup that is sent

To send markup to the terminal, the styles that its tags switch on are looked up. All of them are
those of active tags (`isSound_of_mem_stylesFor`), so markup whose actions can be carried out is
sent (`sent_of_runs`), and what is sent is what it shows without the controls that move the cursor.
-/

namespace ShellVet.Terminal

open Markup

variable {stack : List Opened} {console : Console} {opened : Opened}

/-- The characters that are sent for those that markup shows. -/
def screened (shown : List Char) : List Char :=
  expandTabs 0 (shown.filter fun c => !isCursorControl c)

/-! ## The styles that are looked up -/

theorem open_mem_actions_iff (pieces : List Part) :
    .open opened ∈ actions pieces ↔ opened ∈ pieces.filterMap Part.opened? := by
  induction pieces with
  | nil => simp [actions]
  | cons part pieces ih =>
    cases part with
    | char c => simpa [actions, Part.opened?] using ih
    | tag mark =>
      rw [actions, List.filterMap_cons, Part.opened?]
      split
      · exact ih
      · cases mark.action <;> simp [ih]

/-- What is on after an action was on before, or is switched on by it. -/
theorem mem_of_mem_apply {action : Action} {next : List Opened}
    (applied : action.apply console stack = .ok next) (among : opened ∈ next) :
    opened ∈ stack ∨ action = .open opened := by
  have closed {last : Opened} {rest : List Opened} (fewer : rest ⊆ stack)
      (closes : last.close console rest = .ok next) : opened ∈ stack := by
    unfold Opened.close at closes
    split at closes
    · cases closes
      exact fewer among
    · cases closes
  cases action with
  | «open» last =>
    cases applied
    rcases List.mem_cons.mp among with rfl | before
    · exact .inr rfl
    · exact .inl before
  | close name =>
    rw [Action.apply] at applied
    split at applied
    · exact .inl (closed List.eraseP_subset applied)
    · cases applied
  | closeLast =>
    cases stack with
    | nil => cases applied
    | cons first rest => exact .inl (closed (List.subset_cons_self _ _) applied)
  | breakOff => cases applied

/-- The styles of characters were on, or are switched on by active tags. -/
theorem mem_of_mem_stylesOn {counts : Char → Bool} (pieces : List Part)
    (among : opened ∈ stylesOn console counts stack pieces) :
    opened ∈ stack ∨ .open opened ∈ actions pieces := by
  induction pieces generalizing stack with
  | nil => cases among
  | cons part pieces ih =>
    cases part with
    | char c =>
      rcases List.mem_append.mp among with here | later
      · split at here
        · exact .inl here
        · cases here
      · exact ih later
    | tag mark =>
      rw [actions]
      rcases List.mem_append.mp among with here | later
      · split at here
        · exact .inl here
        · cases here
      · split at later
        · next odd =>
          rw [if_pos odd]
          exact ih later
        · next even =>
          rw [if_neg even]
          split at later
          · next next applied =>
            rcases ih later with on | switched
            · rcases mem_of_mem_apply applied on with before | same
              · exact .inl before
              · exact .inr (same ▸ List.mem_cons_self)
            · exact .inr (List.mem_cons_of_mem _ switched)
          · cases later

theorem mem_of_mem_stylesFor {shown : List Char} {pieces : List Part}
    (among : opened ∈ stylesFor console shown pieces) : .open opened ∈ actions pieces := by
  unfold stylesFor at among
  split at among
  · exact (mem_of_mem_stylesOn pieces among).resolve_left nofun
  · exact (open_mem_actions_iff pieces).mpr among

/-! ## Sending -/

/-- What markup shows is sent, if the styles that it switches on can be looked up. -/
theorem sent_of_render {line : String} {shown : List Char}
    (rendered : render console line.toList = .ok shown)
    (sound : ∀ action ∈ active line.toList, action.isSound = true) :
    sent console line = .ok (String.ofList (screened shown)) := by
  have fine : (stylesFor console shown (parts line.toList)).any
      (fun opened => breaksOff opened.style) = false := by
    refine List.any_eq_false.mpr fun opened among => ?_
    simpa [Action.isSound] using sound _ (mem_of_mem_stylesFor among)
  have whole : renderParts console [] (parts line.toList) = .ok shown := rendered
  unfold sent
  simp only [whole, Except.bind, bind, fine]
  rfl

/-- Markup whose actions can be carried out is sent. -/
theorem sent_of_runs {line : String} (carried : runs console [] (active line.toList) = true) :
    ∃ shown, sent console line = .ok (String.ofList (screened shown)) := by
  obtain ⟨shown, rendered⟩ := renderParts_of_runs carried
  exact ⟨shown, sent_of_render rendered (isSound_of_runs carried)⟩

end ShellVet.Terminal
