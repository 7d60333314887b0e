import DeskScript.Proofs.Parser.Related

/-!
Statements that end without a semicolon. A watched statement makes an entry in the journal where it
ends so, and apart from that it does what a statement does (`run_watchedProgram`). Where the entry
is made, a statement of the run ends without a semicolon: `EndsBare`.
-/

namespace DeskScript.Parser

variable {α β : Type} {settings : Settings} {s s' : State}

def bareEnd : Journal.Event :=
  .tokenized 0 0

/-- The end of a statement: the semicolon that may be there, or else an entry that there is none. -/
def watchedEnd (node : Node) : Parser Node := do
  if ← acceptOperator ";" then
    return node
  else
    note bareEnd
    return node

def watchedTerminated (settings : Settings) (expression statement : Parser Node) :
    Parser Node := do
  if ← acceptOperator ";" then
    return .emptyStatement
  else
    let node ← unterminated settings expression statement
    watchedEnd node

def watchedStatement (settings : Settings) : Nat → Parser Node
  | 0 => tooDeep settings
  | levels + 1 =>
    nested settings (watchedTerminated settings (expression settings levels 1)
      (watchedStatement settings levels))

def watchedProgram (settings : Settings) (levels count : Nat) : Parser Node := do
  note (.parsing count)
  let statements ← topLevel (watchedStatement settings levels) [] settings.bound
  note (.parsed statements.length)
  return .program statements

def BareAt (here : Cursor → Prop) : Parser α → State → Prop
  | .done _, _ => False
  | .failed _, _ => False
  | .look next, s => (next s.view).BareAt here s
  | .perform command next, s =>
    command = .note bareEnd ∧ here s.cursor ∨ next.BareAt here (command.apply s)

/-- In the run on these tokens a statement, at whatever depth, ends without a semicolon after so
many tokens. -/
def EndsBare (options : Options) (tokens : List Token) (place : Nat) : Prop :=
  BareAt (·.position = place)
    (watchedProgram (settingsFor defaultLimit options tokens) defaultLimit
      (Cursor.complete tokens).length)
    (start .initial tokens)

instance decidableBareAt (here : Cursor → Prop) [DecidablePred here] :
    (p : Parser α) → (s : State) → Decidable (p.BareAt here s)
  | .done _, _ => isFalse id
  | .failed _, _ => isFalse id
  | .look next, s => decidableBareAt here (next s.view) s
  | .perform command next, s =>
    have := decidableBareAt here next (command.apply s)
    inferInstanceAs (Decidable (command = .note bareEnd ∧ here s.cursor ∨
      next.BareAt here (command.apply s)))

instance decidableEndsBare (options : Options) (tokens : List Token) (place : Nat) :
    Decidable (EndsBare options tokens place) :=
  decidableBareAt (·.position = place) _ _

def State.silent (s : State) : State :=
  { s with journal := [] }

def Silently (_ : Nat) (α : Type) (p p' : Parser α) : Prop :=
  ∀ s s', s.silent = s'.silent →
    (p.run s).1 = (p'.run s').1 ∧ (p.run s).2.silent = (p'.run s').2.silent

theorem view_of_silent (same : s.silent = s'.silent) : s.view = s'.view := by
  have view (s : State) : s.view = s.silent.view := rfl
  rw [view, view s', same]

theorem apply_silent (command : Command) (same : s.silent = s'.silent) :
    (command.apply s).silent = (command.apply s').silent := by
  have after (s : State) : (command.apply s).silent = (command.apply s.silent).silent := by
    cases command <;> rfl
  rw [after, after s', same]

theorem applyAll_silent (given : List Command) (same : s.silent = s'.silent) :
    (Command.applyAll given s).silent = (Command.applyAll given s').silent := by
  induction given generalizing s s' with
  | nil => exact same
  | cons command rest ih => exact ih (apply_silent command same)

theorem silently_bind {d : Nat} {p p' : Parser α} {f f' : α → Parser β}
    (hp : Silently d α p p') (hf : ∀ a, Silently d β (f a) (f' a)) :
    Silently d β (p >>= f) (p' >>= f') := by
  intro s s' same
  have h := hp s s' same
  rw [run_bind, run_bind]
  generalize p.run s = ran at h
  generalize p'.run s' = ran' at h
  obtain ⟨result, t⟩ := ran
  obtain ⟨result', t'⟩ := ran'
  obtain ⟨rfl, left⟩ : result = result' ∧ t.silent = t'.silent := h
  cases result with
  | error e => exact ⟨rfl, left⟩
  | ok a => exact hf a t t' left

theorem silently_between {d : Nat} {p p' : Parser α} (before after : List Command)
    (h : Silently d α p p') : Silently d α (between before p after) (between before p' after) := by
  intro s s' same
  obtain ⟨result, left⟩ := h _ _ (applyAll_silent before same)
  rw [run_between, run_between]
  exact ⟨result, applyAll_silent after left⟩

theorem silently_refl (d : Nat) (p : Parser α) : Silently d α p p := by
  intro s s' same
  induction p generalizing s s' with
  | done a => exact ⟨rfl, same⟩
  | failed e => exact ⟨rfl, same⟩
  | look next ih =>
    simp only [run, ← view_of_silent same]
    exact ih s.view s s' same
  | perform command next ih => exact ih _ _ (apply_silent command same)

theorem silently_settled {d : Nat} {p p' : Parser Node} (h : Silently d Node p p') :
    Silently d Node p.settled p'.settled := by
  intro s s' same
  have h := h s s' same
  rw [run_settled, run_settled]
  generalize p.run s = ran at h
  generalize p'.run s' = ran' at h
  obtain ⟨result, t⟩ := ran
  obtain ⟨result', t'⟩ := ran'
  obtain ⟨rfl, left⟩ : result = result' ∧ t.silent = t'.silent := h
  cases result with
  | ok a => exact ⟨rfl, left⟩
  | error e =>
    dsimp only
    split
    · exact ⟨rfl, apply_silent _ left⟩
    · exact ⟨rfl, left⟩

theorem silently_related (settings : Settings) : Related settings settings Silently where
  limit := rfl
  done a := silently_refl _ _
  failed e := silently_refl _ _
  look h s s' same := by
    simp only [run, ← view_of_silent same]
    exact h s.view s s' same
  bind := silently_bind
  advance := silently_refl _ _
  note _ := silently_refl _ _
  declareVariable _ _ := silently_refl _ _
  declareFunction _ _ := silently_refl _ _
  inLoop := silently_between _ _
  inFunction _ := silently_between _ _
  nested h := by
    refine silently_bind (silently_refl _ depth) fun depth => ?_
    exact Related.ite _ (silently_refl _ _) (silently_between _ _ h)
  settled := silently_settled
  requireVariable _ := silently_refl _ _
  checkCall _ _ _ := silently_refl _ _

theorem silently_note (d : Nat) (event : Journal.Event) (a : α) :
    Silently d α (do note event; return a) (return a) :=
  fun _ _ same => ⟨rfl, same⟩

theorem silently_watchedTerminated {d : Nat} {inner sub sub' : Parser Node}
    (hsub : Silently d Node sub sub') :
    Silently d Node (watchedTerminated settings inner sub) (terminated settings inner sub') := by
  have sim := (silently_related settings).simulation rfl
  refine silently_bind (silently_refl d _) fun _ => Related.ite _ (silently_refl d _) ?_
  refine silently_bind (sim.unterminated (silently_refl d inner) ⟨trivial, hsub⟩) fun node => ?_
  refine silently_bind (silently_refl d _) fun ended => ?_
  cases ended with
  | true => exact silently_refl d _
  | false => exact silently_note d bareEnd node

theorem silently_watchedStatement (levels d : Nat) :
    Silently d Node (watchedStatement settings levels) (statement settings levels) := by
  induction levels generalizing d with
  | zero => exact silently_refl d _
  | succ levels ih =>
    exact (silently_related settings).nested (silently_watchedTerminated (ih (d + 1)))

theorem run_watchedProgram (settings : Settings) (levels count : Nat) (s : State) :
    ((watchedProgram settings levels count).run s).1 =
        ((program settings levels count).run s).1 ∧
      ((watchedProgram settings levels count).run s).2.silent =
        ((program settings levels count).run s).2.silent := by
  have related := silently_related settings
  have same : Silently 0 Node (watchedProgram settings levels count)
      (program settings levels count) :=
    related.bind (related.note _) fun _ =>
      related.bind (related.topLevel (silently_watchedStatement levels 0) [] _) fun _ =>
        related.bind (related.note _) fun _ => related.done _
  exact same s s rfl

variable {here : Cursor → Prop} {p : Parser α}

theorem bareAt_bind {f : α → Parser β} :
    (p >>= f).BareAt here s ↔
      p.BareAt here s ∨ ∃ a t, p.run s = (.ok a, t) ∧ (f a).BareAt here t := by
  rw [bind_eq]
  induction p generalizing s with
  | done a =>
    refine ⟨fun made => .inr ⟨a, s, rfl, made⟩, ?_⟩
    rintro (⟨⟨⟩⟩ | ⟨_, _, ⟨⟩, made⟩)
    exact made
  | failed e => simp [Parser.bind, BareAt, run]
  | look next ih => exact ih s.view
  | perform command next ih =>
    refine (or_congr_right ih).trans ?_
    rw [← or_assoc]
    rfl

theorem bareAt_performAll {given : List Command} (silent : .note bareEnd ∉ given) :
    (performAll given p).BareAt here s ↔ p.BareAt here (Command.applyAll given s) := by
  induction given generalizing s with
  | nil => rfl
  | cons command rest ih =>
    rw [List.mem_cons, not_or] at silent
    refine (or_iff_right fun made => silent.1 made.1.symm).trans (ih silent.2)

theorem bareAt_closing {after : List Command} (silent : .note bareEnd ∉ after) :
    (p.closing after).BareAt here s ↔ p.BareAt here s := by
  induction p generalizing s with
  | done a => exact bareAt_performAll silent
  | failed e => exact bareAt_performAll silent
  | look next ih => exact ih s.view
  | perform command next ih => exact or_congr_right ih

theorem bareAt_between {before after : List Command} (opens : .note bareEnd ∉ before)
    (closes : .note bareEnd ∉ after) :
    (between before p after).BareAt here s ↔ p.BareAt here (Command.applyAll before s) := by
  rw [between, bareAt_performAll opens, bareAt_closing closes]

theorem bareAt_settled : p.settled.BareAt here s ↔ p.BareAt here s := by
  induction p generalizing s with
  | done a => rfl
  | failed e =>
    unfold settled
    split <;> simp [BareAt, bareEnd]
  | look next ih => exact ih s.view
  | perform command next ih => exact or_congr_right ih

end DeskScript.Parser
