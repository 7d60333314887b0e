import DeskScript.Parser.Program

/-!
Runs of parsers. The commands of a run determine the states it passes through, and both go by
the parser's parts: what a sequence of two parsers does is what the first does and then, if it
succeeds, what the second does. Main statements: `run_bind` and `commands_bind`.
-/

namespace DeskScript.Parser

variable {α β : Type} {p : Parser α} {s t u : State}

def commands : Parser α → State → List Command
  | .done _, _ => []
  | .failed _, _ => []
  | .look next, s => (next s.view).commands s
  | .perform command next, s => command :: next.commands (command.apply s)

/-- A run from `s` passes through `t`. -/
def Visits (p : Parser α) (s t : State) : Prop :=
  ∃ given, given <+: p.commands s ∧ t = Command.applyAll given s

def State.advance (s : State) : State :=
  { s with cursor := s.cursor.advance }

@[simp] theorem State.advance_cursor (s : State) : s.advance.cursor = s.cursor.advance := rfl

@[simp] theorem State.advance_scopes (s : State) : s.advance.scopes = s.scopes := rfl

@[simp] theorem applyAll_nil (s : State) : Command.applyAll [] s = s := rfl

@[simp] theorem applyAll_cons (command : Command) (rest : List Command) (s : State) :
    Command.applyAll (command :: rest) s = Command.applyAll rest (command.apply s) := rfl

@[simp] theorem applyAll_append (first second : List Command) (s : State) :
    Command.applyAll (first ++ second) s =
      Command.applyAll second (Command.applyAll first s) :=
  List.foldl_append

theorem run_state (p : Parser α) (s : State) :
    (p.run s).2 = Command.applyAll (p.commands s) s := by
  induction p generalizing s with
  | done a => rfl
  | failed d => rfl
  | look next ih => exact ih s.view s
  | perform command next ih => exact ih (command.apply s)

theorem bind_eq (p : Parser α) (f : α → Parser β) : (p >>= f) = p.bind f := rfl

theorem run_bind (p : Parser α) (f : α → Parser β) (s : State) :
    (p >>= f).run s =
      match p.run s with
      | (.ok a, t) => (f a).run t
      | (.error d, t) => (.error d, t) := by
  rw [bind_eq]
  induction p generalizing s with
  | done a => rfl
  | failed d => rfl
  | look next ih => exact ih s.view s
  | perform command next ih => exact ih (command.apply s)

theorem commands_bind (p : Parser α) (f : α → Parser β) (s : State) :
    (p >>= f).commands s =
      p.commands s ++
        match p.run s with
        | (.ok a, t) => (f a).commands t
        | (.error _, _) => [] := by
  rw [bind_eq]
  induction p generalizing s with
  | done a => rfl
  | failed d => rfl
  | look next ih => exact ih s.view s
  | perform command next ih => exact congrArg (command :: ·) (ih (command.apply s))

theorem run_bind_of_ok {f : α → Parser β} {a : α} (h : p.run s = (.ok a, t)) :
    (p >>= f).run s = (f a).run t := by
  rw [run_bind, h]

theorem run_bind_eq_ok {f : α → Parser β} {b : β} :
    (p >>= f).run s = (.ok b, u) ↔
      ∃ a t, p.run s = (.ok a, t) ∧ (f a).run t = (.ok b, u) := by
  rw [run_bind]
  constructor
  · intro h
    split at h
    next a t hp => exact ⟨a, t, hp, h⟩
    · simp at h
  · rintro ⟨a, t, hp, hf⟩
    rw [hp]
    exact hf

@[simp] theorem run_pure (a : α) (s : State) : (pure a : Parser α).run s = (.ok a, s) := rfl

theorem run_pure_eq_ok {a b : α} :
    (pure a : Parser α).run s = (.ok b, t) ↔ a = b ∧ s = t := by
  rw [run_pure, Prod.mk.injEq, Except.ok.injEq]

@[simp] theorem run_current (s : State) : current.run s = (.ok s.cursor.current, s) := rfl

@[simp] theorem run_next? (s : State) : next?.run s = (.ok s.cursor.next?, s) := rfl

@[simp] theorem run_previousLine (s : State) :
    previousLine.run s = (.ok s.cursor.previous.line, s) := rfl

@[simp] theorem run_depth (s : State) : depth.run s = (.ok s.depth, s) := rfl

@[simp] theorem run_scopes (s : State) : scopes.run s = (.ok s.scopes, s) := rfl

@[simp] theorem run_advance (s : State) : advance.run s = (.ok (), s.advance) := rfl

@[simp] theorem run_change (change : Tracker.Change) (s : State) :
    (Parser.change change).run s = (.ok (), { s with scopes := change.apply s.scopes }) := rfl

@[simp] theorem run_note (event : Journal.Event) (s : State) :
    (note event).run s = (.ok (), { s with journal := event :: s.journal }) := rfl

@[simp] theorem run_fail (cause : Diagnostic.Cause) (line : Nat) (s : State) :
    (fail cause line : Parser α).run s = (.error ⟨cause, line⟩, s) := rfl

@[simp] theorem run_unexpected (what : Expectation) (s : State) :
    (unexpected what : Parser α).run s =
      (.error ⟨.expected what s.cursor.current.kind s.cursor.current.text,
        s.cursor.current.line⟩, s) := rfl

@[simp] theorem run_tooDeep (settings : Settings) (s : State) :
    (tooDeep settings : Parser α).run s =
      (.error ⟨.tooDeep settings.limit, s.cursor.current.line⟩, s) := rfl

theorem run_performAll (given : List Command) (p : Parser α) (s : State) :
    (performAll given p).run s = p.run (Command.applyAll given s) := by
  induction given generalizing s with
  | nil => rfl
  | cons command rest ih => exact ih (command.apply s)

theorem commands_performAll (given : List Command) (p : Parser α) (s : State) :
    (performAll given p).commands s = given ++ p.commands (Command.applyAll given s) := by
  induction given generalizing s with
  | nil => rfl
  | cons command rest ih => exact congrArg (command :: ·) (ih (command.apply s))

theorem run_closing (p : Parser α) (after : List Command) (s : State) :
    (p.closing after).run s = ((p.run s).1, Command.applyAll after (p.run s).2) := by
  induction p generalizing s with
  | done a => exact run_performAll after _ s
  | failed d => exact run_performAll after _ s
  | look next ih => exact ih s.view s
  | perform command next ih => exact ih (command.apply s)

theorem commands_closing (p : Parser α) (after : List Command) (s : State) :
    (p.closing after).commands s = p.commands s ++ after := by
  induction p generalizing s with
  | done a => exact (commands_performAll after _ s).trans (List.append_nil after)
  | failed d => exact (commands_performAll after _ s).trans (List.append_nil after)
  | look next ih => exact ih s.view s
  | perform command next ih => exact congrArg (command :: ·) (ih (command.apply s))

theorem run_between (before after : List Command) (p : Parser α) (s : State) :
    (between before p after).run s =
      ((p.run (Command.applyAll before s)).1,
        Command.applyAll after (p.run (Command.applyAll before s)).2) := by
  rw [between, run_performAll, run_closing]

theorem run_between_eq_ok {before after : List Command} {a : α} :
    (between before p after).run s = (.ok a, t) ↔
      ∃ u, p.run (Command.applyAll before s) = (.ok a, u) ∧ Command.applyAll after u = t := by
  rw [run_between, Prod.mk.injEq]
  constructor
  · rintro ⟨ran, left⟩
    exact ⟨_, Prod.ext ran rfl, left⟩
  · rintro ⟨u, ran, left⟩
    rw [ran]
    exact ⟨rfl, left⟩

theorem commands_between (before after : List Command) (p : Parser α) (s : State) :
    (between before p after).commands s =
      before ++ p.commands (Command.applyAll before s) ++ after := by
  rw [between, commands_performAll, commands_closing, List.append_assoc]

theorem applyAll_of_scope {given : List Command}
    (still : ∀ command ∈ given, ∃ change, command = .scope change) (s : State) :
    ∃ tracker, Command.applyAll given s = { s with scopes := tracker } := by
  induction given generalizing s with
  | nil => exact ⟨s.scopes, rfl⟩
  | cons command rest ih =>
    obtain ⟨⟨change, rfl⟩, others⟩ := List.forall_mem_cons.1 still
    exact ih others _

theorem enterFunction_scope (parameters : List String) :
    ∀ command ∈ enterFunction parameters, ∃ change, command = .scope change := by
  intro command mem
  simp only [enterFunction, List.cons_append, List.mem_cons, List.mem_append, List.mem_map,
    List.not_mem_nil, or_false] at mem
  obtain rfl | ⟨_, -, rfl⟩ | rfl := mem <;> exact ⟨_, rfl⟩

theorem advance_not_mem_enterFunction (parameters : List String) :
    Command.advance ∉ enterFunction parameters := by
  intro mem
  obtain ⟨change, same⟩ := enterFunction_scope parameters _ mem
  cases same

theorem applyAll_cursor {given : List Command} (still : Command.advance ∉ given) (s : State) :
    (Command.applyAll given s).cursor = s.cursor := by
  induction given generalizing s with
  | nil => rfl
  | cons command rest ih =>
    rw [List.mem_cons, not_or] at still
    rw [applyAll_cons, ih still.2]
    cases command with
    | advance => exact absurd rfl still.1
    | deepen | rise | note _ | scope _ => rfl

theorem enterFunction_eq (parameters : List String) (s : State) :
    ∃ tracker, Command.applyAll (enterFunction parameters) s = { s with scopes := tracker } :=
  applyAll_of_scope (enterFunction_scope parameters) s

theorem run_nested (settings : Settings) (p : Parser α) (s : State) :
    (nested settings p).run s =
      if settings.limit ≤ s.depth then (tooDeep settings : Parser α).run s
      else (between [.deepen] p [.rise]).run s := by
  unfold nested
  rw [run_bind_of_ok (run_depth s)]
  split <;> rfl

theorem run_nested_eq_ok {settings : Settings} {a : α} :
    (nested settings p).run s = (.ok a, t) ↔
      s.depth < settings.limit ∧
        ∃ u, p.run (Command.deepen.apply s) = (.ok a, u) ∧ Command.rise.apply u = t := by
  rw [run_nested]
  split
  next full => simp [Nat.not_lt.2 full]
  next room => simp only [run_between_eq_ok, Nat.lt_of_not_le room, true_and, applyAll_cons,
    applyAll_nil]

theorem commands_nested (settings : Settings) (p : Parser α) (s : State) :
    (nested settings p).commands s =
      if settings.limit ≤ s.depth then []
      else [.deepen] ++ p.commands (Command.deepen.apply s) ++ [.rise] := by
  unfold nested
  rw [commands_bind, run_depth]
  dsimp only
  split
  · rfl
  · exact commands_between _ _ p s

theorem run_settled (p : Parser α) (s : State) :
    p.settled.run s =
      match p.run s with
      | (.ok a, t) => (.ok a, t)
      | (.error d, t) =>
        (.error d.settle,
          if d.isControlFlow then (Command.note (.escaped d.line)).apply t else t) := by
  induction p generalizing s with
  | done a => rfl
  | failed d =>
    unfold settled
    split <;> simp [run, *]
  | look next ih => exact ih s.view s
  | perform command next ih => exact ih (command.apply s)

theorem run_settled_eq_ok {a : α} :
    p.settled.run s = (.ok a, t) ↔ p.run s = (.ok a, t) := by
  rw [run_settled]
  rcases p.run s with ⟨_ | _, u⟩ <;> simp

theorem commands_settled (p : Parser α) (s : State) :
    p.settled.commands s =
      p.commands s ++
        match (p.run s).1 with
        | .ok _ => []
        | .error d => if d.isControlFlow then [.note (.escaped d.line)] else [] := by
  induction p generalizing s with
  | done a => rfl
  | failed d =>
    unfold settled
    split <;> simp [run, commands, *]
  | look next ih => exact ih s.view s
  | perform command next ih => exact congrArg (command :: ·) (ih (command.apply s))

theorem requireVariable_state (settings : Settings) (name : String) (s : State) :
    ((requireVariable settings name).run s).2 = s := by
  rw [requireVariable, run_bind_of_ok (run_scopes s)]
  split <;> rfl

theorem checkCall_state (settings : Settings) (name : String) (given line : Nat) (s : State) :
    ((checkCall settings name given line).run s).2 = s := by
  rw [checkCall, run_bind_of_ok (run_scopes s)]
  repeat' split
  all_goals rfl

end DeskScript.Parser
