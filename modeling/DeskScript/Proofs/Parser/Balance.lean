import DeskScript.Proofs.Parser.Closed

/-!
What a parser opens it closes, whether it succeeds or fails. The commands of every run form a
balanced sequence: levels, loops and functions open and close in pairs, one inside the other.
A balanced sequence restores the nesting depth, the enclosing constructs and all scopes but the
innermost one, and each construct that is forgotten in it is the one that was noted last.
-/

namespace DeskScript.Parser

def Command.Plain : Command → Prop
  | .advance | .note _ | .scope (.declareVariable ..) | .scope (.declareFunction ..) => True
  | .deepen | .rise | .scope _ => False

/-- Commands in which everything that opens is closed, the last opened first. -/
inductive Balanced : List Command → Prop where
  | nil : Balanced []
  | plain {command : Command} : command.Plain → Balanced [command]
  | append {first second : List Command} :
    Balanced first → Balanced second → Balanced (first ++ second)
  | level {inside : List Command} : Balanced inside → Balanced ([.deepen] ++ inside ++ [.rise])
  | loop {inside : List Command} :
    Balanced inside → Balanced ([.scope (.push .loop)] ++ inside ++ [.scope (.pop .loop)])
  | function {inside : List Command} (parameters : List String) :
    Balanced inside → Balanced (enterFunction parameters ++ inside ++ leaveFunction)

/-- What a run that closes all it opens leaves as it was. -/
structure Restored (s t : State) : Prop where
  depth : t.depth = s.depth
  contexts : t.scopes.contexts = s.scopes.contexts
  openScopes : t.scopes.depth = s.scopes.depth
  outer : t.scopes.outer = s.scopes.outer

theorem Restored.refl (s : State) : Restored s s :=
  ⟨rfl, rfl, rfl, rfl⟩

theorem Restored.trans {s t u : State} (first : Restored s t) (second : Restored t u) :
    Restored s u :=
  ⟨second.depth.trans first.depth, second.contexts.trans first.contexts,
    second.openScopes.trans first.openScopes, second.outer.trans first.outer⟩

theorem modifyCurrent_outer (tracker : Tracker) (f : Scope → Scope) :
    (tracker.modifyCurrent f).outer = tracker.outer := by
  unfold Tracker.modifyCurrent
  split <;> simp [Tracker.outer, Tracker.chain, *]

theorem modifyCurrent_depth (tracker : Tracker) (f : Scope → Scope) :
    (tracker.modifyCurrent f).depth = tracker.depth := by
  unfold Tracker.modifyCurrent
  split <;> simp [Tracker.depth, *]

theorem modifyCurrent_contexts (tracker : Tracker) (f : Scope → Scope) :
    (tracker.modifyCurrent f).contexts = tracker.contexts := by
  unfold Tracker.modifyCurrent
  split <;> rfl

theorem Command.Plain.restored {command : Command} (plain : command.Plain) (s : State) :
    Restored s (command.apply s) := by
  unfold Command.Plain at plain
  split at plain
  · exact ⟨rfl, rfl, rfl, rfl⟩
  · exact ⟨rfl, rfl, rfl, rfl⟩
  · exact ⟨rfl, modifyCurrent_contexts _ _, modifyCurrent_depth _ _, modifyCurrent_outer _ _⟩
  · exact ⟨rfl, modifyCurrent_contexts _ _, modifyCurrent_depth _ _, modifyCurrent_outer _ _⟩
  all_goals exact plain.elim

theorem declareParameters_restored (parameters : List String) (s : State) :
    Restored s (Command.applyAll
      (parameters.map fun parameter => .scope (.declareVariable parameter none)) s) := by
  induction parameters generalizing s with
  | nil => exact Restored.refl s
  | cons parameter others ih =>
    have plain : (Command.scope (.declareVariable parameter none)).Plain := trivial
    exact (plain.restored s).trans (ih _)

theorem pop_of_top {tracker : Tracker} {context : Context} {rest : List Context}
    (top : tracker.contexts = context :: rest) :
    tracker.pop context = (some context, { tracker with contexts := rest }) := by
  simp only [Tracker.pop, top, if_true]

theorem exit_of_outer {tracker inner : Tracker} (depth : inner.depth = tracker.depth + 1)
    (outer : inner.outer = tracker.chain) :
    inner.exit = (true, { tracker with contexts := inner.contexts }) := by
  obtain ⟨global, nested, contexts⟩ := inner
  cases nested with
  | nil => simp [Tracker.depth] at depth
  | cons head rest =>
    obtain ⟨hnested, hglobal⟩ := List.append_inj' outer rfl
    simp only [List.cons.injEq, and_true] at hglobal
    simp only [Tracker.exit, hnested, hglobal]

theorem between_loop_restored {inside : List Command}
    (ih : ∀ s, Restored s (Command.applyAll inside s)) (s : State) :
    Restored s (Command.applyAll
      ([.scope (.push .loop)] ++ inside ++ [.scope (.pop .loop)]) s) := by
  simp only [applyAll_append, applyAll_cons, applyAll_nil]
  have body := ih ((Command.scope (.push .loop)).apply s)
  generalize Command.applyAll inside ((Command.scope (.push .loop)).apply s) = t at body ⊢
  have popped : t.scopes.pop .loop = _ := pop_of_top body.contexts
  simp only [Command.apply, Tracker.Change.apply, popped]
  exact ⟨body.depth, rfl, body.openScopes, body.outer⟩

theorem between_function_scopes (parameters : List String) {inside : List Command}
    (ih : ∀ s, Restored s (Command.applyAll inside s)) (s : State) :
    (Command.applyAll (enterFunction parameters ++ inside ++ leaveFunction) s).scopes =
      s.scopes := by
  simp only [enterFunction, leaveFunction, List.cons_append, List.append_assoc, applyAll_cons,
    applyAll_append, applyAll_nil]
  have declared := declareParameters_restored parameters ((Command.scope .enter).apply s)
  generalize Command.applyAll (parameters.map _) ((Command.scope .enter).apply s) = t at declared ⊢
  have body := ih ((Command.scope (.push .function)).apply t)
  generalize Command.applyAll inside ((Command.scope (.push .function)).apply t) = u at body ⊢
  have popped : u.scopes.pop .function = _ := pop_of_top body.contexts
  -- what is left is the scope of the function, so that those around it come back
  have left : Tracker.exit ⟨u.scopes.global, u.scopes.nested, t.scopes.contexts⟩ =
      (true, ⟨s.scopes.global, s.scopes.nested, t.scopes.contexts⟩) :=
    exit_of_outer (body.openScopes.trans declared.openScopes) (body.outer.trans declared.outer)
  simp only [Command.apply, Tracker.Change.apply, popped, left]
  exact congrArg (Tracker.mk s.scopes.global s.scopes.nested) declared.contexts

theorem between_function_depth (parameters : List String) {inside : List Command}
    (ih : ∀ s, Restored s (Command.applyAll inside s)) (s : State) :
    (Command.applyAll (enterFunction parameters ++ inside ++ leaveFunction) s).depth =
      s.depth := by
  simp only [enterFunction, leaveFunction, List.cons_append, List.append_assoc, applyAll_cons,
    applyAll_append, applyAll_nil]
  exact (ih _).depth.trans (declareParameters_restored parameters _).depth

theorem Balanced.restored {given : List Command} (balanced : Balanced given) (s : State) :
    Restored s (Command.applyAll given s) := by
  induction balanced generalizing s with
  | nil => exact Restored.refl s
  | plain plain => exact plain.restored s
  | append _ _ first second =>
    rw [applyAll_append]
    exact (first s).trans (second _)
  | level _ ih =>
    simp only [applyAll_append, applyAll_cons, applyAll_nil]
    have body := ih (Command.deepen.apply s)
    exact ⟨congrArg (· - 1) body.depth, body.contexts, body.openScopes, body.outer⟩
  | loop _ ih => exact between_loop_restored ih s
  | function parameters _ ih =>
    have same := between_function_scopes parameters ih s
    exact ⟨between_function_depth parameters ih s, congrArg _ same, congrArg _ same,
      congrArg _ same⟩

theorem split_append {α : Type} {first second before after : List α} {a : α}
    (split : first ++ second = before ++ a :: after) :
    (∃ rest, first = before ++ a :: rest) ∨
      ∃ middle, before = first ++ middle ∧ second = middle ++ a :: after := by
  obtain ⟨middle, hbefore, hsecond⟩ | ⟨middle, hfirst, hafter⟩ :=
    List.append_eq_append_iff.1 split
  · exact .inr ⟨middle, hbefore, hsecond⟩
  · cases middle with
    | nil => exact .inr ⟨[], by simpa using hfirst.symm, by simpa using hafter.symm⟩
    | cons b rest =>
      obtain ⟨rfl, -⟩ := List.cons.inj hafter
      exact .inl ⟨rest, hfirst⟩

theorem split_between {α : Type} {opening inside closing before after : List α} {a : α}
    (split : opening ++ inside ++ closing = before ++ a :: after) (unopened : a ∉ opening) :
    (∃ middle rest, before = opening ++ middle ∧ inside = middle ++ a :: rest) ∨
      ∃ middle, before = opening ++ inside ++ middle ∧ closing = middle ++ a :: after := by
  rcases split_append split with ⟨rest, hopened⟩ | hclosing
  · rcases split_append hopened with ⟨rest', hopening⟩ | ⟨middle, hbefore, hinside⟩
    · exact absurd (by simp [hopening]) unopened
    · exact .inl ⟨middle, rest, hbefore, hinside⟩
  · exact .inr hclosing

theorem pop_notMem_enterFunction (parameters : List String) (context : Context) :
    Command.scope (.pop context) ∉ enterFunction parameters := by
  simp [enterFunction]

def Pending (context : Context) (given : List Command) : Prop :=
  ∃ earlier inside, given = earlier ++ .scope (.push context) :: inside ∧ Balanced inside

theorem Pending.prepend {context : Context} {given : List Command} (opening : List Command)
    (pending : Pending context given) : Pending context (opening ++ given) := by
  obtain ⟨earlier, inside, rfl, balanced⟩ := pending
  exact ⟨opening ++ earlier, inside, (List.append_assoc ..).symm, balanced⟩

theorem Balanced.pending_of_pop {given before after : List Command} {context : Context}
    (balanced : Balanced given) (split : given = before ++ .scope (.pop context) :: after) :
    Pending context before := by
  -- the command stands inside one of the parts, or it is the one that closes
  induction balanced generalizing before after with
  | nil => simp at split
  | @plain command plain =>
    obtain rfl : command = .scope (.pop context) := by
      simp_all [List.singleton_eq_append_iff]
    exact plain.elim
  | append _ _ first second =>
    rcases split_append split with ⟨rest, hfirst⟩ | ⟨middle, rfl, hsecond⟩
    · exact first hfirst
    · exact (second hsecond).prepend _
  | level _ ih =>
    rcases split_between split (by simp) with ⟨middle, rest, rfl, hmiddle⟩ | ⟨middle, -, hclosing⟩
    · exact (ih hmiddle).prepend _
    · simp [List.singleton_eq_append_iff] at hclosing
  | @loop body hbody ih =>
    rcases split_between split (by simp) with ⟨middle, rest, rfl, hmiddle⟩ | ⟨middle, rfl, hclosing⟩
    · exact (ih hmiddle).prepend _
    · obtain ⟨rfl, h⟩ : middle = [] ∧ context = .loop := by
        simp_all [List.singleton_eq_append_iff]
      exact ⟨[], body, by simp [h], hbody⟩
  | @function body parameters hbody ih =>
    rcases split_between split (pop_notMem_enterFunction parameters context) with
      ⟨middle, rest, rfl, hmiddle⟩ | ⟨middle, rfl, hclosing⟩
    · exact (ih hmiddle).prepend _
    · obtain ⟨rfl, h⟩ : middle = [] ∧ context = .function := by
        cases middle with
        | nil => simp_all [leaveFunction]
        | cons head rest => simp [leaveFunction, List.singleton_eq_append_iff] at hclosing
      refine ⟨.scope .enter :: parameters.map fun parameter =>
        .scope (.declareVariable parameter none), body, ?_, hbody⟩
      simp [enterFunction, h]

/-- Every construct that a run forgets is the one that was noted last. -/
def PopsOwn {α : Type} (p : Parser α) (s : State) : Prop :=
  ∀ before context, before ++ [.scope (.pop context)] <+: p.commands s →
    ∃ earlier inside, before = earlier ++ .scope (.push context) :: inside ∧ Balanced inside ∧
      (Command.applyAll before s).scopes.contexts =
        context :: (Command.applyAll earlier s).scopes.contexts

theorem Balanced.popsOwn {α : Type} {p : Parser α} {s : State}
    (balanced : Balanced (p.commands s)) : PopsOwn p s := by
  rintro before context ⟨after, given⟩
  rw [List.append_assoc, List.singleton_append] at given
  obtain ⟨earlier, inside, rfl, hinside⟩ := balanced.pending_of_pop given.symm
  refine ⟨earlier, inside, rfl, hinside, ?_⟩
  rw [applyAll_append, applyAll_cons]
  exact (hinside.restored _).contexts

theorem settled_balanced {α : Type} {p : Parser α} (hp : ∀ s, Balanced (p.commands s))
    (s : State) : Balanced (p.settled.commands s) := by
  rw [commands_settled]
  refine (hp s).append ?_
  split
  · exact .nil
  · split
    · exact .plain trivial
    · exact .nil

theorem closed_balanced (settings : Settings) :
    Closed settings fun _ p => ∀ s, Balanced (p.commands s) where
  done _ _ := .nil
  failed _ _ := .nil
  look h s := h s.view s
  bind hp hf s := by
    rw [commands_bind]
    refine (hp s).append ?_
    split
    · exact hf _ _
    · exact .nil
  advance _ := .plain trivial
  note _ _ := .plain trivial
  declareVariable _ _ _ := .plain trivial
  declareFunction _ _ _ := .plain trivial
  inLoop hp s := by
    rw [commands_between]
    exact (hp _).loop
  inFunction parameters hp s := by
    rw [commands_between]
    exact (hp _).function parameters
  nested hp s := by
    rw [commands_nested]
    split
    · exact .nil
    · exact (hp _).level
  settled hp s := settled_balanced hp s

theorem expression_balanced (settings : Settings) (levels least : Nat) (s : State) :
    Balanced ((expression settings levels least).commands s) :=
  (closed_balanced settings).expression levels least s

theorem statement_balanced (settings : Settings) (levels : Nat) (s : State) :
    Balanced ((statement settings levels).commands s) :=
  (closed_balanced settings).statement levels s

theorem program_balanced (settings : Settings) (levels count : Nat) (s : State) :
    Balanced ((program settings levels count).commands s) :=
  (closed_balanced settings).program levels count s

theorem restored_of_balanced {α : Type} {p : Parser α} {s : State}
    (balanced : Balanced (p.commands s)) : Restored s (p.run s).2 := by
  rw [run_state]
  exact balanced.restored s

/--
Whether it succeeds or fails, reading a statement or an expression leaves the nesting depth, the
enclosing constructs, the number of open scopes and all scopes but the innermost one as they
were, and every construct that it forgets is the one that was noted last. So after a whole
program only the global scope is open and no construct encloses anything.
-/
theorem scopes_restored :
    (∀ (settings : Settings) (levels : Nat) (s : State),
      Restored s ((statement settings levels).run s).2 ∧
        PopsOwn (statement settings levels) s) ∧
    (∀ (settings : Settings) (levels least : Nat) (s : State),
      Restored s ((expression settings levels least).run s).2 ∧
        PopsOwn (expression settings levels least) s) ∧
    ∀ (options : Options) (tokens : List Token),
      (parse options tokens).scopes.depth = 0 ∧
        (parse options tokens).scopes.contextDepth = 0 := by
  refine ⟨fun settings levels s => ?_, fun settings levels least s => ?_,
    fun options tokens => ?_⟩
  · have balanced := statement_balanced settings levels s
    exact ⟨restored_of_balanced balanced, balanced.popsOwn⟩
  · have balanced := expression_balanced settings levels least s
    exact ⟨restored_of_balanced balanced, balanced.popsOwn⟩
  · have restored := restored_of_balanced (program_balanced
      (settingsFor defaultLimit options tokens) defaultLimit (Cursor.complete tokens).length
      (start .initial tokens))
    exact ⟨restored.openScopes, congrArg List.length restored.contexts⟩

end DeskScript.Parser
