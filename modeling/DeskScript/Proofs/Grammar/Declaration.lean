import DeskScript.Proofs.Grammar.Expression
import DeskScript.Proofs.Parser.Balance
import DeskScript.Proofs.Scope

/-!
Declarations are those of the grammar. What ties the two together is `Recorded`: the scopes hold
the types that the earlier assignments of the same function have given, and the constructs
around.
-/

namespace DeskScript.Parser

open Grammar

variable {α : Type} {settings : Settings} {inner sub : Parser Node} {s t : State} {bound : Nat}
variable {site : Site}

@[simp] theorem after_nil (site : Site) : site.after [] = site := by
  simp [Site.after]

theorem after_after (site : Site) (first second : List (String × Option String)) :
    (site.after first).after second = site.after (first ++ second) := by
  simp [Site.after]

theorem latestType_concat (earlier : List (String × Option String)) (target name : String)
    (type : Option String) :
    latestType (earlier ++ [(target, type)]) name =
      if name = target then type else latestType earlier name := by
  simp only [latestType, List.reverse_append, List.reverse_singleton, List.singleton_append,
    List.lookup_cons]
  by_cases same : name = target
  · simp [same]
  · simp [same, beq_false_of_ne same]

/-- The scopes hold what the grammar knows of a place. -/
structure Recorded (site : Site) (tracker : Tracker) : Prop where
  contexts : tracker.contexts = site.contexts
  types : ∀ name, tracker.currentTypeOf? name = latestType site.earlier name

namespace Recorded

variable {tracker : Tracker}

theorem initial : Recorded .start .initial :=
  ⟨rfl, fun _ => rfl⟩

theorem declareVariable (recorded : Recorded site tracker) (target : String)
    (type : Option String) :
    Recorded (site.after [(target, type)]) (tracker.declareVariable target type) where
  contexts := (modifyCurrent_contexts _ _).trans recorded.contexts
  types name := by
    rw [Tracker.currentTypeOf?_declareVariable, Site.after, latestType_concat, recorded.types]

theorem declareFunction (recorded : Recorded site tracker) (name : String)
    (parameters : List String) : Recorded site (tracker.declareFunction name parameters) where
  contexts := (modifyCurrent_contexts _ _).trans recorded.contexts
  types _ := by rw [Tracker.currentTypeOf?_declareFunction, recorded.types]

theorem push (recorded : Recorded site tracker) : Recorded site.inLoop (tracker.push .loop) where
  contexts := congrArg _ recorded.contexts
  types := recorded.types

theorem pop {made : List (String × Option String)}
    (recorded : Recorded (site.inLoop.after made) tracker) :
    Recorded (site.after made) (tracker.pop .loop).2 where
  contexts := by rw [pop_of_top recorded.contexts]; rfl
  types name := by rw [Tracker.currentTypeOf?_pop, recorded.types]; rfl

end Recorded

theorem currentTypeOf?_declareParameters (parameters : List String) {s : State}
    (untyped : ∀ name, s.scopes.currentTypeOf? name = none) (name : String) :
    (Command.applyAll (parameters.map fun parameter =>
      .scope (.declareVariable parameter none)) s).scopes.currentTypeOf? name = none := by
  induction parameters generalizing s with
  | nil => exact untyped name
  | cons parameter others ih =>
    refine ih fun name => ?_
    change (s.scopes.declareVariable parameter none).currentTypeOf? name = none
    rw [Tracker.currentTypeOf?_declareVariable, untyped, ite_self]

theorem Recorded.enterFunction (recorded : Recorded site s.scopes) (parameters : List String) :
    Recorded site.inFunction (Command.applyAll (enterFunction parameters) s).scopes := by
  simp only [Parser.enterFunction, List.cons_append, applyAll_cons, applyAll_append, applyAll_nil]
  have declared := declareParameters_restored parameters ((Command.scope .enter).apply s)
  refine ⟨congrArg _ (declared.contexts.trans recorded.contexts), fun name => ?_⟩
  exact currentTypeOf?_declareParameters parameters (fun _ => rfl) name

theorem run_inFunction_scopes {p : Parser α} (hp : ∀ s, Balanced (p.commands s))
    (parameters : List String) (s : State) :
    ((between (enterFunction parameters) p leaveFunction).run s).2.scopes = s.scopes := by
  rw [run_state, commands_between]
  exact between_function_scopes parameters (hp _).restored s

theorem typeHint_eq_ok {name : String} (h : typeHint.run s = (.ok name, t)) :
    (s.cursor.current.kind = .identifier ∨ s.cursor.current.kind = .keyword) ∧
      name = Text.upper s.cursor.current.text ∧ name ∈ typeNames ∧ t = s.advance := by
  rw [typeHint, run_bind_of_ok (run_current s)] at h
  split at h
  next word =>
    rw [run_bind_of_ok (run_advance s)] at h
    dsimp only at h
    split at h
    next known =>
      obtain ⟨rfl, rfl⟩ := run_pure_eq_ok.1 h
      exact ⟨word, rfl, by simpa using known, rfl⟩
    next => simp at h
  next => simp at h

theorem stated_annotation {name : String} (colon : s.cursor.current.isOperator ":" = true)
    (h : typeHint.run s.advance = (.ok name, t)) :
    ∃ tokens, s.cursor.Reads tokens t.cursor ∧ Annotation tokens (some name) ∧
      t.scopes = s.scopes := by
  obtain ⟨word, rfl, known, rfl⟩ := typeHint_eq_ok h
  have named : s.advance.cursor.current.isEof = false := by
    rcases word with kind | kind <;> exact Token.not_eof_of_kind kind (by decide)
  exact ⟨[s.cursor.current] ++ [s.advance.cursor.current],
    (Cursor.reads_operator colon).trans (Cursor.advance_reads named),
    .stated colon word known, rfl⟩

theorem annotation?_sound :
    Sound bound annotation? fun tokens _ type => Annotation tokens type := by
  intro s type t _ h
  rw [annotation?, run_ifOperator] at h
  split at h
  next colon =>
    simp only [run_bind_eq_ok, run_pure, Prod.mk.injEq, Except.ok.injEq] at h
    obtain ⟨name, _, hname, rfl, rfl⟩ := h
    exact stated_annotation colon hname
  next =>
    obtain ⟨rfl, rfl⟩ := run_pure_eq_ok.1 h
    exact ⟨[], .refl _, .missing, rfl⟩

theorem lateAnnotation?_sound {target : String} {early : Option String} :
    Sound bound (lateAnnotation? target early) fun tokens _ type =>
      ∃ late, Annotation tokens late ∧ (early = none ∨ late = none) ∧ type = late.or early := by
  intro s type t _ h
  rw [lateAnnotation?, run_ifOperator] at h
  split at h
  next colon =>
    split at h
    next => simp [run_bind] at h
    next first =>
      simp only [run_bind_eq_ok, run_pure, Prod.mk.injEq, Except.ok.injEq] at h
      obtain ⟨name, _, hname, rfl, rfl⟩ := h
      obtain ⟨tokens, reads, annotation, scopes⟩ := stated_annotation colon hname
      exact ⟨tokens, reads, ⟨_, annotation, .inl (by simpa using first), rfl⟩, scopes⟩
  next =>
    obtain ⟨rfl, rfl⟩ := run_pure_eq_ok.1 h
    exact ⟨[], .refl _, ⟨none, .missing, .inr rfl, rfl⟩, rfl⟩

theorem declare_eq_ok {target : String} {value node : Node} {type : Option String} {line : Nat}
    (h : (declare target value type line).run s = (.ok node, t)) :
    node = .assignment target value type ∧
      (∀ expected, type = some expected → fits expected value = true) ∧ t.cursor = s.cursor ∧
      t.scopes = s.scopes.declareVariable target type := by
  unfold declare at h
  split at h
  next => simp at h
  next fitting =>
    simp only [run_bind_eq_ok, run_note, run_change, run_pure, Prod.mk.injEq, Except.ok.injEq] at h
    obtain ⟨_, _, ⟨-, rfl⟩, _, _, ⟨-, rfl⟩, rfl, rfl⟩ := h
    refine ⟨rfl, fun expected stated => ?_, rfl, rfl⟩
    simpa [stated, Option.filter_some] using fitting

abbrev Makes (site : Site) (s t : State) (phrase : Phrase)
    (made : List (String × Option String)) : Prop :=
  ∃ tokens, s.cursor.Reads tokens t.cursor ∧
    Phrase.Derives site tokens t.cursor.current phrase ∧ Recorded (site.after made) t.scopes

theorem assignment_derived (hinner : ReadsExpression bound 1 inner) {node : Node}
    (h : (assignment inner).run s = (.ok node, t))
    (word : s.cursor.current.isKeyword "SET" = true)
    (enough : s.cursor.remaining.length ≤ bound) (recorded : Recorded site s.scopes) :
    Makes site s t (.simple node) node.assignments := by
  simp only [assignment, run_bind_eq_ok, run_current, run_advance, run_expectIdentifier_eq_ok,
    run_expectOperator_eq_ok, run_scopes, Prod.mk.injEq, Except.ok.injEq] at h
  obtain ⟨_, _, ⟨rfl, rfl⟩, _, _, ⟨-, rfl⟩, _, _, ⟨identifier, rfl, rfl⟩, early, u, hearly, _, _,
    ⟨equals, rfl⟩, value, v, hvalue, stated, w, hlate, _, _, ⟨rfl, rfl⟩, hdeclare⟩ := h
  have passed := (Cursor.reads_keyword word).trans
    (Cursor.reads_identifier identifier)
  obtain ⟨before, readsBefore, annotation, scopesBefore⟩ :=
    annotation?_sound _ _ _ (Nat.le_refl _) hearly
  have assigned := Cursor.reads_operator equals
  have reads := passed.trans (readsBefore.trans assigned)
  obtain ⟨tokens, readsValue, ⟨derives, -⟩, scopesValue⟩ :=
    hinner u.advance value v (reads.within enough) hvalue
  obtain ⟨after, readsAfter, ⟨late, annotation', once, rfl⟩, scopesAfter⟩ :=
    lateAnnotation?_sound _ _ _ (Nat.le_refl _) hlate
  obtain ⟨rfl, fitting, cursor, scopes⟩ := declare_eq_ok hdeclare
  -- no expression changes the scopes, so the type is looked up where the statement began
  have unchanged : w.scopes = s.scopes :=
    scopesAfter.trans (scopesValue.trans scopesBefore)
  rw [unchanged, recorded.types] at fitting scopes
  rw [Makes, cursor, scopes, unchanged, recorded.types]
  refine ⟨_, reads.trans (readsValue.trans readsAfter), ?_, recorded.declareVariable _ _⟩
  rw [readsAfter.current] at derives
  have derived : Phrase.Derives site _ w.cursor.current _ :=
    .assignment word identifier annotation equals derives annotation' once rfl fitting
  simpa using derived

theorem parameters_sound {function : String} {seen all : List String} {rounds : Nat}
    (enough : s.cursor.remaining.length ≤ rounds)
    (h : (parameters function seen rounds).run s = (.ok all, t)) :
    ∃ tokens names, all = seen ++ names ∧ s.cursor.Reads tokens t.cursor ∧
      Parameters tokens names ∧ (seen.Nodup → all.Nodup) ∧ t.scopes = s.scopes := by
  induction rounds generalizing s seen with
  | zero => exact absurd enough (by simp [Cursor.remaining])
  | succ rounds ih =>
    simp only [parameters, run_bind_eq_ok, run_expectIdentifier_eq_ok] at h
    obtain ⟨_, _, ⟨identifier, rfl, rfl⟩, h⟩ := h
    have passed := Cursor.reads_identifier identifier
    split at h
    next => simp [run_bind] at h
    next fresh =>
      -- what has been read stays without repetition, since the new name was looked for in it
      have distinct (nodup : seen.Nodup) : (seen ++ [s.cursor.current.text]).Nodup := by
        simpa [List.nodup_append, nodup] using fun a mem same => fresh (by simpa [← same] using mem)
      rw [run_ifOperator] at h
      split at h
      next comma =>
        have passed' := passed.trans (Cursor.reads_operator comma)
        have shorter := passed'.length
        rw [List.length_append, List.length_singleton, List.length_singleton] at shorter
        have fewer : s.cursor.advance.advance.remaining.length ≤ rounds := by omega
        obtain ⟨rest, names, rfl, reads, derives, nodup, scopes⟩ := ih fewer h
        exact ⟨_, s.cursor.current.text :: names, by simp, passed'.trans reads,
          .more identifier comma derives, fun h => nodup (distinct h), scopes⟩
      next =>
        obtain ⟨rfl, rfl⟩ := run_pure_eq_ok.1 h
        exact ⟨_, [_], rfl, passed, .one identifier, distinct, rfl⟩

theorem parameterList_sound {function : String} :
    Sound settings.bound (parameterList settings function) fun tokens _ names =>
      ((tokens = [] ∧ names = []) ∨ Parameters tokens names) ∧ names.Nodup := by
  intro s names t enough h
  rw [parameterList, run_bind_of_ok (run_current s)] at h
  split at h
  next =>
    obtain ⟨rfl, rfl⟩ := run_pure_eq_ok.1 h
    exact ⟨[], .refl _, ⟨.inl ⟨rfl, rfl⟩, .nil⟩, rfl⟩
  next =>
    obtain ⟨tokens, names, rfl, reads, derives, nodup, scopes⟩ := parameters_sound enough h
    exact ⟨tokens, reads, ⟨.inr derives, nodup .nil⟩, scopes⟩

end DeskScript.Parser
