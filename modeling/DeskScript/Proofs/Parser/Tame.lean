import DeskScript.Proofs.Parser.Run

/-!
Rules that are told by their text alone to leave the scopes as they are and to fail only because
a script is not one of the language. Expressions are such, and so are the parts of statements
that neither declare nor open anything.
-/

namespace DeskScript

namespace Diagnostic

def Ordinary (d : Diagnostic) : Prop :=
  match d.cause with
  | .misplaced .. | .stated .. => False
  | _ => True

end Diagnostic

namespace Parser

variable {α β : Type} {settings : Settings} {inner : Parser Node} {p q : Parser α} {s t : State}

def Command.Unscoped : Command → Prop
  | .scope _ => False
  | _ => True

/-- No command is about the scopes, and every failure is ordinary. -/
def Tame : Parser α → Prop
  | .done _ => True
  | .failed d => d.Ordinary
  | .look next => ∀ view, Tame (next view)
  | .perform command next => command.Unscoped ∧ Tame next

theorem apply_scopes_of_unscoped {command : Command} (unscoped : command.Unscoped) (s : State) :
    (command.apply s).scopes = s.scopes := by
  cases command with
  | scope change => exact unscoped.elim
  | advance | deepen | rise | note => rfl

theorem Tame.scopes (tame : Tame p) (s : State) : (p.run s).2.scopes = s.scopes := by
  induction p generalizing s with
  | done a => rfl
  | failed d => rfl
  | look next ih => exact ih s.view (tame s.view) s
  | perform command next ih =>
    have after := ih tame.2 (command.apply s)
    exact after.trans (apply_scopes_of_unscoped tame.1 s)

theorem Tame.ordinary {d : Diagnostic} (tame : Tame p) (h : p.run s = (.error d, t)) :
    d.Ordinary := by
  induction p generalizing s with
  | done a => simp [run] at h
  | failed e =>
    obtain ⟨rfl, -⟩ : e = d ∧ s = t := by simpa [run] using h
    exact tame
  | look next ih => exact ih s.view (tame s.view) h
  | perform command next ih => exact ih tame.2 h

theorem Tame.bind {f : α → Parser β} (hp : Tame p) (hf : ∀ a, Tame (f a)) : Tame (p >>= f) := by
  rw [bind_eq]
  induction p with
  | done a => exact hf a
  | failed d => exact hp
  | look next ih => exact fun view => ih view (hp view)
  | perform command next ih => exact ⟨hp.1, ih hp.2⟩

theorem Tame.ite (c : Prop) [Decidable c] (hp : Tame p) (hq : Tame q) :
    Tame (if c then p else q) := by
  split
  · exact hp
  · exact hq

theorem Tame.performAll {given : List Command} (unscoped : ∀ command ∈ given, command.Unscoped)
    (hp : Tame p) : Tame (performAll given p) := by
  induction given with
  | nil => exact hp
  | cons command rest ih =>
    obtain ⟨first, others⟩ := List.forall_mem_cons.1 unscoped
    exact ⟨first, ih others⟩

theorem Tame.closing {after : List Command} (unscoped : ∀ command ∈ after, command.Unscoped)
    (hp : Tame p) : Tame (p.closing after) := by
  induction p with
  | done a => exact Tame.performAll unscoped trivial
  | failed d => exact Tame.performAll unscoped hp
  | look next ih => exact fun view => ih view (hp view)
  | perform command next ih => exact ⟨hp.1, ih hp.2⟩

theorem Tame.nested (hp : Tame p) : Tame (nested settings p) := by
  intro view
  refine Tame.ite _ (fun _ => trivial) ?_
  refine Tame.performAll (by simp [Command.Unscoped]) ?_
  exact Tame.closing (by simp [Command.Unscoped]) hp

theorem tame_pure (a : α) : Tame (pure a) := trivial

theorem tame_current : Tame current := fun _ => trivial

theorem tame_next? : Tame next? := fun _ => trivial

theorem tame_previousLine : Tame previousLine := fun _ => trivial

theorem tame_scopes : Tame scopes := fun _ => trivial

theorem tame_advance : Tame advance := ⟨trivial, trivial⟩

theorem tame_note (event : Journal.Event) : Tame (note event) := ⟨trivial, trivial⟩

theorem tame_unexpected (what : Expectation) : Tame (unexpected what : Parser α) :=
  fun _ => trivial

theorem tame_accept (test : Token → Bool) : Tame (accept test) :=
  tame_current.bind fun _ =>
    Tame.ite _ (tame_advance.bind fun _ => tame_pure true) (tame_pure false)

theorem tame_acceptOperator (sign : String) : Tame (acceptOperator sign) :=
  tame_accept _

theorem tame_acceptKeyword (word : String) : Tame (acceptKeyword word) :=
  tame_accept _

theorem tame_expectOperator (sign : String) (what : Expectation) :
    Tame (expectOperator sign what) :=
  (tame_acceptOperator sign).bind fun _ => Tame.ite _ (tame_pure ()) (tame_unexpected what)

theorem tame_expectKeyword (word : String) (what : Expectation) :
    Tame (expectKeyword word what) :=
  (tame_acceptKeyword word).bind fun _ => Tame.ite _ (tame_pure ()) (tame_unexpected what)

theorem tame_expectIdentifier (what : Expectation) : Tame (expectIdentifier what) :=
  tame_current.bind fun _ =>
    Tame.ite _ (tame_advance.bind fun _ => tame_pure _) (tame_unexpected what)

theorem tame_literal (kind : Token.Kind) (text : String) (line : Nat) :
    Tame (literal kind text line) := by
  unfold literal
  split
  all_goals
    split
    · exact tame_pure _
    · exact trivial

theorem tame_requireVariable (name : String) : Tame (requireVariable settings name) := by
  refine tame_scopes.bind fun _ => Tame.ite _ ?_ (tame_pure ())
  exact tame_previousLine.bind fun _ => trivial

theorem tame_checkCall (name : String) (given line : Nat) :
    Tame (checkCall settings name given line) := by
  refine tame_scopes.bind fun tracker => Tame.ite _ trivial (Tame.ite _ ?_ (tame_pure ()))
  split
  · exact Tame.ite _ (tame_pure ()) trivial
  · exact tame_pure ()

theorem tame_commaList (hinner : Tame p) (read : List α) (rounds : Nat) :
    Tame (commaList p read rounds) := by
  induction rounds generalizing read with
  | zero => exact tame_pure _
  | succ rounds ih =>
    refine hinner.bind fun next => (tame_acceptOperator ",").bind fun _ => ?_
    exact Tame.ite _ (ih _) (tame_pure _)

theorem tame_call (hinner : Tame inner) (name : String) : Tame (call settings inner name) := by
  have given : Tame (arguments settings inner) :=
    tame_current.bind fun _ => Tame.ite _ (tame_pure []) (tame_commaList hinner [] _)
  refine tame_previousLine.bind fun _ => tame_advance.bind fun _ => given.bind fun _ => ?_
  exact (tame_expectOperator _ _).bind fun _ => (tame_checkCall _ _ _).bind fun _ => tame_pure _

theorem tame_updateBefore : Tame (updateBefore settings) := by
  refine tame_current.bind fun _ => tame_advance.bind fun _ => ?_
  exact (tame_expectIdentifier _).bind fun _ =>
    (tame_requireVariable _).bind fun _ => tame_pure _

theorem tame_updateAfter (name : String) (line : Nat) : Tame (updateAfter name line) :=
  tame_current.bind fun _ =>
    Tame.ite _ (tame_advance.bind fun _ => tame_pure _) (tame_pure _)

theorem tame_named (hinner : Tame inner) : Tame (named settings inner) := by
  refine tame_current.bind fun _ => tame_advance.bind fun _ => tame_current.bind fun _ => ?_
  exact Tame.ite _ (tame_call hinner _)
    ((tame_requireVariable _).bind fun _ => tame_updateAfter _ _)

theorem tame_enclosed (hinner : Tame inner) : Tame (enclosed inner) :=
  tame_advance.bind fun _ => hinner.bind fun _ =>
    (tame_expectOperator _ _).bind fun _ => tame_pure _

theorem tame_negated : Tame negated := by
  refine tame_advance.bind fun _ => tame_current.bind fun _ => ?_
  exact Tame.ite _ (tame_advance.bind fun _ => tame_literal _ _ _) (tame_unexpected _)

theorem tame_primary (hinner : Tame inner) : Tame (primary settings inner) := by
  refine tame_current.bind fun token => ?_
  split
  case h_1 | h_2 | h_3 => exact tame_advance.bind fun _ => tame_literal _ _ _
  case h_4 => exact tame_advance.bind fun _ => tame_pure _
  case h_5 =>
    refine Tame.ite _ ?_ (Tame.ite _ ?_ (tame_unexpected _)) <;>
      exact tame_advance.bind fun _ => tame_pure _
  case h_6 => exact tame_named hinner
  case h_7 =>
    refine Tame.ite _ (tame_enclosed hinner) (Tame.ite _ tame_negated ?_)
    exact Tame.ite _ tame_updateBefore (tame_unexpected _)
  case h_8 => exact tame_unexpected _

theorem tame_operators {operand : Nat → Parser Node} (hoperand : ∀ least, Tame (operand least))
    (least rounds : Nat) (left : Node) : Tame (operators operand least rounds left) := by
  induction rounds generalizing left with
  | zero => exact tame_pure left
  | succ rounds ih =>
    refine tame_current.bind fun token => ?_
    split
    · refine Tame.ite _ (tame_pure left) (tame_advance.bind fun _ => ?_)
      exact (hoperand _).bind fun _ => ih _
    · exact tame_pure left

theorem tame_expression (settings : Settings) (levels least : Nat) :
    Tame (expression settings levels least) := by
  induction levels generalizing least with
  | zero => exact fun _ => trivial
  | succ levels ih =>
    refine Tame.nested ((tame_primary (ih 1)).bind fun left => ?_)
    exact tame_operators ih least _ left

theorem tame_typeHint : Tame typeHint := by
  refine tame_current.bind fun token => Tame.ite _ ?_ (tame_unexpected _)
  exact tame_advance.bind fun _ => Tame.ite _ (tame_pure _) trivial

theorem tame_annotation? : Tame annotation? :=
  (tame_acceptOperator _).bind fun _ =>
    Tame.ite _ (tame_typeHint.bind fun _ => tame_pure _) (tame_pure _)

theorem tame_lateAnnotation? (target : String) (early : Option String) :
    Tame (lateAnnotation? target early) := by
  refine (tame_acceptOperator _).bind fun _ => Tame.ite _ ?_ (tame_pure _)
  exact Tame.ite _ (tame_previousLine.bind fun _ => trivial)
    (tame_typeHint.bind fun _ => tame_pure _)

theorem tame_parameterList (function : String) : Tame (parameterList settings function) := by
  have tame_parameters (seen : List String) (rounds : Nat) :
      Tame (parameters function seen rounds) := by
    induction rounds generalizing seen with
    | zero => exact tame_pure seen
    | succ rounds ih =>
      refine (tame_expectIdentifier _).bind fun _ => Tame.ite _ ?_ ?_
      · exact tame_previousLine.bind fun _ => trivial
      · exact (tame_acceptOperator _).bind fun _ => Tame.ite _ (ih _) (tame_pure _)
  exact tame_current.bind fun _ => Tame.ite _ (tame_pure []) (tame_parameters [] _)

theorem tame_acceptElseIf : Tame acceptElseIf := by
  refine (tame_acceptKeyword _).bind fun _ => Tame.ite _ (tame_pure true) ?_
  refine tame_current.bind fun _ => tame_next?.bind fun _ => Tame.ite _ ?_ (tame_pure false)
  exact tame_advance.bind fun _ => tame_advance.bind fun _ => tame_pure true

theorem tame_closeConditional (bodies : List Body) : Tame (closeConditional bodies) :=
  Tame.ite _ (tame_pure ()) (tame_expectKeyword _ _)

theorem tame_closeCoordinates (enclosed : Bool) : Tame (closeCoordinates enclosed) :=
  Tame.ite _ (tame_expectOperator _ _) (tame_pure ())

theorem tame_inputOperation (operation : String) : Tame (inputOperation operation) := by
  refine tame_advance.bind fun _ => (tame_acceptKeyword _).bind fun _ => Tame.ite _ ?_ ?_
  · refine tame_current.bind fun token => ?_
    split
    · exact tame_advance.bind fun _ => tame_pure _
    · exact tame_unexpected _
  · refine (tame_acceptKeyword _).bind fun _ => Tame.ite _ ?_ (tame_unexpected _)
    exact tame_current.bind fun _ =>
      Tame.ite _ (tame_advance.bind fun _ => tame_pure _) (tame_unexpected _)

end Parser

end DeskScript
