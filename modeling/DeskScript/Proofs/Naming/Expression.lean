import DeskScript.Proofs.Naming.Basic
import DeskScript.Proofs.Parser.Tame

/-!
Expressions that are read with checks on names against the same expressions read without. `Checked`
compares the two parsers: the one with checks succeeds exactly where the other one does and the
pass over what was read does not refuse. It carries the names seen before and after, where `none`
stands for a pass that has refused already, so that it goes from parts to wholes.
-/

namespace DeskScript.Parser

open Check

variable {α β : Type} {settings : Settings} {K : Option Names} {inner inner' : Parser Node}
variable {p q : Parser α} {E : α → Option Names}

abbrev Settings.unchecked (settings : Settings) : Settings :=
  { settings with options := .none }

/-- From the names in `K`, which are `none` if something before was refused, `p` reads what `q`
reads unless the names after it are `none`. -/
structure Checked (K : Option Names) (p q : Parser α) (E : α → Option Names) : Prop where
  sound : ∀ {s a t names}, K = some names → names.Describe s.scopes → p.run s = (.ok a, t) →
    q.run s = (.ok a, t) ∧ ∃ after, E a = some after ∧ after.Describe t.scopes
  complete : ∀ {s a t}, (∀ names, K = some names → names.Describe s.scopes) →
    q.run s = (.ok a, t) → (E a).isSome → K.isSome ∧ p.run s = (.ok a, t)

/-- What is read is judged by a check, whatever was read before. -/
def Judged (judge : α → Check) (p q : Parser α) : Prop :=
  ∀ K, Checked K p q fun a => K.bind (judge a)

theorem Checked.bind {f g : α → Parser β} {F : β → Option Names} (first : Checked K p q E)
    (second : ∀ a, Checked (E a) (f a) (g a) F) : Checked K (p >>= f) (q >>= g) F := by
  constructor
  · intro s b u names known describe run
    obtain ⟨a, t, run, rest⟩ := run_bind_eq_ok.1 run
    obtain ⟨run', after, known', describe'⟩ := first.sound known describe run
    obtain ⟨rest', passed⟩ := (second a).sound known' describe' rest
    exact ⟨run_bind_eq_ok.2 ⟨a, t, run', rest'⟩, passed⟩
  · intro s b u describe run passes
    obtain ⟨a, t, run', rest'⟩ := run_bind_eq_ok.1 run
    -- if the first part passes, its own run says which names hold after it
    have describe' : ∀ names, E a = some names → names.Describe t.scopes := by
      intro names known'
      obtain ⟨some, run⟩ := first.complete describe run' (by simp [known'])
      obtain ⟨before, known⟩ := Option.isSome_iff_exists.1 some
      obtain ⟨-, after, same, described⟩ := first.sound known (describe before known) run
      rw [known', Option.some.injEq] at same
      exact same ▸ described
    obtain ⟨passed, rest⟩ := (second a).complete describe' rest' passes
    obtain ⟨some, run⟩ := first.complete describe run' passed
    exact ⟨some, run_bind_eq_ok.2 ⟨a, t, run, rest⟩⟩

theorem Checked.pure {a : α} (same : E a = K) : Checked K (pure a) (pure a) E := by
  constructor
  · intro s b t names known describe run
    obtain ⟨rfl, rfl⟩ := run_pure_eq_ok.1 run
    exact ⟨rfl, names, same.trans known, describe⟩
  · intro s b t _ run passes
    obtain ⟨rfl, rfl⟩ := run_pure_eq_ok.1 run
    exact ⟨same ▸ passes, rfl⟩

theorem Checked.tame (tame : Tame p) : Checked K p p fun _ => K := by
  constructor
  · intro s a t names known describe run
    have scopes := tame.scopes s
    rw [run] at scopes
    exact ⟨run, names, known, scopes ▸ describe⟩
  · intro s a t _ run passes
    exact ⟨passes, run⟩

theorem Checked.failed {d e : Diagnostic} : Checked K (.failed d) (.failed e : Parser α) E := by
  constructor
  · intro s a t names _ _ ran
    simp [run] at ran
  · intro s a t _ ran _
    simp [run] at ran

theorem Checked.unexpected {what : Expectation} :
    Checked K (unexpected what) (unexpected what : Parser α) E :=
  (Checked.tame tame_current).bind fun _ => .failed

theorem Checked.ite (c : Prop) [Decidable c] {p' q' : Parser α} (hp : Checked K p q E)
    (hp' : Checked K p' q' E) : Checked K (if c then p else p') (if c then q else q') E := by
  split
  · exact hp
  · exact hp'

theorem Checked.nested (hp : Checked K p q E) :
    Checked K (nested settings p) (nested settings.unchecked q) E := by
  constructor
  · intro s a t names known describe ran
    obtain ⟨room, u, inside, rfl⟩ := run_nested_eq_ok.1 ran
    obtain ⟨inside', passed⟩ := hp.sound (s := Command.deepen.apply s) known describe inside
    exact ⟨run_nested_eq_ok.2 ⟨room, u, inside', rfl⟩, passed⟩
  · intro s a t describe ran passes
    obtain ⟨room, u, inside', rfl⟩ := run_nested_eq_ok.1 ran
    obtain ⟨some, inside⟩ := hp.complete (s := Command.deepen.apply s) describe inside' passes
    exact ⟨some, run_nested_eq_ok.2 ⟨room, u, inside, rfl⟩⟩

theorem Judged.guard {judge : Check} {p q : Parser Unit} (free : ∀ s, q.run s = (.ok (), s))
    (either : ∀ s names, names.Describe s.scopes →
      p.run s = (.ok (), s) ∧ judge names = some names ∨
        (∃ d, p.run s = (.error d, s)) ∧ judge names = none) :
    Judged (fun _ => judge) p q := by
  intro K
  constructor
  · intro s a t names known describe ran
    rcases either s names describe with ⟨ran', passes⟩ | ⟨⟨d, ran'⟩, -⟩
    · obtain ⟨-, rfl⟩ : () = a ∧ s = t := by simpa [ran'] using ran
      exact ⟨free s, names, by simp [known, passes], describe⟩
    · simp [ran'] at ran
  · intro s a t describe ran passes
    obtain ⟨-, rfl⟩ : () = a ∧ s = t := by simpa [free] using ran
    cases K with
    | none => simp at passes
    | some names =>
      rcases either s names (describe names rfl) with ⟨ran', -⟩ | ⟨-, refuses⟩
      · exact ⟨rfl, ran'⟩
      · simp [refuses] at passes

theorem bind_andThen (K : Option Names) (first second : Check) :
    K.bind (first.andThen second) = (K.bind first).bind second := by
  cases K <;> rfl

theorem checkAll_append (options : Options) (first second : List Node) :
    Node.checkAll options (first ++ second) =
      (Node.checkAll options first).andThen (Node.checkAll options second) := by
  induction first with
  | nil => rfl
  | cons node rest ih =>
    funext names
    simp only [List.cons_append, Node.checkAll, ih, andThen]
    rw [Option.bind_assoc]
    rfl

theorem bind_checkAll_reverse (options : Options) (K : Option Names) (node : Node)
    (read : List Node) :
    K.bind (Node.checkAll options (node :: read).reverse) =
      (K.bind (Node.checkAll options read.reverse)).bind (node.check options) := by
  rw [List.reverse_cons, checkAll_append, bind_andThen]
  congr 1
  funext names
  simp [Node.checkAll, andThen]

theorem requireVariable_judged (name : String) :
    Judged (fun _ => useVariable settings.options name) (requireVariable settings name)
      (requireVariable settings.unchecked name) := by
  refine Judged.guard (fun s => rfl) fun s names describe => ?_
  have visible := describe.seesVariable name
  rw [requireVariable, run_bind_of_ok (run_scopes s), visible, useVariable]
  split
  · exact .inr ⟨⟨_, rfl⟩, rfl⟩
  · exact .inl ⟨rfl, rfl⟩

theorem checkCall_judged (name : String) (given line : Nat) :
    Judged (fun _ => useFunction settings.options name given)
      (checkCall settings name given line) (checkCall settings.unchecked name given line) := by
  refine Judged.guard (fun s => rfl) fun s names describe => ?_
  have arity := describe.arity? name
  have visible := s.scopes.seesFunction_eq name
  rw [checkCall, run_bind_of_ok (run_scopes s), visible, useFunction, ← arity]
  cases s.scopes.parametersOf? name with
  | none =>
    cases settings.options.resolveNames with
    | false => cases settings.options.checkArity <;> exact .inl ⟨rfl, rfl⟩
    | true => exact .inr ⟨⟨_, rfl⟩, rfl⟩
  | some parameters =>
    cases settings.options.checkArity with
    | false => exact .inl ⟨by simp, by simp⟩
    | true =>
      by_cases same : parameters.length = given
      · exact .inl ⟨by simp [same], by simp [same]⟩
      · exact .inr ⟨by simp [same], by simp [same]⟩

abbrev JudgedNode (options : Options) (p q : Parser Node) : Prop :=
  Judged (Node.check options) p q

theorem literal_judged {options : Options} (kind : Token.Kind) (text : String) (line : Nat) :
    JudgedNode options (literal kind text line) (literal kind text line) := by
  intro K
  unfold literal
  split
  all_goals
    split
    · exact .pure (Option.bind_fun_some K)
    · exact .failed

theorem commaList_judged {options : Options} (hinner : JudgedNode options inner inner')
    (read : List Node) (rounds : Nat) (K : Option Names) :
    Checked (K.bind (Node.checkAll options read.reverse)) (commaList inner read rounds)
      (commaList inner' read rounds) fun all => K.bind (Node.checkAll options all) := by
  induction rounds generalizing read with
  | zero => exact .pure rfl
  | succ rounds ih =>
    refine (hinner _).bind fun next => (Checked.tame (tame_acceptOperator ",")).bind fun _ => ?_
    rw [← bind_checkAll_reverse]
    exact Checked.ite _ (ih _) (.pure rfl)

theorem call_judged (hinner : JudgedNode settings.options inner inner') (name : String) :
    JudgedNode settings.options (call settings inner name)
      (call settings.unchecked inner' name) := by
  intro K
  have given : Checked K (arguments settings inner) (arguments settings.unchecked inner')
      fun all => K.bind (Node.checkAll settings.options all) := by
    refine (Checked.tame tame_current).bind fun _ => Checked.ite _ (.pure ?_) ?_
    · exact Option.bind_fun_some K
    · have items := commaList_judged hinner [] settings.bound K
      rwa [List.reverse_nil, Node.checkAll, Option.bind_fun_some] at items
  refine (Checked.tame tame_previousLine).bind fun _ => (Checked.tame tame_advance).bind fun _ => ?_
  refine given.bind fun all => (Checked.tame (tame_expectOperator _ _)).bind fun _ => ?_
  refine (checkCall_judged _ _ _ _).bind fun _ => .pure ?_
  rw [Node.check, bind_andThen]

theorem updateBefore_judged :
    JudgedNode settings.options (updateBefore settings) (updateBefore settings.unchecked) := by
  intro K
  refine (Checked.tame tame_current).bind fun _ => (Checked.tame tame_advance).bind fun _ => ?_
  refine (Checked.tame (tame_expectIdentifier _)).bind fun name => ?_
  exact (requireVariable_judged name _).bind fun _ => .pure rfl

theorem named_judged (hinner : JudgedNode settings.options inner inner') :
    JudgedNode settings.options (named settings inner) (named settings.unchecked inner') := by
  intro K
  refine (Checked.tame tame_current).bind fun token => (Checked.tame tame_advance).bind fun _ => ?_
  refine (Checked.tame tame_current).bind fun _ => Checked.ite _ (call_judged hinner _ _) ?_
  refine (requireVariable_judged _ _).bind fun _ => (Checked.tame tame_current).bind fun _ => ?_
  -- with or without a step after it, a variable is used
  exact Checked.ite _ ((Checked.tame tame_advance).bind fun _ => .pure rfl) (.pure rfl)

theorem enclosed_judged {options : Options} (hinner : JudgedNode options inner inner') :
    JudgedNode options (enclosed inner) (enclosed inner') := by
  intro K
  refine (Checked.tame tame_advance).bind fun _ => (hinner K).bind fun _ => ?_
  exact (Checked.tame (tame_expectOperator _ _)).bind fun _ => .pure rfl

theorem negated_judged {options : Options} : JudgedNode options negated negated := by
  intro K
  refine (Checked.tame tame_advance).bind fun _ => (Checked.tame tame_current).bind fun _ => ?_
  refine Checked.ite _ ?_ .unexpected
  exact (Checked.tame tame_advance).bind fun _ => literal_judged _ _ _ K

theorem primary_judged (hinner : JudgedNode settings.options inner inner') :
    JudgedNode settings.options (primary settings inner) (primary settings.unchecked inner') := by
  intro K
  have constant {node : Node} (plain : node.check settings.options = some) :
      Checked K (do advance; return node) (do advance; return node) fun node =>
        K.bind (node.check settings.options) :=
    (Checked.tame tame_advance).bind fun _ => .pure (by rw [plain, Option.bind_fun_some])
  refine (Checked.tame tame_current).bind fun token => ?_
  split
  case h_1 | h_2 | h_3 =>
    exact (Checked.tame tame_advance).bind fun _ => literal_judged _ _ _ K
  case h_4 => exact constant rfl
  case h_5 => exact Checked.ite _ (constant rfl) (Checked.ite _ (constant rfl) .unexpected)
  case h_6 => exact named_judged hinner K
  case h_7 =>
    refine Checked.ite _ (enclosed_judged hinner K) (Checked.ite _ (negated_judged K) ?_)
    exact Checked.ite _ (updateBefore_judged K) .unexpected
  case h_8 => exact .unexpected

theorem operators_judged {options : Options} {operand operand' : Nat → Parser Node}
    (hoperand : ∀ least, JudgedNode options (operand least) (operand' least))
    (least rounds : Nat) (left : Node) (K : Option Names) :
    Checked (K.bind (left.check options)) (operators operand least rounds left)
      (operators operand' least rounds left) fun node => K.bind (node.check options) := by
  induction rounds generalizing left with
  | zero => exact .pure rfl
  | succ rounds ih =>
    refine (Checked.tame tame_current).bind fun token => ?_
    split
    · refine Checked.ite _ (.pure rfl) ?_
      refine (Checked.tame tame_advance).bind fun _ => (hoperand _ _).bind fun right => ?_
      have grouped := ih (.binaryOperation token.operatorName left right)
      rwa [Node.check, bind_andThen] at grouped
    · exact .pure rfl

theorem expression_judged (settings : Settings) (levels least : Nat) :
    JudgedNode settings.options (expression settings levels least)
      (expression settings.unchecked levels least) := by
  induction levels generalizing least with
  | zero => exact fun K => (Checked.tame tame_current).bind fun _ => .failed
  | succ levels ih =>
    intro K
    refine Checked.nested ((primary_judged (ih 1) K).bind fun left => ?_)
    exact operators_judged ih least _ left K

end DeskScript.Parser
