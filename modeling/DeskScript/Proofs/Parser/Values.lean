import DeskScript.Proofs.Parser.Run

/-!
What a parser can end with, whatever tokens it is given. `Yields` goes by the parser's parts, and
`expression_yields` says which trees are read as expressions with so many levels.
-/

namespace DeskScript

/--
Trees that are read as expressions with so many levels. Parentheses, arguments and right operands
take a level each, but a left operand stands on the level of its operation.
-/
inductive Node.Expression : (levels : Nat) → Node → Prop where
  | literal {levels : Nat} {node : Node} : node.isLiteral = true → Expression (levels + 1) node
  | identifier {levels : Nat} {name : String} : Expression (levels + 1) (.identifier name)
  | update {levels : Nat} {target operation : String} {before : Bool} :
    Expression (levels + 1) (.update target operation before)
  | call {levels : Nat} {function : String} {arguments : List Node} :
    (∀ node ∈ arguments, Expression levels node) →
    Expression (levels + 1) (.functionCall function arguments)
  | enclosed {levels : Nat} {node : Node} : Expression levels node → Expression (levels + 1) node
  | operation {levels : Nat} {operator : String} {left right : Node} :
    Expression (levels + 1) left → Expression levels right →
    Expression (levels + 1) (.binaryOperation operator left right)

namespace Parser

variable {α β : Type} {settings : Settings} {inner : Parser Node} {p q : Parser α} {levels : Nat}
variable {P : α → Prop} {Q : β → Prop}

def Yields (P : α → Prop) (p : Parser α) : Prop :=
  ∀ s a t, p.run s = (.ok a, t) → P a

namespace Yields

theorem pure {a : α} (h : P a) : Yields P (Pure.pure a) := by
  intro s b t ran
  obtain ⟨rfl, -⟩ := run_pure_eq_ok.1 ran
  exact h

theorem fail (cause : Diagnostic.Cause) (line : Nat) : Yields P (fail cause line) := by
  intro s a t ran
  simp at ran

theorem unexpected (what : Expectation) : Yields P (unexpected what) := by
  intro s a t ran
  simp at ran

theorem bind {f : α → Parser β} (hp : Yields P p) (hf : ∀ a, P a → Yields Q (f a)) :
    Yields Q (p >>= f) := by
  intro s b u ran
  obtain ⟨a, t, first, second⟩ := run_bind_eq_ok.1 ran
  exact hf a (hp s a t first) t b u second

theorem after {f : α → Parser β} (hf : ∀ a, Yields Q (f a)) : Yields Q (p >>= f) :=
  bind (P := fun _ => True) (fun _ _ _ _ => trivial) fun a _ => hf a

theorem ite (c : Prop) [Decidable c] (hp : Yields P p) (hq : Yields P q) :
    Yields P (if c then p else q) := by
  split
  · exact hp
  · exact hq

theorem between {before after : List Command} (hp : Yields P p) :
    Yields P (between before p after) := by
  intro s a t ran
  obtain ⟨u, inside, -⟩ := run_between_eq_ok.1 ran
  exact hp _ a u inside

theorem nested (hp : Yields P p) : Yields P (nested settings p) := by
  intro s a t ran
  obtain ⟨-, u, inside, -⟩ := run_nested_eq_ok.1 ran
  exact hp _ a u inside

theorem settled (hp : Yields P p) : Yields P p.settled :=
  fun s a t ran => hp s a t (run_settled_eq_ok.1 ran)

end Yields

theorem tooDeep_yields : Yields P (tooDeep settings) :=
  .after fun _ => .fail _ _

theorem literal_yields (kind : Token.Kind) (text : String) (line : Nat) :
    Yields (·.isLiteral = true) (literal kind text line) := by
  unfold literal
  split
  all_goals
    split
    · exact .pure rfl
    · exact .fail _ _

theorem commaList_yields (hp : Yields P p) {read : List α} (before : ∀ a ∈ read, P a)
    (rounds : Nat) : Yields (fun all => ∀ a ∈ all, P a) (commaList p read rounds) := by
  induction rounds generalizing read with
  | zero => exact .pure (by simpa using before)
  | succ rounds ih =>
    refine hp.bind fun next holds => .after fun _ => ?_
    have more : ∀ a ∈ next :: read, P a := List.forall_mem_cons.2 ⟨holds, before⟩
    exact .ite _ (ih more) (.pure (by simpa [or_comm] using more))

theorem arguments_yields (hinner : Yields (Node.Expression levels) inner) :
    Yields (fun all => ∀ node ∈ all, Node.Expression levels node) (arguments settings inner) :=
  .after fun _ => .ite _ (.pure (List.forall_mem_nil _))
    (commaList_yields hinner (List.forall_mem_nil _) _)

theorem call_yields (hinner : Yields (Node.Expression levels) inner) (name : String) :
    Yields (Node.Expression (levels + 1)) (call settings inner name) := by
  refine .after fun _ => .after fun _ => (arguments_yields hinner).bind fun arguments holds => ?_
  exact .after fun _ => .after fun _ => .pure (.call holds)

theorem updateBefore_yields : Yields (Node.Expression (levels + 1)) (updateBefore settings) :=
  .after fun _ => .after fun _ => .after fun _ => .after fun _ => .pure .update

theorem named_yields (hinner : Yields (Node.Expression levels) inner) :
    Yields (Node.Expression (levels + 1)) (named settings inner) := by
  refine .after fun _ => .after fun _ => .after fun _ => .ite _ (call_yields hinner _) ?_
  exact .after fun _ => .after fun _ => .ite _ (.after fun _ => .pure .update) (.pure .identifier)

theorem primary_yields (hinner : Yields (Node.Expression levels) inner) :
    Yields (Node.Expression (levels + 1)) (primary settings inner) := by
  have number (kind : Token.Kind) (text : String) (line : Nat) :
      Yields (Node.Expression (levels + 1)) (literal kind text line) :=
    fun s node t ran => .literal (literal_yields kind text line s node t ran)
  have enclosed : Yields (Node.Expression (levels + 1)) (enclosed inner) :=
    .after fun _ => hinner.bind fun node holds => .after fun _ => .pure (.enclosed holds)
  have negated : Yields (Node.Expression (levels + 1)) negated :=
    .after fun _ => .after fun _ => .ite _ (.after fun _ => number _ _ _) (.unexpected _)
  refine .after fun token => ?_
  split
  case h_1 | h_2 | h_3 => exact .after fun _ => number _ _ _
  case h_4 => exact .after fun _ => .pure (.literal rfl)
  case h_5 =>
    refine .ite _ ?_ (.ite _ ?_ (.unexpected _)) <;>
      exact .after fun _ => .pure (.literal rfl)
  case h_6 => exact named_yields hinner
  case h_7 =>
    exact .ite _ enclosed (.ite _ negated (.ite _ updateBefore_yields (.unexpected _)))
  case h_8 => exact .unexpected _

theorem operators_yields {operand : Nat → Parser Node}
    (hoperand : ∀ least, Yields (Node.Expression levels) (operand least)) {left : Node}
    (hleft : left.Expression (levels + 1)) (least rounds : Nat) :
    Yields (Node.Expression (levels + 1)) (operators operand least rounds left) := by
  induction rounds generalizing left with
  | zero => exact .pure hleft
  | succ rounds ih =>
    refine .after fun token => ?_
    split
    · refine .ite _ (.pure hleft) (.after fun _ => (hoperand _).bind fun right hright => ?_)
      exact ih (.operation hleft hright)
    · exact .pure hleft

theorem expression_yields (settings : Settings) (levels least : Nat) :
    Yields (Node.Expression levels) (expression settings levels least) := by
  induction levels generalizing least with
  | zero => exact tooDeep_yields
  | succ levels ih =>
    refine .nested ((primary_yields (ih 1)).bind fun left hleft => ?_)
    exact operators_yields ih hleft least _

end Parser

end DeskScript
