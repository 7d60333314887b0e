import DeskScript.Proofs.Parser.Related

/-!
A property of parsers that the elementary ones have and that goes from parts to wholes holds of
every rule of the language, because having it on both sides is a relation that does.
-/

namespace DeskScript.Parser

/-- A property of parsers that goes from parts to wholes. -/
structure Closed (settings : Settings) (P : ∀ α : Type, Parser α → Prop) : Prop where
  done : ∀ {α : Type} (a : α), P α (.done a)
  failed : ∀ {α : Type} (d : Diagnostic), P α (.failed d)
  look : ∀ {α : Type} {next : View → Parser α}, (∀ view, P α (next view)) → P α (.look next)
  bind : ∀ {α β : Type} {p : Parser α} {f : α → Parser β},
    P α p → (∀ a, P β (f a)) → P β (p >>= f)
  advance : P Unit advance
  note : ∀ event, P Unit (note event)
  declareVariable : ∀ name type, P Unit (change (.declareVariable name type))
  declareFunction : ∀ name parameters, P Unit (change (.declareFunction name parameters))
  inLoop : ∀ {α : Type} {p : Parser α},
    P α p → P α (between [.scope (.push .loop)] p [.scope (.pop .loop)])
  inFunction : ∀ {α : Type} {p : Parser α} (parameters : List String),
    P α p → P α (between (enterFunction parameters) p leaveFunction)
  nested : ∀ {α : Type} {p : Parser α}, P α p → P α (nested settings p)
  settled : ∀ {p : Parser Node}, P Node p → P Node p.settled

def Both (P : ∀ α : Type, Parser α → Prop) (_ : Nat) (α : Type) (p q : Parser α) : Prop :=
  P α p ∧ P α q

namespace Closed

variable {settings : Settings} {P : ∀ α : Type, Parser α → Prop} {sub : Parser Node}
variable (closed : Closed settings P)
include closed

theorem scopes : P Tracker scopes :=
  closed.look fun view => closed.done view.scopes

theorem requireVariable (name : String) : P Unit (requireVariable settings name) := by
  refine closed.bind closed.scopes fun _ => ?_
  split
  · exact closed.bind (closed.look fun view => closed.done view.previousLine) fun _ =>
      closed.failed _
  · exact closed.done ()

theorem checkCall (name : String) (given line : Nat) :
    P Unit (checkCall settings name given line) := by
  refine closed.bind closed.scopes fun tracker => ?_
  split
  · exact closed.failed _
  · split
    · split
      · split
        · exact closed.done ()
        · exact closed.failed _
      · exact closed.done ()
    · exact closed.done ()

theorem both : Related settings settings (Both P) where
  limit := rfl
  done a := ⟨closed.done a, closed.done a⟩
  failed d := ⟨closed.failed d, closed.failed d⟩
  look h := ⟨closed.look fun view => (h view).1, closed.look fun view => (h view).2⟩
  bind hp hf := ⟨closed.bind hp.1 fun a => (hf a).1, closed.bind hp.2 fun a => (hf a).2⟩
  advance := ⟨closed.advance, closed.advance⟩
  note event := ⟨closed.note event, closed.note event⟩
  declareVariable name type := ⟨closed.declareVariable name type, closed.declareVariable name type⟩
  declareFunction name parameters :=
    ⟨closed.declareFunction name parameters, closed.declareFunction name parameters⟩
  inLoop hp := ⟨closed.inLoop hp.1, closed.inLoop hp.2⟩
  inFunction parameters hp :=
    ⟨closed.inFunction parameters hp.1, closed.inFunction parameters hp.2⟩
  nested hp := ⟨closed.nested hp.1, closed.nested hp.2⟩
  settled hp := ⟨closed.settled hp.1, closed.settled hp.2⟩
  requireVariable name := ⟨closed.requireVariable name, closed.requireVariable name⟩
  checkCall name given line := ⟨closed.checkCall name given line, closed.checkCall name given line⟩

theorem body (hsub : P Node sub) (construct : Construct) (closers : List String) :
    P Body (body settings sub construct closers) :=
  ((closed.both.simulation rfl).body (d := 0) ⟨trivial, hsub, hsub⟩ construct closers).1

theorem expression (levels least : Nat) : P Node (expression settings levels least) :=
  ((closed.both.simulation rfl).expression (d := 0) least (.inl rfl)).1

theorem statement (levels : Nat) : P Node (statement settings levels) :=
  ((closed.both.simulation rfl).statement (d := 0) (fun _ => trivial) (.inl rfl)).1

theorem program (levels count : Nat) : P Node (program settings levels count) :=
  ((closed.both.simulation rfl).program (d := 0) (fun _ => trivial) (.inl rfl) count).1

end Closed

end DeskScript.Parser
