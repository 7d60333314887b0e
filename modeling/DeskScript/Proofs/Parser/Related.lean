import DeskScript.Proofs.Parser.Run

/-!
A relation of parsers that goes from parts to wholes relates every rule of the language to itself,
also when the two sides make different checks or are given different numbers of rounds and levels.
`Related` says what has to be shown of the relation, and the lemmas follow the rules one by one;
the main ones are `Simulation.expression`, `Simulation.statement` and `Simulation.program`. Loops
and functions change the scopes in pairs of commands, so the relation is asked of a pair together
with what stands between it, not of its halves.
-/

namespace DeskScript.Parser

abbrev Settings.allowing (settings : Settings) (rounds : Nat) : Settings :=
  { settings with bound := rounds }

/-- A relation of parsers at each depth of nesting that goes from parts to wholes. -/
structure Related (settings other : Settings)
    (R : Nat → ∀ α : Type, Parser α → Parser α → Prop) : Prop where
  limit : other.limit = settings.limit
  done : ∀ {d : Nat} {α : Type} (a : α), R d α (.done a) (.done a)
  failed : ∀ {d : Nat} {α : Type} (e : Diagnostic), R d α (.failed e) (.failed e)
  look : ∀ {d : Nat} {α : Type} {next next' : View → Parser α},
    (∀ view, R d α (next view) (next' view)) → R d α (.look next) (.look next')
  bind : ∀ {d : Nat} {α β : Type} {p p' : Parser α} {f f' : α → Parser β},
    R d α p p' → (∀ a, R d β (f a) (f' a)) → R d β (p >>= f) (p' >>= f')
  advance : ∀ {d : Nat}, R d Unit advance advance
  note : ∀ {d : Nat} (event : Journal.Event), R d Unit (note event) (note event)
  declareVariable : ∀ {d : Nat} (name : String) (type : Option String),
    R d Unit (change (.declareVariable name type)) (change (.declareVariable name type))
  declareFunction : ∀ {d : Nat} (name : String) (parameters : List String),
    R d Unit (change (.declareFunction name parameters))
      (change (.declareFunction name parameters))
  inLoop : ∀ {d : Nat} {α : Type} {p p' : Parser α}, R d α p p' →
    R d α (between [.scope (.push .loop)] p [.scope (.pop .loop)])
      (between [.scope (.push .loop)] p' [.scope (.pop .loop)])
  inFunction : ∀ {d : Nat} {α : Type} {p p' : Parser α} (parameters : List String), R d α p p' →
    R d α (between (enterFunction parameters) p leaveFunction)
      (between (enterFunction parameters) p' leaveFunction)
  nested : ∀ {d : Nat} {α : Type} {p p' : Parser α}, R (d + 1) α p p' →
    R d α (nested settings p) (nested other p')
  settled : ∀ {d : Nat} {p p' : Parser Node}, R d Node p p' → R d Node p.settled p'.settled
  requireVariable : ∀ {d : Nat} (name : String),
    R d Unit (requireVariable settings name) (requireVariable other name)
  checkCall : ∀ {d : Nat} (name : String) (given line : Nat),
    R d Unit (checkCall settings name given line) (checkCall other name given line)

namespace Related

variable {settings other : Settings} {d : Nat} {α : Type} {inner inner' : Parser Node}
variable {R : Nat → ∀ α : Type, Parser α → Parser α → Prop}

theorem ite {p p' q q' : Parser α} (c : Prop) [Decidable c] (hp : R d α p p')
    (hq : R d α q q') : R d α (if c then p else q) (if c then p' else q') := by
  split
  · exact hp
  · exact hq

variable (related : Related settings other R)
include related

theorem current : R d Token current current :=
  related.look fun view => related.done view.current

theorem next? : R d (Option Token) next? next? :=
  related.look fun view => related.done view.next?

theorem previousLine : R d Nat previousLine previousLine :=
  related.look fun view => related.done view.previousLine

theorem scopes : R d Tracker scopes scopes :=
  related.look fun view => related.done view.scopes

theorem unexpected (what : Expectation) : R d α (unexpected what) (unexpected what) :=
  related.bind related.current fun _ => related.failed _

theorem tooDeep : R d α (tooDeep settings) (tooDeep other) := by
  unfold Parser.tooDeep
  rw [related.limit]
  exact related.bind related.current fun _ => related.failed _

theorem accept (test : Token → Bool) : R d Bool (accept test) (accept test) :=
  related.bind related.current fun _ =>
    Related.ite _ (related.bind related.advance fun _ => related.done true) (related.done false)

theorem acceptOperator (sign : String) : R d Bool (acceptOperator sign) (acceptOperator sign) :=
  related.accept _

theorem acceptKeyword (word : String) : R d Bool (acceptKeyword word) (acceptKeyword word) :=
  related.accept _

theorem expectOperator (sign : String) (what : Expectation) :
    R d Unit (expectOperator sign what) (expectOperator sign what) :=
  related.bind (related.acceptOperator sign) fun _ =>
    Related.ite _ (related.done ()) (related.unexpected what)

theorem expectKeyword (word : String) (what : Expectation) :
    R d Unit (expectKeyword word what) (expectKeyword word what) :=
  related.bind (related.acceptKeyword word) fun _ =>
    Related.ite _ (related.done ()) (related.unexpected what)

theorem expectIdentifier (what : Expectation) :
    R d String (expectIdentifier what) (expectIdentifier what) :=
  related.bind related.current fun _ =>
    Related.ite _ (related.bind related.advance fun _ => related.done _) (related.unexpected what)

theorem literal (kind : Token.Kind) (text : String) (line : Nat) :
    R d Node (literal kind text line) (literal kind text line) := by
  unfold Parser.literal
  split
  all_goals
    split
    · exact related.done _
    · exact related.failed _

theorem updateBefore : R d Node (updateBefore settings) (updateBefore other) :=
  related.bind related.current fun _ => related.bind related.advance fun _ =>
    related.bind (related.expectIdentifier _) fun _ =>
      related.bind (related.requireVariable _) fun _ => related.done _

theorem updateAfter (name : String) (line : Nat) :
    R d Node (updateAfter name line) (updateAfter name line) :=
  related.bind related.current fun _ =>
    Related.ite _ (related.bind related.advance fun _ => related.done _) (related.done _)

theorem enclosed (hinner : R d Node inner inner') : R d Node (enclosed inner) (enclosed inner') :=
  related.bind related.advance fun _ => related.bind hinner fun _ =>
    related.bind (related.expectOperator _ _) fun _ => related.done _

theorem negated : R d Node negated negated :=
  related.bind related.advance fun _ => related.bind related.current fun _ =>
    Related.ite _ (related.bind related.advance fun _ => related.literal _ _ _)
      (related.unexpected _)

theorem closeBody (body : Body) : R d (List Node) (closeBody body) (closeBody body) :=
  Related.ite _ (related.done _) (related.bind related.advance fun _ => related.done _)

theorem typeHint : R d String typeHint typeHint := by
  refine related.bind related.current fun token => Related.ite _ ?_ (related.unexpected _)
  exact related.bind related.advance fun _ => Related.ite _ (related.done _) (related.failed _)

theorem annotation? : R d (Option String) annotation? annotation? :=
  related.bind (related.acceptOperator _) fun _ =>
    Related.ite _ (related.bind related.typeHint fun _ => related.done _) (related.done _)

theorem lateAnnotation? (target : String) (early : Option String) :
    R d (Option String) (lateAnnotation? target early) (lateAnnotation? target early) := by
  refine related.bind (related.acceptOperator _) fun _ => Related.ite _ ?_ (related.done _)
  exact Related.ite _ (related.bind related.previousLine fun _ => related.failed _)
    (related.bind related.typeHint fun _ => related.done _)

theorem declare (target : String) (value : Node) (type : Option String) (line : Nat) :
    R d Node (declare target value type line) (declare target value type line) := by
  unfold Parser.declare
  split
  · exact related.failed _
  · exact related.bind (related.note _) fun _ =>
      related.bind (related.declareVariable _ _) fun _ => related.done _

theorem assignment (hinner : R d Node inner inner') :
    R d Node (assignment inner) (assignment inner') :=
  related.bind related.current fun _ => related.bind related.advance fun _ =>
    related.bind (related.expectIdentifier _) fun _ => related.bind related.annotation? fun _ =>
      related.bind (related.expectOperator _ _) fun _ => related.bind hinner fun _ =>
        related.bind (related.lateAnnotation? _ _) fun _ => related.bind related.scopes fun _ =>
          related.declare _ _ _ _

theorem acceptElseIf : R d Bool acceptElseIf acceptElseIf := by
  refine related.bind (related.acceptKeyword _) fun _ => Related.ite _ (related.done _) ?_
  refine related.bind related.current fun _ => related.bind related.next? fun _ => Related.ite _ ?_
    (related.done _)
  exact related.bind related.advance fun _ => related.bind related.advance fun _ => related.done _

theorem closeConditional (bodies : List Body) :
    R d Unit (closeConditional bodies) (closeConditional bodies) :=
  Related.ite _ (related.done ()) (related.expectKeyword _ _)

theorem controlValue (hinner : R d Node inner inner') (control : Control) (line : Nat) :
    R d (Option Node) (controlValue inner control line) (controlValue inner' control line) :=
  related.bind related.current fun _ =>
    Related.ite _ (related.bind hinner fun _ => related.done _) (related.done _)

theorem controlStatement (hinner : R d Node inner inner') (control : Control) :
    R d Node (controlStatement inner control) (controlStatement inner' control) :=
  related.bind related.current fun _ => related.bind related.advance fun _ =>
    related.bind (related.controlValue hinner control _) fun _ =>
      related.bind related.scopes fun _ => Related.ite _ (related.done _) (related.failed _)

theorem closeCoordinates (enclosed : Bool) :
    R d Unit (closeCoordinates enclosed) (closeCoordinates enclosed) :=
  Related.ite _ (related.expectOperator _ _) (related.done ())

theorem moveMouse (hinner : R d Node inner inner') :
    R d Node (moveMouse inner) (moveMouse inner') :=
  related.bind related.advance fun _ => related.bind (related.expectKeyword _ _) fun _ =>
    related.bind (related.expectKeyword _ _) fun _ =>
      related.bind (related.acceptOperator _) fun _ => related.bind hinner fun _ =>
        related.bind (related.expectOperator _ _) fun _ => related.bind hinner fun _ =>
          related.bind (related.closeCoordinates _) fun _ => related.done _

theorem inputOperation (operation : String) :
    R d Node (inputOperation operation) (inputOperation operation) := by
  refine related.bind related.advance fun _ => related.bind (related.acceptKeyword _) fun _ =>
    Related.ite _ (related.bind related.current fun _ => ?_)
      (related.bind (related.acceptKeyword _) fun _ => Related.ite _ ?_ (related.unexpected _))
  · split
    · exact related.bind related.advance fun _ => related.done _
    · exact related.unexpected _
  · exact related.bind related.current fun _ =>
      Related.ite _ (related.bind related.advance fun _ => related.done _) (related.unexpected _)

end Related

/--
A relation that also goes from the parts of a repetition to the whole, whatever the number of
rounds on either side. A repetition of statements may rely on each statement to satisfy `Moves`.
-/
structure Simulation (settings other : Settings)
    (R : Nat → ∀ α : Type, Parser α → Parser α → Prop) (Moves : Parser Node → Prop) : Prop
    extends Related settings other R where
  commaList : ∀ {d : Nat} {p p' : Parser Node}, R d Node p p' →
    R d (List Node) (commaList p [] settings.bound) (commaList p' [] other.bound)
  parameters : ∀ {d : Nat} (function : String),
    R d (List String) (parameters function [] settings.bound) (parameters function [] other.bound)
  operators : ∀ {d : Nat} {p p' : Nat → Parser Node}, (∀ least, R d Node (p least) (p' least)) →
    ∀ (least : Nat) (left : Node),
      R d Node (operators p least settings.bound left) (operators p' least other.bound left)
  statementsUntil : ∀ {d : Nat} {p p' : Parser Node} (closes : Token → Bool)
    (missing : Expectation), Moves p ∧ R d Node p p' →
    R d (List Node) (statementsUntil closes missing p [] settings.bound)
      (statementsUntil closes missing p' [] other.bound)
  elseIfs : ∀ {d : Nat} {inner inner' sub sub' : Parser Node},
    R d (Node × Body) (branch settings inner sub)
      (branch other inner' sub') →
    R d (List (Node × Body)) (elseIfs settings inner sub [] settings.bound)
      (elseIfs other inner' sub' [] other.bound)
  topLevel : ∀ {d : Nat} {p p' : Parser Node}, Moves p ∧ R d Node p p' →
    R d (List Node) (topLevel p [] settings.bound) (topLevel p' [] other.bound)

def Capped (settings other : Settings)
    (R : Nat → ∀ α : Type, Parser α → Parser α → Prop) : Prop :=
  ∀ {d : Nat} {α : Type} {p : Parser α}, settings.limit ≤ d →
    R d α (tooDeep settings) (nested other p)

namespace Simulation

variable {settings other : Settings} {d : Nat} {inner inner' sub sub' : Parser Node}
variable {R : Nat → ∀ α : Type, Parser α → Parser α → Prop} {Moves : Parser Node → Prop}
variable (sim : Simulation settings other R Moves)
include sim

theorem arguments (hinner : R d Node inner inner') :
    R d (List Node) (arguments settings inner) (arguments other inner') :=
  sim.bind sim.current fun _ =>
    Related.ite _ (sim.done []) (sim.commaList hinner)

theorem call (hinner : R d Node inner inner') (name : String) :
    R d Node (call settings inner name) (call other inner' name) :=
  sim.bind sim.previousLine fun _ => sim.bind sim.advance fun _ =>
    sim.bind (sim.arguments hinner) fun _ =>
      sim.bind (sim.expectOperator _ _) fun _ =>
        sim.bind (sim.checkCall _ _ _) fun _ => sim.done _

theorem named (hinner : R d Node inner inner') :
    R d Node (named settings inner) (named other inner') :=
  sim.bind sim.current fun _ => sim.bind sim.advance fun _ =>
    sim.bind sim.current fun _ => Related.ite _ (sim.call hinner _)
      (sim.bind (sim.requireVariable _) fun _ => sim.updateAfter _ _)

theorem primary (hinner : R d Node inner inner') :
    R d Node (primary settings inner) (primary other inner') := by
  refine sim.bind sim.current fun token => ?_
  split
  case h_1 | h_2 | h_3 => exact sim.bind sim.advance fun _ => sim.literal _ _ _
  case h_4 => exact sim.bind sim.advance fun _ => sim.done _
  case h_5 =>
    refine Related.ite _ ?_ (Related.ite _ ?_ (sim.unexpected _)) <;>
      exact sim.bind sim.advance fun _ => sim.done _
  case h_6 => exact sim.named hinner
  case h_7 =>
    exact Related.ite _ (sim.enclosed hinner) (Related.ite _ sim.negated
      (Related.ite _ sim.updateBefore (sim.unexpected _)))
  case h_8 => exact sim.unexpected _

theorem expression {levels levels' : Nat} (least : Nat)
    (enough : levels = levels' ∨
      Capped settings other R ∧ levels ≤ levels' ∧ settings.limit ≤ levels + d) :
    R d Node (expression settings levels least)
      (expression other levels' least) := by
  induction levels generalizing levels' least d with
  | zero =>
    cases levels' with
    | zero => exact sim.tooDeep
    | succ levels' =>
      obtain ⟨capped, -, le⟩ := enough.resolve_left (Nat.succ_ne_zero _).symm
      exact capped (Nat.zero_add d ▸ le)
  | succ levels ih =>
    -- one level deeper both sides have one level less, so what they have is still enough
    obtain ⟨levels', rfl⟩ : ∃ fewer, levels' = fewer + 1 := ⟨levels' - 1, by omega⟩
    have inside (least : Nat) : R (d + 1) Node (Parser.expression settings levels least) _ :=
      ih least (enough.imp Nat.succ.inj fun h => ⟨h.1, by omega, by omega⟩)
    exact sim.nested (sim.bind (sim.primary (inside 1)) fun _ =>
      sim.operators inside least _)

theorem body (hsub : Moves sub ∧ R d Node sub sub') (construct : Construct)
    (closers : List String) :
    R d Body (body settings sub construct closers)
      (body other sub' construct closers) := by
  refine sim.bind (sim.acceptOperator _) fun _ => Related.ite _ ?_ ?_
  · exact sim.bind (sim.statementsUntil _ _ hsub) fun _ =>
      sim.bind sim.advance fun _ => sim.done _
  · exact sim.bind (sim.statementsUntil _ _ hsub) fun _ => sim.done _

theorem parameterList (function : String) :
    R d (List String) (parameterList settings function)
      (parameterList other function) :=
  sim.bind sim.current fun _ => Related.ite _ (sim.done []) (sim.parameters _)

theorem functionDefinition (hsub : Moves sub ∧ R d Node sub sub') :
    R d Node (functionDefinition settings sub)
      (functionDefinition other sub') := by
  refine sim.bind sim.advance fun _ => sim.bind (sim.expectIdentifier _) fun name =>
    sim.bind (sim.expectOperator _ _) fun _ =>
    sim.bind (sim.parameterList name) fun parameters => ?_
  refine sim.bind (sim.expectOperator _ _) fun _ => sim.bind (sim.note _) fun _ =>
    sim.bind (sim.declareFunction _ _) fun _ => ?_
  exact sim.bind (sim.inFunction _ (sim.body hsub _ _)) fun _ =>
    sim.bind (sim.closeBody _) fun _ => sim.done _

theorem loopBody (hsub : Moves sub ∧ R d Node sub sub') (construct : Construct) :
    R d (List Node) (loopBody settings sub construct)
      (loopBody other sub' construct) :=
  sim.bind (sim.inLoop (sim.body hsub _ _)) fun _ => sim.closeBody _

theorem whileLoop (hinner : R d Node inner inner') (hsub : Moves sub ∧ R d Node sub sub') :
    R d Node (whileLoop settings inner sub) (whileLoop other inner' sub') :=
  sim.bind sim.advance fun _ => sim.bind hinner fun _ =>
    sim.bind (sim.loopBody hsub _) fun _ => sim.done _

theorem repeatLoop (hinner : R d Node inner inner') (hsub : Moves sub ∧ R d Node sub sub') :
    R d Node (repeatLoop settings inner sub) (repeatLoop other inner' sub') :=
  sim.bind sim.advance fun _ => sim.bind hinner fun _ =>
    sim.bind (sim.expectKeyword _ _) fun _ =>
      sim.bind (sim.loopBody hsub _) fun _ => sim.done _

theorem branch (hinner : R d Node inner inner') (hsub : Moves sub ∧ R d Node sub sub') :
    R d (Node × Body) (branch settings inner sub) (branch other inner' sub') :=
  sim.bind hinner fun _ => sim.bind (sim.acceptKeyword _) fun _ =>
    sim.bind (sim.body hsub _ _) fun _ => sim.done _

theorem elseBranch? (hsub : Moves sub ∧ R d Node sub sub') :
    R d (Option Body) (elseBranch? settings sub) (elseBranch? other sub') :=
  sim.bind (sim.acceptKeyword _) fun _ =>
    Related.ite _ (sim.bind (sim.body hsub _ _) fun _ => sim.done _)
      (sim.done _)

theorem ifStatement (hinner : R d Node inner inner') (hsub : Moves sub ∧ R d Node sub sub') :
    R d Node (ifStatement settings inner sub)
      (ifStatement other inner' sub') := by
  refine sim.bind sim.advance fun _ => sim.bind (sim.branch hinner hsub)
    fun ⟨condition, thenBody⟩ => ?_
  refine sim.bind (sim.elseIfs (sim.branch hinner hsub)) fun _ =>
    sim.bind (sim.elseBranch? hsub) fun _ => ?_
  exact sim.bind (sim.closeConditional _) fun _ => sim.done _

theorem identifierStatement (hinner : R d Node inner inner') :
    R d Node (identifierStatement settings inner)
      (identifierStatement other inner') := by
  refine sim.bind sim.current fun _ => sim.bind sim.next? fun _ => Related.ite _ ?_
    (Related.ite _ (sim.bind sim.advance fun _ => sim.call hinner _) (sim.failed _))
  exact sim.bind sim.advance fun _ => sim.bind (sim.requireVariable _) fun _ =>
    sim.bind sim.current fun _ => sim.bind sim.advance fun _ => sim.done _

theorem wordStatement (hinner : R d Node inner inner') (hsub : Moves sub ∧ R d Node sub sub')
    (token : Token) (word : String) :
    R d Node (wordStatement settings inner sub token word)
      (wordStatement other inner' sub' token word) := by
  have valued (f : Node → Node) : R d Node (do
      Parser.advance
      let value ← inner
      return f value) (do
      Parser.advance
      let value ← inner'
      return f value) :=
    sim.bind sim.advance fun _ => sim.bind hinner fun _ => sim.done _
  unfold Parser.wordStatement
  split
  · exact sim.controlStatement hinner _
  · split
    case h_1 => exact sim.assignment hinner
    case h_2 => exact sim.functionDefinition hsub
    case h_3 | h_4 | h_5 => exact valued _
    case h_6 => exact sim.moveMouse hinner
    case h_7 | h_8 | h_9 => exact sim.inputOperation _
    case h_10 => exact sim.ifStatement hinner hsub
    case h_11 => exact sim.whileLoop hinner hsub
    case h_12 => exact sim.repeatLoop hinner hsub
    case h_13 => exact sim.bind sim.advance fun _ => sim.done _
    case h_14 => exact sim.failed _

theorem keywordStatement (hinner : R d Node inner inner') (hsub : Moves sub ∧ R d Node sub sub') :
    R d Node (keywordStatement settings inner sub)
      (keywordStatement other inner' sub') :=
  sim.bind sim.current fun token => sim.bind (sim.note _) fun _ =>
    sim.wordStatement hinner hsub token _

theorem unterminated (hinner : R d Node inner inner') (hsub : Moves sub ∧ R d Node sub sub') :
    R d Node (unterminated settings inner sub)
      (unterminated other inner' sub') := by
  refine sim.bind sim.current fun token => ?_
  split
  · exact sim.keywordStatement hinner hsub
  · exact sim.identifierStatement hinner
  · exact Related.ite _ sim.updateBefore (sim.unexpected _)
  · exact sim.unexpected _

theorem terminated (hinner : R d Node inner inner') (hsub : Moves sub ∧ R d Node sub sub') :
    R d Node (terminated settings inner sub) (terminated other inner' sub') :=
  sim.bind (sim.acceptOperator _) fun _ => Related.ite _ (sim.done _)
    (sim.bind (sim.unterminated hinner hsub) fun _ =>
      sim.bind (sim.acceptOperator _) fun _ => sim.done _)

theorem statement (moves : ∀ levels, Moves (statement settings levels)) {levels levels' : Nat}
    (enough : levels = levels' ∨
      Capped settings other R ∧ levels ≤ levels' ∧ settings.limit ≤ levels + d) :
    R d Node (statement settings levels) (statement other levels') := by
  induction levels generalizing levels' d with
  | zero =>
    cases levels' with
    | zero => exact sim.tooDeep
    | succ levels' =>
      obtain ⟨capped, -, le⟩ := enough.resolve_left (Nat.succ_ne_zero _).symm
      exact capped (Nat.zero_add d ▸ le)
  | succ levels ih =>
    obtain ⟨levels', rfl⟩ : ∃ fewer, levels' = fewer + 1 := ⟨levels' - 1, by omega⟩
    have inside : levels = levels' ∨
        Capped settings other R ∧ levels ≤ levels' ∧ settings.limit ≤ levels + (d + 1) :=
      enough.imp Nat.succ.inj fun h => ⟨h.1, by omega, by omega⟩
    exact sim.nested (sim.terminated (sim.expression 1 inside) ⟨moves levels, ih inside⟩)

theorem program (moves : ∀ levels, Moves (Parser.statement settings levels)) {levels levels' : Nat}
    (enough : levels = levels' ∨
      Capped settings other R ∧ levels ≤ levels' ∧ settings.limit ≤ levels + d) (count : Nat) :
    R d Node (program settings levels count) (program other levels' count) := by
  refine sim.bind (sim.note _) fun _ => sim.bind ?_ fun _ =>
    sim.bind (sim.note _) fun _ => sim.done _
  exact sim.topLevel ⟨moves levels, sim.statement moves enough⟩

end Simulation

namespace Related

variable {settings other : Settings} {d : Nat} {inner inner' sub sub' p p' : Parser Node}
variable {R : Nat → ∀ α : Type, Parser α → Parser α → Prop}
variable (related : Related settings other R)
include related

theorem commaList (hp : R d Node p p') (read : List Node) (rounds : Nat) :
    R d (List Node) (commaList p read rounds) (commaList p' read rounds) := by
  induction rounds generalizing read with
  | zero => exact related.done _
  | succ rounds ih =>
    refine related.bind hp fun next => related.bind (related.acceptOperator ",") fun _ => ?_
    exact Related.ite _ (ih _) (related.done _)

theorem parameters (function : String) (seen : List String) (rounds : Nat) :
    R d (List String) (parameters function seen rounds) (parameters function seen rounds) := by
  induction rounds generalizing seen with
  | zero => exact related.done _
  | succ rounds ih =>
    refine related.bind (related.expectIdentifier _) fun _ => Related.ite _ ?_ ?_
    · exact related.bind related.previousLine fun _ => related.failed _
    · exact related.bind (related.acceptOperator _) fun _ =>
        Related.ite _ (ih _) (related.done _)

theorem operators {p p' : Nat → Parser Node} (hp : ∀ least, R d Node (p least) (p' least))
    (least rounds : Nat) (left : Node) :
    R d Node (operators p least rounds left) (operators p' least rounds left) := by
  induction rounds generalizing left with
  | zero => exact related.done left
  | succ rounds ih =>
    refine related.bind related.current fun token => ?_
    split
    · refine Related.ite _ (related.done left) ?_
      exact related.bind related.advance fun _ => related.bind (hp _) fun _ => ih _
    · exact related.done left

theorem statementsUntil (closes : Token → Bool) (missing : Expectation) (hp : R d Node p p')
    (read : List Node) (rounds : Nat) :
    R d (List Node) (statementsUntil closes missing p read rounds)
      (statementsUntil closes missing p' read rounds) := by
  induction rounds generalizing read with
  | zero => exact related.done _
  | succ rounds ih =>
    refine related.bind related.current fun token => Related.ite _ (related.done _) ?_
    exact Related.ite _ (related.unexpected _) (related.bind hp fun _ => ih _)

theorem elseIfs (hbranch : R d (Node × Body) (branch settings inner sub)
      (branch other inner' sub')) (read : List (Node × Body)) (rounds : Nat) :
    R d (List (Node × Body)) (elseIfs settings inner sub read rounds)
      (elseIfs other inner' sub' read rounds) := by
  induction rounds generalizing read with
  | zero => exact related.done _
  | succ rounds ih =>
    refine related.bind related.acceptElseIf fun _ => Related.ite _ ?_ (related.done _)
    exact related.bind hbranch fun _ => ih _

theorem topLevel (hp : R d Node p p') (read : List Node) (rounds : Nat) :
    R d (List Node) (topLevel p read rounds) (topLevel p' read rounds) := by
  induction rounds generalizing read with
  | zero => exact related.done _
  | succ rounds ih =>
    refine related.bind related.current fun _ => Related.ite _ (related.done _) ?_
    exact related.bind (related.settled hp) fun _ => ih _

theorem simulation (rounds : other.bound = settings.bound) :
    Simulation settings other R fun _ => True where
  toRelated := related
  commaList hp := rounds ▸ related.commaList hp [] _
  parameters function := rounds ▸ related.parameters function [] _
  operators hp least left := rounds ▸ related.operators hp least _ left
  statementsUntil closes missing hp := rounds ▸ related.statementsUntil closes missing hp.2 [] _
  elseIfs hbranch := rounds ▸ related.elseIfs hbranch [] _
  topLevel hp := rounds ▸ related.topLevel hp.2 [] _

end Related

end DeskScript.Parser
