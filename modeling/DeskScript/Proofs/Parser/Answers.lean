import DeskScript.Proofs.Node.RoundTrip
import DeskScript.Proofs.Parser.Progress

/-!
What a parser answers when every token it can meet has a property: its value has one property, or
its diagnostic has another. `Answers` goes by the parser's parts. The rules of the language are
followed once, for trees whose doubles are finite. `Fair` says what they take for granted: what
becomes of a number. Main statement: `Fair.program`.
-/

namespace DeskScript

namespace Node

def Finite (node : Node) : Prop :=
  ∀ x ∈ node.doubles, x.isFinite = true

variable {nodes : List Node}

theorem finite_doublesOf :
    (∀ x ∈ doublesOf nodes, x.isFinite = true) ↔ ∀ node ∈ nodes, node.Finite := by
  induction nodes with
  | nil => simp [doublesOf]
  | cons node nodes ih =>
    rw [doublesOf, List.forall_mem_append, ih, List.forall_mem_cons]
    rfl

theorem finite_doublesOfBodies {bodies : List (List Node)} :
    (∀ x ∈ doublesOfBodies bodies, x.isFinite = true) ↔
      ∀ body ∈ bodies, ∀ node ∈ body, node.Finite := by
  induction bodies with
  | nil => simp [doublesOfBodies]
  | cons body bodies ih =>
    rw [doublesOfBodies, List.forall_mem_append, ih, List.forall_mem_cons, finite_doublesOf]

theorem finite_of_doubles_nil {node : Node} (none : node.doubles = []) : node.Finite := by
  simp [Finite, none]

theorem finite_pair {first second : Node} (hfirst : first.Finite) (hsecond : second.Finite) :
    ∀ x ∈ first.doubles ++ second.doubles, x.isFinite = true :=
  List.forall_mem_append.2 ⟨hfirst, hsecond⟩

theorem finite_construct {first : Node} (hfirst : first.Finite)
    (hnodes : ∀ node ∈ nodes, node.Finite) :
    ∀ x ∈ first.doubles ++ doublesOf nodes, x.isFinite = true :=
  List.forall_mem_append.2 ⟨hfirst, finite_doublesOf.2 hnodes⟩

theorem finite_ifStatement {condition : Node} {conditions : List Node} {bodies : List (List Node)}
    {elseBody : Option (List Node)} (hcondition : condition.Finite)
    (hnodes : ∀ node ∈ nodes, node.Finite) (hconditions : ∀ node ∈ conditions, node.Finite)
    (hbodies : ∀ body ∈ bodies, ∀ node ∈ body, node.Finite)
    (helse : ∀ body ∈ elseBody, ∀ node ∈ body, node.Finite) :
    (ifStatement condition nodes conditions bodies elseBody).Finite := by
  have last : ∀ x ∈ doublesOfBody elseBody, x.isFinite = true := by
    cases elseBody with
    | none => simp [doublesOfBody]
    | some body => exact finite_doublesOf.2 (helse body rfl)
  have first := finite_construct hcondition hnodes
  have further := finite_doublesOf.2 hconditions
  have inside := finite_doublesOfBodies.2 hbodies
  simp only [Finite, doubles, List.forall_mem_append]
  exact ⟨⟨⟨List.forall_mem_append.1 first, further⟩, inside⟩, last⟩

end Node

namespace Parser

variable {α β : Type} {sound : Token → Prop} {blame : Diagnostic → Prop} {P : α → Prop}
variable {Q : β → Prop} {p q : Parser α} {settings : Settings}

/-- The value or the diagnostic of a parser, if every token it meets is sound. -/
def Answers (sound : Token → Prop) (blame : Diagnostic → Prop) (P : α → Prop) :
    Parser α → Prop
  | .done a => P a
  | .failed d => blame d
  | .look next => ∀ view, sound view.current → Answers sound blame P (next view)
  | .perform _ next => Answers sound blame P next

theorem Answers.run (answers : Answers sound blame P p) {s : State}
    (tokens : ∀ token ∈ s.cursor.remaining, sound token) :
    (∀ a, (p.run s).1 = .ok a → P a) ∧ ∀ d, (p.run s).1 = .error d → blame d := by
  induction p generalizing s with
  | done a =>
    refine ⟨fun b same => ?_, fun d same => by cases same⟩
    obtain rfl := Except.ok.inj same
    exact answers
  | failed d =>
    refine ⟨fun b same => (by cases same), fun e same => ?_⟩
    obtain rfl := Except.error.inj same
    exact answers
  | look next ih =>
    have current : sound s.view.current := tokens _ (List.mem_cons_self ..)
    exact ih s.view (answers s.view current) tokens
  | perform command next ih =>
    refine ih answers fun token mem => tokens token ?_
    obtain ⟨passed, reads⟩ := apply_reads command s
    rw [reads.remaining]
    exact List.mem_append_right _ mem

theorem Answers.bind {f : α → Parser β} (hp : Answers sound blame P p)
    (hf : ∀ a, P a → Answers sound blame Q (f a)) : Answers sound blame Q (p >>= f) := by
  rw [bind_eq]
  induction p with
  | done a => exact hf a hp
  | failed d => exact hp
  | look next ih => exact fun view current => ih view (hp view current)
  | perform command next ih => exact ih hp

theorem Answers.after {f : α → Parser β} (hp : Answers sound blame (fun _ => True) p)
    (hf : ∀ a, Answers sound blame Q (f a)) : Answers sound blame Q (p >>= f) :=
  hp.bind fun a _ => hf a

theorem Answers.ite (c : Prop) [Decidable c] (hp : Answers sound blame P p)
    (hq : Answers sound blame P q) : Answers sound blame P (if c then p else q) := by
  split
  · exact hp
  · exact hq

theorem Answers.performAll (given : List Command) (hp : Answers sound blame P p) :
    Answers sound blame P (performAll given p) := by
  induction given with
  | nil => exact hp
  | cons command rest ih => exact ih

theorem Answers.closing (after : List Command) (hp : Answers sound blame P p) :
    Answers sound blame P (p.closing after) := by
  induction p with
  | done a => exact Answers.performAll after hp
  | failed d => exact Answers.performAll after hp
  | look next ih => exact fun view current => ih view (hp view current)
  | perform command next ih => exact ih hp

theorem Answers.between (before after : List Command) (hp : Answers sound blame P p) :
    Answers sound blame P (between before p after) :=
  Answers.performAll before (Answers.closing after hp)

theorem answers_current : Answers sound blame sound current :=
  fun _ here => here

theorem answers_next? : Answers sound blame (fun _ => True) next? :=
  fun _ _ => trivial

theorem answers_previousLine : Answers sound blame (fun _ => True) previousLine :=
  fun _ _ => trivial

theorem answers_scopes : Answers sound blame (fun _ => True) scopes :=
  fun _ _ => trivial

theorem answers_advance : Answers sound blame (fun _ => True) advance :=
  trivial

theorem answers_accept (test : Token → Bool) : Answers sound blame (fun _ => True) (accept test) :=
  answers_current.bind fun _ _ => .ite _ (answers_advance.after fun _ => trivial) trivial

theorem answers_acceptOperator (sign : String) :
    Answers sound blame (fun _ => True) (acceptOperator sign) :=
  answers_accept _

theorem answers_acceptKeyword (word : String) :
    Answers sound blame (fun _ => True) (acceptKeyword word) :=
  answers_accept _

theorem answers_commaList (hp : Answers sound blame P p) {read : List α} (before : ∀ a ∈ read, P a)
    (rounds : Nat) :
    Answers sound blame (fun all => ∀ a ∈ all, P a) (commaList p read rounds) := by
  induction rounds generalizing read with
  | zero => exact fun a mem => before a (List.mem_reverse.1 mem)
  | succ rounds ih =>
    refine hp.bind fun next holds => (answers_acceptOperator ",").after fun _ => ?_
    have more : ∀ a ∈ next :: read, P a := List.forall_mem_cons.2 ⟨holds, before⟩
    exact .ite _ (ih more) fun a mem => more a (List.mem_reverse.1 mem)

theorem answers_operators {operand : Nat → Parser Node}
    (hoperand : ∀ least, Answers sound blame Node.Finite (operand least)) {left : Node}
    (hleft : left.Finite) (least rounds : Nat) :
    Answers sound blame Node.Finite (operators operand least rounds left) := by
  induction rounds generalizing left with
  | zero => exact hleft
  | succ rounds ih =>
    refine answers_current.bind fun token _ => ?_
    split
    · refine .ite _ hleft (answers_advance.after fun _ => ?_)
      exact (hoperand _).bind fun right hright => ih (Node.finite_pair hleft hright)
    · exact hleft

def Body.Finite (body : Body) : Prop :=
  ∀ node ∈ body.statements, node.Finite

theorem answers_closeBody {body : Body} (finite : body.Finite) :
    Answers sound blame (fun all => ∀ node ∈ all, node.Finite) (closeBody body) :=
  .ite _ finite (answers_advance.after fun _ => finite)

/--
What is taken for granted: which tokens are sound and whom a diagnostic may blame. Only a number can
be to blame for a diagnostic of its own kind.
-/
structure Fair (sound : Token → Prop) (blame : Diagnostic → Prop) : Prop where
  plain : ∀ d, d.kind ≠ .number → blame d
  number : ∀ token, sound token → token.kind.isNumeric = true →
    Answers sound blame Node.Finite (literal token.kind token.text token.line)
  negative : ∀ token, sound token → token.kind.isNumeric = true →
    Answers sound blame Node.Finite (literal token.kind ("-" ++ token.text) token.line)

namespace Fair

variable (fair : Fair sound blame)
include fair

theorem fail {cause : Diagnostic.Cause} (other : cause.kind ≠ .number) (line : Nat) :
    Answers sound blame P (fail cause line) :=
  fair.plain _ other

theorem unexpected (what : Expectation) : Answers sound blame P (unexpected what) :=
  answers_current.bind fun _ _ => fair.fail (by nofun) _

theorem tooDeep : Answers sound blame P (tooDeep settings) :=
  answers_current.bind fun _ _ => fair.fail (by nofun) _

theorem nested (hp : Answers sound blame P p) : Answers sound blame P (nested settings p) := by
  intro view _
  exact Answers.ite _ fair.tooDeep (hp.between [.deepen] [.rise])

theorem settled (hp : Answers sound blame P p) : Answers sound blame P p.settled := by
  induction p with
  | done a => exact hp
  | failed d =>
    rw [Parser.settled, Diagnostic.settle]
    split
    next => exact fair.plain _ (by nofun)
    next => exact hp
  | look next ih => exact fun view current => ih view (hp view current)
  | perform command next ih => exact ih hp

theorem expectOperator (sign : String) (what : Expectation) :
    Answers sound blame (fun _ => True) (expectOperator sign what) :=
  (answers_acceptOperator sign).after fun _ => .ite _ trivial (fair.unexpected what)

theorem expectKeyword (word : String) (what : Expectation) :
    Answers sound blame (fun _ => True) (expectKeyword word what) :=
  (answers_acceptKeyword word).after fun _ => .ite _ trivial (fair.unexpected what)

theorem expectIdentifier (what : Expectation) :
    Answers sound blame (fun _ => True) (expectIdentifier what) :=
  answers_current.bind fun _ _ =>
    .ite _ (answers_advance.after fun _ => trivial) (fair.unexpected what)

variable {inner sub : Parser Node}

theorem requireVariable (name : String) :
    Answers sound blame (fun _ => True) (requireVariable settings name) :=
  answers_scopes.after fun _ =>
    .ite _ (answers_previousLine.after fun _ => fair.fail (by nofun) _) trivial

theorem checkCall (name : String) (given line : Nat) :
    Answers sound blame (fun _ => True) (checkCall settings name given line) := by
  refine answers_scopes.after fun tracker => .ite _ (fair.fail (by nofun) _) (.ite _ ?_ trivial)
  split
  · exact .ite _ trivial (fair.fail (by nofun) _)
  · trivial

theorem call (hinner : Answers sound blame Node.Finite inner) (name : String) :
    Answers sound blame Node.Finite (call settings inner name) := by
  have given : Answers sound blame (fun all => ∀ node ∈ all, node.Finite)
      (arguments settings inner) :=
    answers_current.bind fun _ _ => .ite _ (List.forall_mem_nil _)
      (answers_commaList hinner (List.forall_mem_nil _) _)
  refine answers_previousLine.after fun _ => answers_advance.after fun _ =>
    given.bind fun arguments finite => ?_
  exact (fair.expectOperator _ _).after fun _ => (fair.checkCall _ _ _).after fun _ =>
    Node.finite_doublesOf.2 finite

theorem updateBefore : Answers sound blame Node.Finite (updateBefore settings) := by
  refine answers_current.bind fun _ _ => answers_advance.after fun _ => ?_
  exact (fair.expectIdentifier _).after fun _ => (fair.requireVariable _).after fun _ =>
    Node.finite_of_doubles_nil rfl

theorem named (hinner : Answers sound blame Node.Finite inner) :
    Answers sound blame Node.Finite (named settings inner) := by
  refine answers_current.bind fun _ _ => answers_advance.after fun _ =>
    answers_current.bind fun _ _ => .ite _ (fair.call hinner _) ?_
  refine (fair.requireVariable _).after fun _ => answers_current.bind fun _ _ => .ite _ ?_ ?_
  · exact answers_advance.after fun _ => Node.finite_of_doubles_nil rfl
  · exact Node.finite_of_doubles_nil rfl

theorem primary (hinner : Answers sound blame Node.Finite inner) :
    Answers sound blame Node.Finite (primary settings inner) := by
  have enclosed : Answers sound blame Node.Finite (enclosed inner) :=
    answers_advance.after fun _ => hinner.bind fun _ finite =>
      (fair.expectOperator _ _).after fun _ => finite
  have negated : Answers sound blame Node.Finite negated := by
    refine answers_advance.after fun _ => answers_current.bind fun token holds => ?_
    split
    next numeric => exact answers_advance.after fun _ => fair.negative token holds numeric
    next => exact fair.unexpected _
  refine answers_current.bind fun token holds => ?_
  have number (numeric : token.kind.isNumeric = true) :=
    answers_advance.after fun _ => fair.number token holds numeric
  split
  case h_1 kind | h_2 kind | h_3 kind => exact number (by rw [kind]; rfl)
  case h_4 => exact answers_advance.after fun _ => Node.finite_of_doubles_nil rfl
  case h_5 =>
    refine .ite _ ?_ (.ite _ ?_ (fair.unexpected _)) <;>
      exact answers_advance.after fun _ => Node.finite_of_doubles_nil rfl
  case h_6 => exact fair.named hinner
  case h_7 =>
    exact .ite _ enclosed (.ite _ negated (.ite _ fair.updateBefore (fair.unexpected _)))
  case h_8 => exact fair.unexpected _

theorem expression (settings : Settings) (levels least : Nat) :
    Answers sound blame Node.Finite (expression settings levels least) := by
  induction levels generalizing least with
  | zero => exact fair.tooDeep
  | succ levels ih =>
    exact fair.nested ((fair.primary (ih 1)).bind fun left hleft =>
      answers_operators ih hleft least _)

theorem statementsUntil (hsub : Answers sound blame Node.Finite sub) (closes : Token → Bool)
    (missing : Expectation) {read : List Node} (before : ∀ node ∈ read, node.Finite)
    (rounds : Nat) :
    Answers sound blame (fun all => ∀ node ∈ all, node.Finite)
      (statementsUntil closes missing sub read rounds) := by
  induction rounds generalizing read with
  | zero => exact fun node mem => before node (List.mem_reverse.1 mem)
  | succ rounds ih =>
    refine answers_current.bind fun _ _ => .ite _ ?_ (.ite _ (fair.unexpected _) ?_)
    · exact fun node mem => before node (List.mem_reverse.1 mem)
    · exact hsub.bind fun _ finite => ih (List.forall_mem_cons.2 ⟨finite, before⟩)

theorem body (hsub : Answers sound blame Node.Finite sub) (construct : Construct)
    (closers : List String) :
    Answers sound blame Body.Finite (body settings sub construct closers) := by
  have statements (closes : Token → Bool) (missing : Expectation) :=
    fair.statementsUntil hsub closes missing (List.forall_mem_nil _) settings.bound
  refine (answers_acceptOperator _).after fun _ => .ite _ ?_ ?_
  · exact (statements _ _).bind fun _ finite => answers_advance.after fun _ => finite
  · exact (statements _ _).bind fun _ finite => finite

theorem typeHint : Answers sound blame (fun _ => True) typeHint := by
  refine answers_current.bind fun token _ => .ite _ ?_ (fair.unexpected _)
  exact answers_advance.after fun _ => .ite _ trivial (fair.fail (by nofun) _)

theorem assignment (hinner : Answers sound blame Node.Finite inner) :
    Answers sound blame Node.Finite (assignment inner) := by
  have early : Answers sound blame (fun _ => True) annotation? :=
    (answers_acceptOperator _).after fun _ =>
      .ite _ (fair.typeHint.after fun _ => trivial) trivial
  have late (target : String) (stated : Option String) :
      Answers sound blame (fun _ => True) (lateAnnotation? target stated) := by
    refine (answers_acceptOperator _).after fun _ => .ite _ (.ite _ ?_ ?_) trivial
    · exact answers_previousLine.after fun _ => fair.fail (by nofun) _
    · exact fair.typeHint.after fun _ => trivial
  have declared (target : String) {value : Node} (finite : value.Finite) (type : Option String)
      (line : Nat) : Answers sound blame Node.Finite (declare target value type line) := by
    unfold declare
    split
    · exact fair.fail (by nofun) _
    · exact finite
  refine answers_current.bind fun _ _ => answers_advance.after fun _ =>
    (fair.expectIdentifier _).after fun target => early.after fun _ => ?_
  refine (fair.expectOperator _ _).after fun _ => hinner.bind fun value finite =>
    (late _ _).after fun _ => answers_scopes.after fun _ => ?_
  exact declared target finite _ _

theorem parameters (function : String) (seen : List String) (rounds : Nat) :
    Answers sound blame (fun _ => True) (parameters function seen rounds) := by
  induction rounds generalizing seen with
  | zero => trivial
  | succ rounds ih =>
    refine (fair.expectIdentifier _).after fun _ => .ite _ ?_ ?_
    · exact answers_previousLine.after fun _ => fair.fail (by nofun) _
    · exact (answers_acceptOperator _).after fun _ => .ite _ (ih _) trivial

theorem functionDefinition (hsub : Answers sound blame Node.Finite sub) :
    Answers sound blame Node.Finite (functionDefinition settings sub) := by
  have list (name : String) :
      Answers sound blame (fun _ => True) (parameterList settings name) :=
    answers_current.bind fun _ _ => .ite _ trivial (fair.parameters _ _ _)
  refine answers_advance.after fun _ => (fair.expectIdentifier _).after fun name =>
    (fair.expectOperator _ _).after fun _ => (list name).after fun parameters =>
      (fair.expectOperator _ _).after fun _ => ?_
  refine ((fair.body hsub _ _).between _ _).bind fun body finite => ?_
  exact (answers_closeBody finite).bind fun _ finite => Node.finite_doublesOf.2 finite

theorem loopBody (hsub : Answers sound blame Node.Finite sub) (construct : Construct) :
    Answers sound blame (fun all => ∀ node ∈ all, node.Finite) (loopBody settings sub construct) :=
  ((fair.body hsub _ _).between _ _).bind fun _ finite => answers_closeBody finite

theorem branch (hinner : Answers sound blame Node.Finite inner)
    (hsub : Answers sound blame Node.Finite sub) :
    Answers sound blame (fun pair => pair.1.Finite ∧ pair.2.Finite) (branch settings inner sub) :=
  hinner.bind fun _ condition => (answers_acceptKeyword _).after fun _ =>
    (fair.body hsub _ _).bind fun _ body => ⟨condition, body⟩

theorem elseIfs (hinner : Answers sound blame Node.Finite inner)
    (hsub : Answers sound blame Node.Finite sub) {read : List (Node × Body)}
    (before : ∀ pair ∈ read, pair.1.Finite ∧ pair.2.Finite) (rounds : Nat) :
    Answers sound blame (fun all => ∀ pair ∈ all, pair.1.Finite ∧ pair.2.Finite)
      (elseIfs settings inner sub read rounds) := by
  have words : Answers sound blame (fun _ => True) acceptElseIf := by
    refine (answers_acceptKeyword _).after fun _ => .ite _ trivial ?_
    refine answers_current.bind fun _ _ => answers_next?.after fun _ => .ite _ ?_ trivial
    exact answers_advance.after fun _ => answers_advance.after fun _ => trivial
  induction rounds generalizing read with
  | zero => exact fun pair mem => before pair (List.mem_reverse.1 mem)
  | succ rounds ih =>
    refine words.after fun _ => .ite _ ?_ ?_
    · exact (fair.branch hinner hsub).bind fun _ finite =>
        ih (List.forall_mem_cons.2 ⟨finite, before⟩)
    · exact fun pair mem => before pair (List.mem_reverse.1 mem)

theorem ifStatement (hinner : Answers sound blame Node.Finite inner)
    (hsub : Answers sound blame Node.Finite sub) :
    Answers sound blame Node.Finite (ifStatement settings inner sub) := by
  have last : Answers sound blame (fun body => ∀ given ∈ body, given.Finite)
      (elseBranch? settings sub) := by
    refine (answers_acceptKeyword _).after fun _ => .ite _ ?_ nofun
    refine (fair.body hsub _ _).bind fun body finite => ?_
    intro given same
    obtain rfl := Option.some.inj same
    exact finite
  have closed (bodies : List Body) :
      Answers sound blame (fun _ => True) (closeConditional bodies) :=
    .ite _ trivial (fair.expectKeyword _ _)
  refine answers_advance.after fun _ => (fair.branch hinner hsub).bind fun first hfirst => ?_
  refine (fair.elseIfs hinner hsub (List.forall_mem_nil _) _).bind fun others hothers => ?_
  refine last.bind fun body hbody => (closed _).after fun _ => ?_
  refine Node.finite_ifStatement hfirst.1 hfirst.2 ?_ ?_ ?_
  · exact List.forall_mem_map.2 fun pair mem => (hothers pair mem).1
  · exact List.forall_mem_map.2 fun pair mem => (hothers pair mem).2
  · intro statements mem
    obtain ⟨given, present, rfl⟩ := Option.map_eq_some_iff.1 mem
    exact hbody given present

theorem controlStatement (hinner : Answers sound blame Node.Finite inner) (control : Control) :
    Answers sound blame Node.Finite (controlStatement inner control) := by
  have value (line : Nat) : Answers sound blame (fun value => ∀ node ∈ value, node.Finite)
      (controlValue inner control line) := by
    refine answers_current.bind fun _ _ => .ite _ ?_ nofun
    refine hinner.bind fun node finite => ?_
    intro given same
    obtain rfl := Option.some.inj same
    exact finite
  refine answers_current.bind fun _ _ => answers_advance.after fun _ =>
    (value _).bind fun value finite => answers_scopes.after fun _ => .ite _ ?_ ?_
  · cases value with
    | none => exact Node.finite_of_doubles_nil rfl
    | some node => exact finite node rfl
  · exact fair.fail (by nofun) _

theorem moveMouse (hinner : Answers sound blame Node.Finite inner) :
    Answers sound blame Node.Finite (moveMouse inner) := by
  have closed (enclosed : Bool) : Answers sound blame (fun _ => True) (closeCoordinates enclosed) :=
    .ite _ (fair.expectOperator _ _) trivial
  refine answers_advance.after fun _ => (fair.expectKeyword _ _).after fun _ =>
    (fair.expectKeyword _ _).after fun _ => (answers_acceptOperator _).after fun _ => ?_
  exact hinner.bind fun _ hx => (fair.expectOperator _ _).after fun _ =>
    hinner.bind fun _ hy => (closed _).after fun _ => Node.finite_pair hx hy

theorem inputOperation (operation : String) :
    Answers sound blame Node.Finite (inputOperation operation) := by
  refine answers_advance.after fun _ => (answers_acceptKeyword _).after fun _ => .ite _ ?_ ?_
  · refine answers_current.bind fun token _ => ?_
    split
    · exact answers_advance.after fun _ => Node.finite_of_doubles_nil rfl
    · exact fair.unexpected _
  · refine (answers_acceptKeyword _).after fun _ => .ite _ ?_ (fair.unexpected _)
    refine answers_current.bind fun _ _ => .ite _ ?_ (fair.unexpected _)
    exact answers_advance.after fun _ => Node.finite_of_doubles_nil rfl

theorem identifierStatement (hinner : Answers sound blame Node.Finite inner) :
    Answers sound blame Node.Finite (identifierStatement settings inner) := by
  refine answers_current.bind fun _ _ => answers_next?.after fun _ =>
    .ite _ ?_ (.ite _ ?_ (fair.fail (by nofun) _))
  · exact answers_advance.after fun _ => (fair.requireVariable _).after fun _ =>
      answers_current.bind fun _ _ => answers_advance.after fun _ => Node.finite_of_doubles_nil rfl
  · exact answers_advance.after fun _ => fair.call hinner _

theorem wordStatement (hinner : Answers sound blame Node.Finite inner)
    (hsub : Answers sound blame Node.Finite sub) (token : Token) (word : String) :
    Answers sound blame Node.Finite (wordStatement settings inner sub token word) := by
  unfold Parser.wordStatement
  split
  · exact fair.controlStatement hinner _
  · split
    case h_1 => exact fair.assignment hinner
    case h_2 => exact fair.functionDefinition hsub
    case h_3 | h_4 | h_5 => exact answers_advance.after fun _ => hinner.bind fun _ finite => finite
    case h_6 => exact fair.moveMouse hinner
    case h_7 | h_8 | h_9 => exact fair.inputOperation _
    case h_10 => exact fair.ifStatement hinner hsub
    case h_11 =>
      exact answers_advance.after fun _ => hinner.bind fun _ condition =>
        (fair.loopBody hsub _).bind fun _ body => Node.finite_construct condition body
    case h_12 =>
      exact answers_advance.after fun _ => hinner.bind fun _ count =>
        (fair.expectKeyword _ _).after fun _ =>
          (fair.loopBody hsub _).bind fun _ body => Node.finite_construct count body
    case h_13 => exact answers_advance.after fun _ => Node.finite_of_doubles_nil rfl
    case h_14 => exact fair.fail (by nofun) _

theorem unterminated (hinner : Answers sound blame Node.Finite inner)
    (hsub : Answers sound blame Node.Finite sub) :
    Answers sound blame Node.Finite (unterminated settings inner sub) := by
  refine answers_current.bind fun token _ => ?_
  split
  · exact answers_current.bind fun _ _ => fair.wordStatement hinner hsub _ _
  · exact fair.identifierStatement hinner
  · exact .ite _ fair.updateBefore (fair.unexpected _)
  · exact fair.unexpected _

theorem statement (settings : Settings) (levels : Nat) :
    Answers sound blame Node.Finite (statement settings levels) := by
  induction levels with
  | zero => exact fair.tooDeep
  | succ levels ih =>
    refine fair.nested ((answers_acceptOperator _).after fun _ => .ite _ ?_ ?_)
    · exact Node.finite_of_doubles_nil rfl
    · exact (fair.unterminated (fair.expression settings levels 1) ih).bind fun _ finite =>
        (answers_acceptOperator _).after fun _ => finite

theorem topLevel (hsub : Answers sound blame Node.Finite sub) {read : List Node}
    (before : ∀ node ∈ read, node.Finite) (rounds : Nat) :
    Answers sound blame (fun all => ∀ node ∈ all, node.Finite) (topLevel sub read rounds) := by
  induction rounds generalizing read with
  | zero => exact fun node mem => before node (List.mem_reverse.1 mem)
  | succ rounds ih =>
    refine answers_current.bind fun _ _ => .ite _ ?_ ?_
    · exact fun node mem => before node (List.mem_reverse.1 mem)
    · exact (fair.settled hsub).bind fun _ finite => ih (List.forall_mem_cons.2 ⟨finite, before⟩)

theorem program (settings : Settings) (levels count : Nat) :
    Answers sound blame Node.Finite (program settings levels count) :=
  (fair.topLevel (fair.statement settings levels) (List.forall_mem_nil _) _).bind
    fun _ finite => Node.finite_doublesOf.2 finite

end Fair

end Parser

end DeskScript
