import DeskScript.Proofs.Nesting.Unlimited
import DeskScript.Proofs.Parser.Trees

/-!
The limit on nesting only refuses, and only what is nested. `Node.nest` says how many levels a tree
takes, and no tree that is read takes more than it was read with. Main statement:
`parse_nesting`, which compares reading under the limit with reading without one.
-/

namespace DeskScript

namespace Node

variable {node : Node} {nodes : List Node} {levels : Nat}

mutual

/--
How many levels a tree takes: one for each statement, argument and right operand in another, and
none for a left operand or a program.
-/
def nest : Node → Nat
  | .program nodes => nestOf nodes
  | .binaryOperation _ left right => max (nest left) (1 + nest right)
  | .functionCall _ nodes | .functionDefinition _ _ nodes => 1 + nestOf nodes
  | .assignment _ node _ | .printStatement _ node | .waitStatement node => 1 + nest node
  | .moveMouse x y => 1 + max (nest x) (nest y)
  | .whileLoop first body | .repeatLoop first body => 1 + max (nest first) (nestOf body)
  | .controlStatement _ value => 1 + nestOfOption value
  | .ifStatement condition thenBody conditions bodies elseBody =>
    1 + max (max (nest condition) (nestOf thenBody))
      (max (nestOf conditions) (max (nestOfBodies bodies) (nestOfBody elseBody)))
  | .keyOperation .. | .buttonOperation _ | .identifier _ | .integer _ | .float _ | .time ..
  | .string _ | .emptyStatement | .boolean _ | .update .. => 1

def nestOf : List Node → Nat
  | [] => 0
  | node :: nodes => max (nest node) (nestOf nodes)

def nestOfBodies : List (List Node) → Nat
  | [] => 0
  | body :: bodies => max (nestOf body) (nestOfBodies bodies)

def nestOfOption : Option Node → Nat
  | none => 0
  | some node => nest node

def nestOfBody : Option (List Node) → Nat
  | none => 0
  | some body => nestOf body

end

theorem nestOf_le (h : ∀ node ∈ nodes, node.nest ≤ levels) : nestOf nodes ≤ levels := by
  induction nodes with
  | nil => exact Nat.zero_le _
  | cons node nodes ih =>
    obtain ⟨first, others⟩ := List.forall_mem_cons.1 h
    exact Nat.max_le.2 ⟨first, ih others⟩

theorem nestOfBodies_le {bodies : List (List Node)}
    (h : ∀ body ∈ bodies, ∀ node ∈ body, node.nest ≤ levels) : nestOfBodies bodies ≤ levels := by
  induction bodies with
  | nil => exact Nat.zero_le _
  | cons body bodies ih =>
    obtain ⟨first, others⟩ := List.forall_mem_cons.1 h
    exact Nat.max_le.2 ⟨nestOf_le first, ih others⟩

theorem nestOfBody_le {body : Option (List Node)}
    (h : ∀ nodes ∈ body, ∀ node ∈ nodes, node.nest ≤ levels) : nestOfBody body ≤ levels := by
  cases body with
  | none => exact Nat.zero_le _
  | some nodes => exact nestOf_le (h nodes rfl)

theorem Expression.nest_le (expression : node.Expression levels) : node.nest ≤ levels := by
  induction expression with
  | @literal levels node literal =>
    cases node with
    | integer | float | time | string | boolean => exact Nat.le_add_left 1 levels
    | _ => simp [isLiteral] at literal
  | identifier | update => exact Nat.le_add_left 1 _
  | call _ ih =>
    have arguments := nestOf_le ih
    rw [nest]
    omega
  | enclosed _ ih => exact Nat.le_succ_of_le ih
  | operation _ _ hleft hright =>
    rw [nest]
    omega

theorem Statement.nest_le (statement : node.Statement levels) : node.nest ≤ levels := by
  induction statement with
  | empty | key | button | update => exact Nat.le_add_left 1 _
  | call holds => exact (Expression.call holds).nest_le
  | assignment holds | print holds | wait holds =>
    have value := holds.nest_le
    rw [nest]
    omega
  | move hx hy =>
    have first := hx.nest_le
    have second := hy.nest_le
    rw [nest]
    omega
  | @control levels control value holds =>
    cases value with
    | none => exact Nat.le_add_left 1 _
    | some value =>
      have inside := (holds value rfl).nest_le
      rw [nest, nestOfOption]
      omega
  | whileLoop holds _ ih | repeatLoop holds _ ih =>
    have first := holds.nest_le
    have body := nestOf_le ih
    rw [nest]
    omega
  | function _ ih =>
    have body := nestOf_le ih
    rw [nest]
    omega
  | conditional hcondition _ hconditions _ _ hthen hbodies helse =>
    have condition := hcondition.nest_le
    have inThen := nestOf_le hthen
    have conditions := nestOf_le fun node mem => (hconditions node mem).nest_le
    have bodies := nestOfBodies_le hbodies
    have inElse := nestOfBody_le helse
    rw [nest]
    omega

end Node

namespace Parser

variable {options : Options} {tokens : List Token}

theorem program_nest_le (settings : Settings) (levels count : Nat) :
    Yields (·.nest ≤ levels) (program settings levels count) := by
  intro s ast t ran
  obtain ⟨nodes, rfl, holds⟩ := program_yields settings levels count s ast t ran
  exact Node.nestOf_le fun node mem => (holds node mem).nest_le

/--
The parser that reads tokens without a limit on nesting. Its recursion ends after so many levels,
and there it does what it is told.
-/
def unlimitedReader (spent : Parser Node) (levels : Nat) (options : Options)
    (tokens : List Token) : Parser Node :=
  (Opening.unlimited spent).program (settingsFor defaultLimit options tokens) levels
    (Cursor.complete tokens).length

def parseUnlimited (spent : Parser Node) (levels : Nat) (options : Options)
    (tokens : List Token) : Outcome :=
  let (result, s) := (unlimitedReader spent levels options tokens).run (start .initial tokens)
  ⟨result, s.scopes, s.journal.reverse, s.cursor.position⟩

/--
Reading under the limit is refused at a place where 128 levels are open and reading without a limit
opens one more.
-/
structure BeyondLimit (unlimited : Parser Node) (options : Options) (tokens : List Token)
    (s : State) (d : Diagnostic) : Prop where
  reached : ∃ given,
    given <+: (reader defaultLimit options tokens).commands (start .initial tokens) ∧
    given ++ [.deepen] <+: unlimited.commands (start .initial tokens) ∧
    s = Command.applyAll given (start .initial tokens)
  levels : s.depth = 128
  result : (parse options tokens).result = .error d
  kind : d.kind = .grammar
  message : d.message = "Nesting exceeds 128 levels"
  line : d.line = s.cursor.current.line

theorem unlimitedReader_together (options : Options) (spent spent' : Parser Node)
    {levels levels' : Nat}
    (enough : (Cursor.complete tokens).length ≤ levels)
    (enough' : (Cursor.complete tokens).length ≤ levels') :
    Together 0 (unlimitedReader spent levels options tokens)
      (unlimitedReader spent' levels' options tokens) (start .initial tokens) := by
  rw [← start_remaining .initial] at enough enough'
  exact unlimited_program_together spent spent' _ enough enough'

theorem reader_run_or_met (options : Options) (spent : Parser Node) {levels : Nat}
    (enough : (Cursor.complete tokens).length ≤ levels) :
    (reader defaultLimit options tokens).run (start .initial tokens) =
        (unlimitedReader spent levels options tokens).run (start .initial tokens) ∨
      ∃ s, (Barrier.atLimit defaultLimit).Met (reader defaultLimit options tokens)
        (unlimitedReader spent levels options tokens) (start .initial tokens) s := by
  -- the two runs are compared with at least as many levels as the limit allows
  let settings := settingsFor defaultLimit options tokens
  let more := max levels defaultLimit
  have unlimited : Together 0 (unlimitedReader spent levels options tokens)
      (unlimitedReader spent more options tokens) (start .initial tokens) :=
    unlimitedReader_together options spent spent enough (Nat.le_trans enough (Nat.le_max_left ..))
  have limited : (Barrier.atLimit settings.limit).Until 0 Node
      (program settings defaultLimit (Cursor.complete tokens).length)
      (unlimitedReader spent more options tokens) :=
    Barrier.program_until (Nat.le_max_right levels defaultLimit) (Nat.le_refl _) _
  rcases limited (start .initial tokens) rfl with same | ⟨s, met⟩
  · exact .inl (same.run.trans unlimited.run.symm)
  · refine .inr ⟨s, met.inside [] rfl (List.prefix_refl _) ?_ fun _ _ fails => fails⟩
    rw [unlimited.commands]
    exact List.prefix_refl _

theorem beyondLimit_of_met {unlimited : Parser Node} {s : State}
    (met : (Barrier.atLimit defaultLimit).Met (reader defaultLimit options tokens) unlimited
      (start .initial tokens) s) :
    BeyondLimit unlimited options tokens s ⟨.tooDeep defaultLimit, s.cursor.current.line⟩ := by
  obtain ⟨given, passed, opens, reached⟩ := met.reached
  have within : s.depth ≤ defaultLimit :=
    depth_le_of_visits (Nat.zero_le _) ⟨given, passed, reached⟩
  exact ⟨met.reached, Nat.le_antisymm within met.closed, met.blamed _ rfl, rfl, rfl, rfl⟩

/--
Reading tokens under the limit on nesting and without one ends alike, or it is refused under the
limit at a place where 128 levels are open and one more opens without it. How the recursion without
a limit ends does not matter once it has as many levels as there are tokens. No program that is read
under the limit takes more than 128 levels.
-/
theorem parse_nesting (options : Options) (tokens : List Token) (spent : Parser Node)
    (levels : Nat) (enough : (Cursor.complete tokens).length ≤ levels) :
    (parse options tokens = parseUnlimited spent levels options tokens ∨
      ∃ s d, BeyondLimit (unlimitedReader spent levels options tokens) options tokens s d) ∧
    (∀ spent' levels', (Cursor.complete tokens).length ≤ levels' →
      parseUnlimited spent' levels' options tokens = parseUnlimited spent levels options tokens) ∧
    ∀ ast, (parse options tokens).result = .ok ast → ast.nest ≤ 128 := by
  refine ⟨?_, fun spent' levels' enough' => ?_, fun ast accepted => ?_⟩
  · rcases reader_run_or_met options spent enough with same | ⟨s, met⟩
    · refine .inl ?_
      rw [parse, parseFrom, same]
      rfl
    · exact .inr ⟨s, _, beyondLimit_of_met met⟩
  · have same := (unlimitedReader_together options spent' spent enough' enough).run
    rw [parseUnlimited, parseUnlimited, same]
  · have ran : (reader defaultLimit options tokens).run (start .initial tokens) =
        (.ok ast, _) := Prod.ext accepted rfl
    exact program_nest_le _ defaultLimit _ _ ast _ ran

def printedEnclosed : List Token :=
  [⟨.keyword, some "PRINT", 1⟩, ⟨.operator, some "(", 1⟩, ⟨.integer, some "1", 1⟩,
    ⟨.operator, some ")", 1⟩]

theorem parse_nesting_enclosed :
    (Cursor.complete printedEnclosed).length ≤ 5 ∧
      parse .none printedEnclosed =
        parseUnlimited (unexpected .expression) 5 .none printedEnclosed ∧
      ∃ ast, (parse .none printedEnclosed).result = .ok ast ∧ ast.nest ≤ 128 := by
  have enough : (Cursor.complete printedEnclosed).length ≤ 5 := by decide
  have accepted : (parse .none printedEnclosed).result =
      .ok (.program [.printStatement "PRINT" (.integer 1)]) := rfl
  obtain ⟨same, -, nested⟩ :=
    parse_nesting .none printedEnclosed (unexpected .expression) 5 enough
  refine ⟨enough, same.resolve_right fun ⟨s, d, refused⟩ => ?_, _, accepted, nested _ accepted⟩
  have result := refused.result
  rw [accepted] at result
  cases result

end Parser

end DeskScript
