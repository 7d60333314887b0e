import DeskScript.Proofs.Chain.Split
import DeskScript.Proofs.Parser.Progress
import DeskScript.Proofs.Printer.Expression

/-!
Precedence climbing reads a chain as `Chain.split` groups it. A frame of the climb that was asked
for operators of some level or above takes in the links up to the first looser one, and the frames
that are open in one another ask for ever higher levels, so at most seven are. `Settles` follows a
run that succeeds or is refused for a reason that is accepted. Main statement: `expression_splits`.
-/

namespace DeskScript.Parser

open Chain Diagnostic Grammar

variable {α β : Type} {settings : Settings} {accepted : Cause → Prop} {p : Parser α} {s : State}
variable {a : α} {Q R : State → Prop} {K L : Tracker → Prop} {count levels least : Nat}
variable {token follow : Token} {tokens rest : List Token} {node : Node} {inner : Parser Node}

/-- A parser ends with a value in a state with a property, or is refused for an accepted reason. -/
def Settles (accepted : Cause → Prop) (p : Parser α) (s : State) (a : α) (Q : State → Prop) :
    Prop :=
  Gives p s a Q ∨ ∃ d t, p.run s = (.error d, t) ∧ accepted d.cause

theorem Settles.bind {f : α → Parser β} {b : β} (first : Settles accepted p s a Q)
    (second : ∀ t, Q t → Settles accepted (f a) t b R) : Settles accepted (p >>= f) s b R := by
  rcases first with ⟨t, run, q⟩ | ⟨d, t, run, reason⟩
  · rcases second t q with ⟨u, run', r⟩ | ⟨d, u, run', reason⟩
    · exact .inl ⟨u, by rw [run_bind_of_ok run, run'], r⟩
    · exact .inr ⟨d, u, by rw [run_bind_of_ok run, run'], reason⟩
  · exact .inr ⟨d, t, by rw [run_bind, run], reason⟩

theorem Gives.settles (h : Gives p s a Q) : Settles accepted p s a Q :=
  .inl h

theorem Gives.before {f : α → Parser β} {b : β} (first : Gives p s a Q)
    (second : ∀ t, Q t → Settles accepted (f a) t b R) : Settles accepted (p >>= f) s b R :=
  first.settles.bind second

theorem settles_pure (h : Q s) : Settles accepted (pure a) s a Q :=
  (Gives.pure h).settles

theorem settles_nested (room : accepted (.tooDeep settings.limit) ∨ 0 < count)
    (h : At settings count tokens K s)
    (inside : ∀ t, At settings (count - 1) tokens K t →
      Settles accepted p t a (At settings (count - 1) rest L)) :
    Settles accepted (nested settings p) s a (At settings count rest L) := by
  have limit := h.room
  by_cases full : settings.limit ≤ s.depth
  · refine .inr ⟨_, s, by rw [run_nested, if_pos full, run_tooDeep], ?_⟩
    rcases room with reason | some
    · exact reason
    · omega
  · have entered : At settings (count - 1) tokens K (Command.deepen.apply s) :=
      ⟨h.remaining, by change s.depth + 1 + (count - 1) ≤ _; omega, h.few, h.known⟩
    rcases inside _ entered with ⟨t, run, after⟩ | ⟨d, t, run, reason⟩
    · have limit' := after.room
      refine .inl ⟨Command.rise.apply t, ?_, after.remaining, ?_, after.few, after.known⟩
      · rw [run_nested, if_neg full, run_between]
        simp only [applyAll_cons, applyAll_nil, run]
      · change t.depth - 1 + count ≤ settings.limit
        omega
    · refine .inr ⟨d, Command.rise.apply t, ?_, reason⟩
      rw [run_nested, if_neg full, run_between]
      simp only [applyAll_cons, applyAll_nil, run]

def Unresolved (options : Options) : Cause → Prop
  | .undefinedVariable _ | .undefinedFunction _ => options.resolveNames = true
  | .wrongArity .. => options.checkArity = true
  | _ => False

theorem settles_requireVariable
    (names : ∀ cause, Unresolved settings.options cause → accepted cause) {name : String}
    (h : Q s) : Settles accepted (requireVariable settings name) s () Q := by
  unfold Settles Gives
  rw [requireVariable, run_bind_of_ok (run_scopes s)]
  split
  next unseen =>
    rw [Bool.and_eq_true] at unseen
    exact .inr ⟨_, s, rfl, names _ unseen.1⟩
  next => exact .inl ⟨s, rfl, h⟩

theorem settles_checkCall
    (names : ∀ cause, Unresolved settings.options cause → accepted cause) {name : String}
    {given line : Nat} (h : Q s) :
    Settles accepted (checkCall settings name given line) s () Q := by
  unfold Settles Gives
  rw [checkCall, run_bind_of_ok (run_scopes s)]
  split
  next unseen =>
    rw [Bool.and_eq_true] at unseen
    exact .inr ⟨_, s, rfl, names _ unseen.1⟩
  split
  next checked =>
    split
    · split
      · exact .inl ⟨s, rfl, h⟩
      · exact .inr ⟨_, s, rfl, names _ checked⟩
    · exact .inl ⟨s, rfl, h⟩
  next => exact .inl ⟨s, rfl, h⟩

def Read (settings : Settings) (accepted : Cause → Prop) (operand : Operand) (next : Token) :
    Prop :=
  ∀ levels count rest K s, At settings count (operand.tokens ++ next :: rest) K s →
    Settles accepted (primary settings (expression settings levels 1)) s operand.node
      (At settings count (next :: rest) K)

def tight (least : Nat) (link : Link) : Bool :=
  decide (least ≤ link.operator.level)

/-- A parser takes in an operand and the links after it up to the first that is too loose. -/
def Climbs (settings : Settings) (accepted : Cause → Prop) (count least : Nat)
    (p : Parser Node) : Prop :=
  ∀ first links follow rest K s, Each (Read settings accepted) follow first links →
    follow.precedence? = none →
    At settings count (first.tokens ++ (linkTokens links ++ follow :: rest)) K s →
    Settles accepted p s (splitFrom first (links.takeWhile (tight least))).node
      (At settings count (linkTokens (links.dropWhile (tight least)) ++ follow :: rest) K)

theorem precedence?_pos {level : Nat} (h : token.precedence? = some level) : 1 ≤ level := by
  unfold Token.precedence? at h
  split at h
  · dsimp only at h
    repeat' split at h
    all_goals simp_all
    all_goals omega
  · repeat' split at h
    all_goals simp_all
    all_goals omega
  · simp at h

theorem tight_of_le {link : Link} {level : Nat} (le : least ≤ level) (h : tight level link = true) :
    tight least link = true :=
  decide_eq_true (Nat.le_trans le (of_decide_eq_true h))

theorem takeWhile_tight {links : List Link} {level : Nat} (le : least ≤ level) :
    links.takeWhile (tight least) =
      links.takeWhile (tight level) ++ (links.dropWhile (tight level)).takeWhile (tight least) := by
  have inside : ∀ link ∈ links.takeWhile (tight level), tight least link = true :=
    fun link mem => tight_of_le le (List.all_eq_true.1 List.all_takeWhile link mem)
  rw [← List.takeWhile_append_of_pos inside, List.takeWhile_append_dropWhile]

theorem dropWhile_tight {links : List Link} {level : Nat} (le : least ≤ level) :
    links.dropWhile (tight least) = (links.dropWhile (tight level)).dropWhile (tight least) := by
  have inside : ∀ link ∈ links.takeWhile (tight level), tight least link = true :=
    fun link mem => tight_of_le le (List.all_eq_true.1 List.all_takeWhile link mem)
  conv_lhs => rw [← List.takeWhile_append_dropWhile (p := tight level) (l := links)]
  exact List.dropWhile_append_of_pos inside

theorem splitFrom_joined {first : Operand} {read more : List Link} {link : Link}
    (loosest : Loosest read link more) :
    (splitFrom first (read ++ link :: more)).node =
      .binaryOperation link.operator.token.operatorName (splitFrom first read).node
        (splitFrom link.operand more).node := by
  rw [splitFrom_of_cut (cut_of_loosest loosest)]
  rfl

theorem length_le_linkTokens (links : List Link) : links.length ≤ (linkTokens links).length := by
  induction links with
  | nil => exact Nat.le_refl 0
  | cons link links ih =>
    rw [linkTokens_cons, List.length_cons, List.length_cons, List.length_append]
    omega

theorem level_le_of_left {links : List Link} {level : Nat} {other : Link}
    (left : other ∈ (links.dropWhile (tight (level + 1))).head?) :
    other.operator.level ≤ level := by
  have stops := List.head?_dropWhile_not (tight (level + 1)) links
  rw [Option.mem_def.1 left] at stops
  simpa [tight] using stops

theorem each_of_left {P : Operand → Token → Prop} {first : Operand} {links more : List Link}
    {other : Link} {p : Link → Bool} (each : Each P follow first links)
    (left : links.dropWhile p = other :: more) : Each P follow other.operand more := by
  rw [← List.takeWhile_append_dropWhile (p := p) (l := links), left] at each
  exact (each_append.1 each).2

theorem operators_climb {operand : Nat → Parser Node} {links : List Link} {rounds : Nat}
    (first : Operand) (read : List Link)
    (climbs : ∀ level, least ≤ level → level ≤ 6 →
      Climbs settings accepted count (level + 1) (operand (level + 1)))
    (each : ∀ link more, links = link :: more →
      Each (Read settings accepted) follow link.operand more)
    (ends : follow.precedence? = none) (enough : links.length < rounds)
    (before : ∀ link ∈ links.head?, ∀ other ∈ read, link.operator.level ≤ other.operator.level)
    (h : At settings count (linkTokens links ++ follow :: rest) K s) :
    Settles accepted (operators operand least rounds (splitFrom first read).node) s
      (splitFrom first (read ++ links.takeWhile (tight least))).node
      (At settings count (linkTokens (links.dropWhile (tight least)) ++ follow :: rest) K) := by
  -- each round takes in one operator with all the links after it that bind tighter
  induction rounds generalizing s read links with
  | zero => cases enough
  | succ rounds ih =>
    cases links with
    | nil =>
      refine (gives_current h).before fun t ht => ?_
      rw [ends]
      simpa using settles_pure ht
    | cons link links =>
      rw [linkTokens_cons, List.cons_append, List.append_assoc] at h
      refine (gives_current h).before fun t ht => ?_
      rw [link.operator.binds]
      dsimp only
      split
      next loose =>
        have stops : tight least link = false := decide_eq_false (Nat.not_le.2 loose)
        rw [List.takeWhile_cons_of_neg (by simp [stops]),
          List.dropWhile_cons_of_neg (by simp [stops]), List.append_nil]
        rw [linkTokens_cons, List.cons_append, List.append_assoc]
        exact settles_pure ht
      next binds =>
        have binds := Nat.le_of_not_lt binds
        have goesOn : tight least link = true := decide_eq_true binds
        refine (gives_advance ht (Token.not_eof_of_precedence link.operator.binds)).before
          fun u hu => ?_
        refine (climbs _ binds (precedence?_le link.operator.binds) _ _ _ _ _ _
          (each link links rfl) ends hu).bind fun v hv => ?_
        have loosest : Loosest read link (links.takeWhile (tight (link.operator.level + 1))) :=
          ⟨before link rfl, fun other mem =>
            of_decide_eq_true (List.all_eq_true.1 List.all_takeWhile other mem)⟩
        rw [← splitFrom_joined loosest]
        have wider : least ≤ link.operator.level + 1 := Nat.le_succ_of_le binds
        rw [List.takeWhile_cons_of_pos goesOn, List.dropWhile_cons_of_pos goesOn,
          takeWhile_tight wider, dropWhile_tight wider, ← List.cons_append, ← List.append_assoc]
        have shorter := List.length_dropWhile_le (tight (link.operator.level + 1)) links
        refine ih _ (fun other more same => each_of_left (each link links rfl) same) ?_
          (fun other left next mem => ?_) hv
        · rw [List.length_cons] at enough
          omega
        · -- a link that was left binds no tighter than the operator
          have looser := level_le_of_left left
          rcases List.mem_append.1 mem with mem | mem
          · exact Nat.le_trans looser (before link rfl next mem)
          · rcases List.mem_cons.1 mem with rfl | mem
            · exact looser
            · exact Nat.le_trans looser (Nat.le_of_succ_le (loosest.after next mem))

theorem expression_climbs (le : least ≤ 7)
    (room : accepted (.tooDeep settings.limit) ∨ 8 - least ≤ levels ∧ 8 - least ≤ count) :
    Climbs settings accepted count least (expression settings levels least) := by
  induction levels generalizing count least with
  | zero =>
    intro first links follow rest K s _ _ _
    refine .inr ⟨_, s, run_tooDeep settings s, ?_⟩
    rcases room with reason | room
    · exact reason
    · omega
  | succ levels ih =>
    intro first links follow rest K s each ends h
    have few := h.few
    have some : links.length < settings.bound := by
      have short := length_le_linkTokens links
      rw [List.length_append, List.length_append, List.length_cons] at few
      omega
    refine settles_nested (room.imp_right fun room => by omega) h fun t ht => ?_
    have climbs : ∀ level, least ≤ level → level ≤ 6 →
        Climbs settings accepted (count - 1) (level + 1)
          (expression settings levels (level + 1)) :=
      fun level above le => ih (by omega) (room.imp_right fun room => by omega)
    -- the first operand is a grouping without links, from which the loop goes on
    obtain ⟨next, others, starts, reads⟩ := each.head rest
    rw [starts] at ht
    refine (reads levels _ _ _ _ ht).bind fun u hu => ?_
    rw [← starts] at hu
    have entry : first.node = (splitFrom first []).node := by
      rw [splitFrom_nil]
      rfl
    rw [entry]
    exact operators_climb first [] climbs each.tail ends some (by simp) hu

theorem settles_chain {chain : Chain}
    (reads : Each (Read settings accepted) follow chain.first chain.links)
    (room : accepted (.tooDeep settings.limit) ∨ 7 ≤ levels ∧ 7 ≤ count)
    (ends : follow.precedence? = none)
    (h : At settings count (chain.tokens ++ follow :: rest) K s) :
    Settles accepted (expression settings levels 1) s chain.split.node
      (At settings count (follow :: rest) K) := by
  have all : ∀ link ∈ chain.links, tight 1 link = true :=
    fun link _ => decide_eq_true (precedence?_pos link.operator.binds)
  have climbs : Climbs settings accepted count 1 (expression settings levels 1) :=
    expression_climbs (by decide) room
  rw [Chain.tokens, List.append_assoc] at h
  have climbed := climbs _ _ _ _ _ _ reads ends h
  rwa [List.takeWhile_eq_self_iff.2 all, List.dropWhile_eq_nil_iff.2 all] at climbed

theorem isOperator_of_other {sign other : String} (h : token.isOperator sign = true)
    (ne : sign ≠ other) : token.isOperator other = false := by
  simp [Token.isOperator, Token.isOperator_iff.1 h, ne]

theorem isOperator_of_step {other : String} (h : token.isStep = true)
    (ne : "++" ≠ other ∧ "--" ≠ other) : token.isOperator other = false := by
  rcases Bool.or_eq_true_iff.1 h with sign | sign
  · exact isOperator_of_other sign ne.1
  · exact isOperator_of_other sign ne.2

section Operands

variable (names : ∀ cause, Unresolved settings.options cause → accepted cause)

theorem read_number {next : Token} (numeral : Numeral token.text token.kind node) :
    Read settings accepted ⟨[token], node⟩ next := by
  intro levels count rest K s h
  have goesOn := Token.not_eof_of_numeric (Printer.numeric_of_numeral numeral)
  refine (gives_current h).before fun t ht => ?_
  generalize token.kind = kind at numeral
  have read : Settles accepted (do advance; literal kind token.text token.line) t node
      (At settings count (next :: rest) K) :=
    (gives_advance ht goesOn).before fun u hu => (Printer.gives_literal numeral hu).settles
  cases numeral <;> exact read

theorem read_negative {sign next : Token} (minus : sign.isOperator "-" = true)
    (numeral : Numeral ("-" ++ token.text) token.kind node) :
    Read settings accepted ⟨[sign, token], node⟩ next := by
  intro levels count rest K s h
  have numeric := Printer.numeric_of_numeral numeral
  refine (gives_current h).before fun t ht => ?_
  rw [(Token.isOperator_iff.1 minus).1]
  dsimp only
  rw [if_neg (by simp [isOperator_of_other minus]), if_pos minus]
  refine (gives_advance ht (Token.not_eof_of_operator minus)).before fun u hu => ?_
  refine (gives_current hu).before fun v hv => ?_
  rw [if_pos numeric]
  exact (gives_advance hv (Token.not_eof_of_numeric numeric)).before fun w hw =>
    (Printer.gives_literal numeral hw).settles

theorem read_string {next : Token} (kind : token.kind = .string) :
    Read settings accepted ⟨[token], .string token.text⟩ next := by
  intro levels count rest K s h
  refine (gives_current h).before fun t ht => ?_
  rw [kind]
  exact (gives_advance ht (Token.not_eof_of_kind kind (by decide))).before fun u hu =>
    settles_pure hu

theorem read_true {next : Token} (word : token.isKeyword "TRUE" = true) :
    Read settings accepted ⟨[token], .boolean true⟩ next := by
  intro levels count rest K s h
  refine (gives_current h).before fun t ht => ?_
  rw [(Token.isKeyword_iff.1 word).1]
  dsimp only
  rw [if_pos word]
  exact (gives_advance ht (Token.not_eof_of_keyword word)).before fun u hu => settles_pure hu

theorem read_false {next : Token} (word : token.isKeyword "FALSE" = true) :
    Read settings accepted ⟨[token], .boolean false⟩ next := by
  intro levels count rest K s h
  obtain ⟨kind, spelled⟩ := Token.isKeyword_iff.1 word
  have other : token.isKeyword "TRUE" = false := by
    rw [Bool.eq_false_iff, Ne, Token.isKeyword_iff, spelled]
    rintro ⟨-, same⟩
    exact absurd same (by decide)
  refine (gives_current h).before fun t ht => ?_
  rw [kind]
  dsimp only
  rw [if_neg (by simp [other]), if_pos word]
  exact (gives_advance ht (Token.not_eof_of_keyword word)).before fun u hu => settles_pure hu

include names

theorem settles_name {next : Token} (identifier : token.kind = .identifier)
    (notCall : next.isOperator "(" = false) (h : At settings count (token :: next :: rest) K s)
    (later : ∀ t, At settings count (next :: rest) K t →
      Settles accepted (updateAfter token.text token.line) t node Q) :
    Settles accepted (primary settings inner) s node Q := by
  have goesOn := Token.not_eof_of_kind identifier (by decide)
  refine (gives_current h).before fun t ht => ?_
  rw [identifier]
  change Settles accepted (named settings _) t _ _
  refine (gives_current ht).before fun u hu => (gives_advance hu goesOn).before fun v hv => ?_
  refine (gives_current hv).before fun w hw => ?_
  rw [if_neg (by simp [notCall])]
  exact (settles_requireVariable names hw).bind fun x hx => later x hx

theorem read_variable {next : Token} (identifier : token.kind = .identifier)
    (notCall : next.isOperator "(" = false)
    (notStep : (next.isStep && next.line == token.line) = false) :
    Read settings accepted ⟨[token], .identifier token.text⟩ next := by
  intro levels count rest K s h
  refine settles_name names identifier notCall h fun t ht => ?_
  refine (gives_current ht).before fun u hu => ?_
  rw [if_neg (by simp [notStep])]
  exact settles_pure hu

theorem read_updateAfter {step next : Token} (identifier : token.kind = .identifier)
    (steps : step.isStep = true) (line : step.line = token.line) :
    Read settings accepted ⟨[token, step], .update token.text step.text false⟩ next := by
  intro levels count rest K s h
  have notCall : step.isOperator "(" = false := isOperator_of_step steps (by decide)
  refine settles_name names identifier notCall h fun t ht => ?_
  refine (gives_current ht).before fun u hu => ?_
  rw [if_pos (by simp [steps, line])]
  exact (gives_advance hu (Token.not_eof_of_step steps)).before fun v hv => settles_pure hv

theorem read_updateBefore {step next : Token} (steps : step.isStep = true)
    (identifier : token.kind = .identifier) :
    Read settings accepted ⟨[step, token], .update token.text step.text true⟩ next := by
  intro levels count rest K s h
  have notEnclosed : step.isOperator "(" = false := isOperator_of_step steps (by decide)
  have notMinus : step.isOperator "-" = false := isOperator_of_step steps (by decide)
  refine (gives_current h).before fun t ht => ?_
  rw [Token.kind_of_step steps]
  dsimp only
  rw [if_neg (by simp [notEnclosed]), if_neg (by simp [notMinus]), if_pos steps]
  refine (gives_current ht).before fun u hu => ?_
  refine (gives_advance hu (Token.not_eof_of_step steps)).before fun v hv => ?_
  refine (gives_expectIdentifier hv identifier).before fun w hw => ?_
  exact (settles_requireVariable names hw).bind fun x hx => settles_pure hx

theorem read_call {name opening closing next : Token} {nodes : List Node} (inside : List Token)
    (identifier : name.kind = .identifier) (opens : opening.isOperator "(" = true)
    (closes : closing.isOperator ")" = true)
    (given : ∀ levels count rest K s, At settings count (inside ++ closing :: rest) K s →
      Settles accepted (arguments settings (expression settings levels 1)) s nodes
        (At settings count (closing :: rest) K)) :
    Read settings accepted
      ⟨name :: opening :: (inside ++ [closing]), .functionCall name.text nodes⟩ next := by
  intro levels count rest K s h
  have goesOn := Token.not_eof_of_kind identifier (by decide)
  rw [List.cons_append, List.cons_append, List.append_assoc] at h
  refine (gives_current h).before fun t ht => ?_
  rw [identifier]
  change Settles accepted (named settings _) t _ _
  refine (gives_current ht).before fun u hu => (gives_advance hu goesOn).before fun v hv => ?_
  refine (gives_current hv).before fun w hw => ?_
  rw [if_pos opens]
  refine (gives_previousLine hw).before fun x hx => ?_
  refine (gives_advance hx (Token.not_eof_of_operator opens)).before fun y hy => ?_
  refine (given levels _ _ _ _ hy).bind fun z hz => ?_
  refine (gives_expectOperator hz closes).before fun z' hz' => ?_
  exact (settles_checkCall names hz').bind fun z'' hz'' => settles_pure hz''

omit names

theorem read_enclosed {opening closing next : Token} (opens : opening.isOperator "(" = true)
    (closes : closing.isOperator ")" = true)
    (inside : ∀ levels count rest K s, At settings count (tokens ++ closing :: rest) K s →
      Settles accepted (expression settings levels 1) s node
        (At settings count (closing :: rest) K)) :
    Read settings accepted ⟨opening :: (tokens ++ [closing]), node⟩ next := by
  intro levels count rest K s h
  rw [List.cons_append, List.append_assoc] at h
  refine (gives_current h).before fun t ht => ?_
  rw [(Token.isOperator_iff.1 opens).1]
  dsimp only
  rw [if_pos opens]
  refine (gives_advance ht (Token.not_eof_of_operator opens)).before fun u hu => ?_
  refine (inside levels _ _ _ _ hu).bind fun v hv => ?_
  exact (gives_expectOperator hv closes).before fun w hw => settles_pure hw

end Operands

/-- What the grammar takes for a phrase of an expression is read as such. An expression is read
operand by operand, and its tree is that of a grouping with what binds tighter inside. -/
def Understood (settings : Settings) (accepted : Cause → Prop) (tokens : List Token)
    (follow : Token) : Term → Prop
  | .expression level node => ∃ grouping : Grouping, grouping.node = node ∧ grouping.Grouped ∧
    grouping.AtLeast level ∧ tokens = grouping.inOrder.tokens ∧
    Each (Read settings accepted) follow grouping.first grouping.links
  | .primary node | .call node => Read settings accepted ⟨tokens, node⟩ follow
  | .items nodes => nodes.length ≤ tokens.length + 1 ∧
    (follow.isOperator ")" = true → ∀ levels read rounds count rest K s, nodes.length ≤ rounds →
      At settings count (tokens ++ follow :: rest) K s →
      Settles accepted (commaList (expression settings levels 1) read rounds) s
        (read.reverse ++ nodes) (At settings count (follow :: rest) K))

theorem precedence?_of_operator {sign : String} (h : token.isOperator sign = true)
    (other : sign ∉ Printer.operators) : token.precedence? = none := by
  obtain ⟨kind, rfl⟩ := Token.isOperator_iff.1 h
  simp only [Printer.operators, List.mem_cons, List.not_mem_nil, or_false, not_or] at other
  simp [Token.precedence?, kind, other]

theorem Understood.settles (deep : accepted (.tooDeep settings.limit))
    (understood : Understood settings accepted tokens follow (.expression 1 node))
    (ends : follow.precedence? = none) (h : At settings count (tokens ++ follow :: rest) K s) :
    Settles accepted (expression settings levels 1) s node
      (At settings count (follow :: rest) K) := by
  obtain ⟨grouping, rfl, grouped, -, rfl, each⟩ := understood
  have grouping_eq : grouping.inOrder.split = grouping := split_eq_iff.2 ⟨rfl, grouped⟩
  rw [← grouping_eq]
  exact settles_chain each (.inl deep) ends h

def Opens (tokens : List Token) : Prop :=
  ∃ token others, tokens = token :: others ∧ token.isOperator ")" = false

theorem Opens.append (h : Opens tokens) (more : List Token) : Opens (tokens ++ more) := by
  obtain ⟨token, others, rfl, opens⟩ := h
  exact ⟨token, others ++ more, rfl, opens⟩

theorem settles_arguments {nodes : List Node}
    (understood : Understood settings accepted tokens follow (.items nodes)) (opens : Opens tokens)
    (closes : follow.isOperator ")" = true) (h : At settings count (tokens ++ follow :: rest) K s) :
    Settles accepted (arguments settings (expression settings levels 1)) s nodes
      (At settings count (follow :: rest) K) := by
  obtain ⟨length, reads⟩ := understood
  obtain ⟨token, others, rfl, notClosing⟩ := opens
  have few := h.few
  rw [List.length_append, List.length_cons, List.length_cons] at few
  rw [List.length_cons] at length
  refine (gives_current h).before fun t ht => ?_
  rw [if_neg (by simp [notClosing])]
  exact reads closes levels [] settings.bound _ _ _ _ (by omega) ht

theorem notClosing_of_kind (kind : token.kind ≠ .operator) : token.isOperator ")" = false := by
  simp [Token.isOperator, kind]

theorem opens_of_derives {term : Term} (h : Term.Derives tokens follow term) : Opens tokens := by
  have identifier {name : Token} (kind : name.kind = .identifier) :
      name.isOperator ")" = false := notClosing_of_kind (by rw [kind]; decide)
  have keyword {name : Token} {word : String} (h : name.isKeyword word = true) :
      name.isOperator ")" = false :=
    notClosing_of_kind (by rw [(Token.isKeyword_iff.1 h).1]; decide)
  induction h with
  | @number token _ _ numeral =>
    refine ⟨_, _, rfl, notClosing_of_kind fun kind => ?_⟩
    have numeric := Printer.numeric_of_numeral numeral
    rw [kind] at numeric
    exact absurd numeric (by decide)
  | negative minus _ => exact ⟨_, _, rfl, isOperator_of_other minus (by decide)⟩
  | string kind => exact ⟨_, _, rfl, notClosing_of_kind (by rw [kind]; decide)⟩
  | true word | false word => exact ⟨_, _, rfl, keyword word⟩
  | «variable» kind _ _ | updateAfter kind _ _ => exact ⟨_, _, rfl, identifier kind⟩
  | updateBefore steps _ => exact ⟨_, _, rfl, isOperator_of_step steps (by decide)⟩
  | enclosed opens _ _ _ => exact ⟨_, _, rfl, isOperator_of_other opens (by decide)⟩
  | callEmpty kind _ _ | call kind _ _ _ _ => exact ⟨_, _, rfl, identifier kind⟩
  | called _ ih | item _ ih | operand _ ih | tighter _ ih => exact ih
  | items _ _ _ ih _ | binary _ _ _ ih _ => exact ih.append _

theorem Understood.item (deep : accepted (.tooDeep settings.limit))
    (understood : Understood settings accepted tokens follow (.expression 1 node)) :
    Understood settings accepted tokens follow (.items [node]) := by
  refine ⟨Nat.le_add_left 1 _, fun closes levels read rounds count rest K s enough h => ?_⟩
  have ends := precedence?_of_operator closes (by decide)
  obtain ⟨rounds, rfl⟩ := Nat.exists_eq_add_one.2 enough
  refine (understood.settles deep ends h).bind fun t ht => ?_
  have notComma := isOperator_of_other closes (show ")" ≠ "," by decide)
  refine (gives_acceptOperator_false ht notComma).before fun u hu => ?_
  rw [if_neg (by decide), ← List.reverse_cons]
  exact settles_pure hu

theorem Understood.items {first rest : List Token} {comma : Token} {nodes : List Node}
    (deep : accepted (.tooDeep settings.limit)) (separates : comma.isOperator "," = true)
    (understood : Understood settings accepted first comma (.expression 1 node))
    (others : Understood settings accepted rest follow (.items nodes)) :
    Understood settings accepted (first ++ comma :: rest) follow (.items (node :: nodes)) := by
  obtain ⟨length, later⟩ := others
  refine ⟨?_, fun closes levels read rounds count rest K s enough h => ?_⟩
  · rw [List.length_cons, List.length_append, List.length_cons]
    omega
  have ends := precedence?_of_operator separates (by decide)
  obtain ⟨rounds, rfl⟩ := Nat.exists_eq_add_one.2 (Nat.zero_lt_of_lt enough)
  rw [List.append_assoc] at h
  refine (understood.settles deep ends h).bind fun t ht => ?_
  refine (gives_acceptOperator ht separates).before fun u hu => ?_
  rw [if_pos rfl]
  have after := later closes levels (node :: read) rounds count _ K u
    (Nat.le_of_succ_le_succ enough) hu
  rwa [List.reverse_cons, List.append_assoc] at after

theorem Understood.binary {level : Nat} {left right : List Token} {operator : Token} {l r : Node}
    (binds : operator.precedence? = some level)
    (first : Understood settings accepted left operator (.expression level l))
    (second : Understood settings accepted right follow (.expression (level + 1) r)) :
    Understood settings accepted (left ++ operator :: right) follow
      (.expression level (.binaryOperation operator.operatorName l r)) := by
  obtain ⟨before, rfl, groupedBefore, loose, rfl, eachBefore⟩ := first
  obtain ⟨after, rfl, groupedAfter, tight, rfl, eachAfter⟩ := second
  refine ⟨.joined ⟨operator, level, binds⟩ before after, rfl,
    ⟨loose, tight, groupedBefore, groupedAfter⟩, Nat.le_refl _, ?_,
    each_append.2 ⟨eachBefore, eachAfter⟩⟩
  simp [Grouping.inOrder, Chain.tokens, Grouping.first, Grouping.links]

theorem understood_of_derives (deep : accepted (.tooDeep settings.limit))
    (names : ∀ cause, Unresolved settings.options cause → accepted cause) {term : Term}
    (h : Term.Derives tokens follow term) : Understood settings accepted tokens follow term := by
  induction h with
  | number numeral => exact read_number numeral
  | negative minus numeral => exact read_negative minus numeral
  | string kind => exact read_string kind
  | true word => exact read_true word
  | false word => exact read_false word
  | «variable» kind notCall notStep => exact read_variable names kind notCall notStep
  | updateAfter kind steps line => exact read_updateAfter names kind steps line
  | updateBefore steps kind => exact read_updateBefore names steps kind
  | called _ ih => exact ih
  | enclosed opens _ closes ih =>
    exact read_enclosed opens closes fun levels count rest K s h =>
      Understood.settles deep ih (precedence?_of_operator closes (by decide)) h
  | callEmpty kind opens closes =>
    refine read_call names [] kind opens closes fun levels count rest K s h => ?_
    refine (gives_current h).before fun t ht => ?_
    rw [if_pos closes]
    exact settles_pure ht
  | call kind opens derives closes ih =>
    exact read_call names _ kind opens closes fun levels count rest K s h =>
      settles_arguments ih (opens_of_derives derives) closes h
  | item _ ih => exact .item deep ih
  | items _ comma _ ih ih' => exact .items deep comma ih ih'
  | operand _ ih =>
    refine ⟨.single ⟨_, _⟩, rfl, trivial, trivial, ?_, ih⟩
    simp [Grouping.inOrder, Chain.tokens, Grouping.first, Grouping.links]
  | tighter _ ih =>
    obtain ⟨grouping, same, grouped, atLeast, tokens, each⟩ := ih
    exact ⟨grouping, same, grouped, atLeast.mono (Nat.le_succ _), tokens, each⟩
  | binary _ binds _ ihl ihr => exact .binary binds ihl ihr

def Excused (settings : Settings) (cause : Cause) : Prop :=
  cause = .tooDeep settings.limit ∨ Unresolved settings.options cause

theorem read_of_derives {operand : Operand} {next : Token}
    (h : Term.Derives operand.tokens next (.primary operand.node)) :
    Read settings (Excused settings) operand next := by
  have understood : Understood settings (Excused settings) operand.tokens next
      (.primary operand.node) := understood_of_derives (.inl rfl) (fun _ => .inr) h
  exact understood

theorem read_of_single (names : ∀ cause, Unresolved settings.options cause → accepted cause)
    {operand : Operand} {next : Token} (one : operand.tokens.length = 1)
    (h : Term.Derives operand.tokens next (.primary operand.node)) :
    Read settings accepted operand next := by
  obtain ⟨tokens, node⟩ := operand
  cases h with
  | number numeral => exact read_number numeral
  | string kind => exact read_string kind
  | true word => exact read_true word
  | false word => exact read_false word
  | «variable» kind notCall notStep => exact read_variable names kind notCall notStep
  | negative | updateAfter | updateBefore | enclosed => simp at one
  | called calls => cases calls <;> simp at one

def Operands (chain : Chain) (follow : Token) : Prop :=
  Each (fun operand next => Term.Derives operand.tokens next (.primary operand.node)) follow
    chain.first chain.links

theorem reads_of_remaining {t : State} {result : Except Diagnostic α} (run : p.run s = (result, t))
    (before : s.cursor.remaining = tokens ++ rest) (after : t.cursor.remaining = rest) :
    s.cursor.Reads tokens t.cursor := by
  obtain ⟨read, reads⟩ := run_reads p s
  rw [run] at reads
  have split := reads.remaining
  rw [before, after, List.append_cancel_right_eq] at split
  rwa [split]

/--
A chain of operands is read as splitting groups it, to its last token, unless the levels run out
or a check on names fails. The grouping is the only one with the operands and operators in order
in which left parts bind at least as tightly as the operator between the parts, and right parts
tighter. If every operand is one token, seven levels are enough, however long the chain is: with
a limit of 128, those are left where at most 121 are open.
-/
theorem expression_splits {chain : Chain} (operands : Operands chain follow)
    (ends : follow.precedence? = none)
    (left : s.cursor.remaining = chain.tokens ++ follow :: rest)
    (few : s.cursor.remaining.length ≤ settings.bound) :
    ((∃ t, (expression settings (settings.limit - s.depth) 1).run s =
          (.ok chain.split.node, t) ∧ s.cursor.Reads chain.tokens t.cursor) ∨
      ∃ d t, (expression settings (settings.limit - s.depth) 1).run s = (.error d, t) ∧
        Excused settings d.cause) ∧
    (∀ grouping, chain.split = grouping ↔ grouping.inOrder = chain ∧ grouping.Grouped) ∧
    ((∀ operand ∈ chain.operands, operand.tokens.length = 1) → s.depth + 7 ≤ settings.limit →
      ∀ d t, (expression settings (settings.limit - s.depth) 1).run s = (.error d, t) →
        d.cause ≠ .tooDeep settings.limit) := by
  have short : (chain.tokens ++ follow :: rest).length ≤ settings.bound := left ▸ few
  refine ⟨?_, fun grouping => split_eq_iff, fun single room d t run => ?_⟩
  · by_cases full : settings.limit < s.depth
    · refine .inr ⟨⟨.tooDeep settings.limit, s.cursor.current.line⟩, s, ?_, .inl rfl⟩
      rw [Nat.sub_eq_zero_of_le (Nat.le_of_lt full)]
      rfl
    · have reads : Each (Read settings (Excused settings)) follow chain.first chain.links :=
        operands.mono fun operand _ next derives => read_of_derives derives
      have here : At settings 0 (chain.tokens ++ follow :: rest) (fun _ => True) s :=
        ⟨left, Nat.le_of_not_lt full, short, trivial⟩
      rcases settles_chain reads (.inl (.inl rfl)) ends here with ⟨t, run, after⟩ | refused
      · exact .inl ⟨t, run, reads_of_remaining run left after.remaining⟩
      · exact .inr refused
  · have reads : Each (Read settings (Unresolved settings.options)) follow chain.first
        chain.links :=
      operands.mono fun operand mem next derives =>
        read_of_single (fun _ => id) (single operand mem) derives
    have here : At settings 7 (chain.tokens ++ follow :: rest) (fun _ => True) s :=
      ⟨left, room, short, trivial⟩
    have enough : 7 ≤ settings.limit - s.depth ∧ 7 ≤ 7 := ⟨by omega, Nat.le_refl 7⟩
    rcases settles_chain reads (.inr enough) ends here with ⟨u, run', -⟩ | ⟨e, u, run', reason⟩
    · cases run.symm.trans run'
    · cases run.symm.trans run'
      intro same
      rw [same] at reason
      exact reason

def laddered : Chain where
  first := ⟨[Printer.name 1 "a"], .identifier "a"⟩
  links := [
    ⟨⟨Printer.sign 1 "||", 1, rfl⟩, ⟨[Printer.name 1 "b"], .identifier "b"⟩⟩,
    ⟨⟨Printer.sign 1 "&&", 2, rfl⟩, ⟨[Printer.name 1 "c"], .identifier "c"⟩⟩,
    ⟨⟨Printer.sign 1 "==", 3, rfl⟩, ⟨[Printer.name 1 "d"], .identifier "d"⟩⟩,
    ⟨⟨Printer.sign 1 "<", 4, rfl⟩, ⟨[Printer.name 1 "e"], .identifier "e"⟩⟩,
    ⟨⟨Printer.sign 1 "+", 5, rfl⟩, ⟨[Printer.name 1 "f"], .identifier "f"⟩⟩,
    ⟨⟨Printer.sign 1 "*", 6, rfl⟩, ⟨[Printer.name 1 "g"], .identifier "g"⟩⟩,
    ⟨⟨Printer.sign 1 "-", 5, rfl⟩, ⟨[Printer.name 1 "h"], .identifier "h"⟩⟩]

theorem laddered_split : laddered.split.node =
    .binaryOperation "||" (.identifier "a") (.binaryOperation "&&" (.identifier "b")
      (.binaryOperation "==" (.identifier "c") (.binaryOperation "<" (.identifier "d")
        (.binaryOperation "-" (.binaryOperation "+" (.identifier "e")
          (.binaryOperation "*" (.identifier "f") (.identifier "g"))) (.identifier "h"))))) := by
  have grouping : laddered.split = .joined ⟨Printer.sign 1 "||", 1, rfl⟩
      (.single ⟨[Printer.name 1 "a"], .identifier "a"⟩)
      (.joined ⟨Printer.sign 1 "&&", 2, rfl⟩ (.single ⟨[Printer.name 1 "b"], .identifier "b"⟩)
        (.joined ⟨Printer.sign 1 "==", 3, rfl⟩ (.single ⟨[Printer.name 1 "c"], .identifier "c"⟩)
          (.joined ⟨Printer.sign 1 "<", 4, rfl⟩ (.single ⟨[Printer.name 1 "d"], .identifier "d"⟩)
            (.joined ⟨Printer.sign 1 "-", 5, rfl⟩
              (.joined ⟨Printer.sign 1 "+", 5, rfl⟩
                (.single ⟨[Printer.name 1 "e"], .identifier "e"⟩)
                (.joined ⟨Printer.sign 1 "*", 6, rfl⟩
                  (.single ⟨[Printer.name 1 "f"], .identifier "f"⟩)
                  (.single ⟨[Printer.name 1 "g"], .identifier "g"⟩)))
              (.single ⟨[Printer.name 1 "h"], .identifier "h"⟩))))) :=
    split_eq_iff.2 ⟨rfl, by simp [Grouping.Grouped, Grouping.AtLeast]⟩
  rw [grouping]
  rfl

/-- With 121 levels open, all seven that are left are needed. -/
theorem expression_splits_laddered :
    ∃ t, (expression (settingsFor defaultLimit .none (laddered.tokens ++ [Token.eof 1])) 7 1).run
        { start .initial (laddered.tokens ++ [Token.eof 1]) with depth := 121 } =
      (.ok (.binaryOperation "||" (.identifier "a") (.binaryOperation "&&" (.identifier "b")
        (.binaryOperation "==" (.identifier "c") (.binaryOperation "<" (.identifier "d")
          (.binaryOperation "-" (.binaryOperation "+" (.identifier "e")
            (.binaryOperation "*" (.identifier "f") (.identifier "g"))) (.identifier "h")))))),
        t) := by
  have primary {text : String} {next : Token} (notCall : next.isOperator "(" = false)
      (notStep : next.isStep = false) :
      Term.Derives [Printer.name 1 text] next (.primary (.identifier text)) :=
    .variable rfl notCall (by rw [notStep]; rfl)
  have operands : Operands laddered (Token.eof 1) := by
    refine ⟨primary rfl rfl, primary rfl rfl, primary rfl rfl, primary rfl rfl, primary rfl rfl,
      primary rfl rfl, primary rfl rfl, primary rfl rfl⟩
  have left : (start .initial (laddered.tokens ++ [Token.eof 1])).cursor.remaining =
      laddered.tokens ++ Token.eof 1 :: [] := rfl
  obtain ⟨outcome, -, never⟩ := @expression_splits
    (settingsFor defaultLimit .none (laddered.tokens ++ [Token.eof 1]))
    { start .initial (laddered.tokens ++ [Token.eof 1]) with depth := 121 } _ _ _ operands rfl left
    (by decide)
  rw [laddered_split] at outcome
  rcases outcome with ⟨t, run, -⟩ | ⟨d, t, run, deep | unresolved⟩
  · exact ⟨t, run⟩
  · exact absurd deep (never (by decide) (by decide) d t run)
  · obtain ⟨cause, line⟩ := d
    cases cause <;> simp [Unresolved, settingsFor, Options.none] at unresolved

end DeskScript.Parser
