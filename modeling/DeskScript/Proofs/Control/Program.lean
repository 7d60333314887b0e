import DeskScript.Proofs.Control.Refusal

/-!
Control statements in programs. Main statement: `control_statements_placed`.
-/

namespace DeskScript

/-- What is said of a control statement outside every construct that it can leave. -/
def Control.refusal (control : Control) : String :=
  control.word ++ " statement outside of " ++ control.context.label

theorem Control.eq_of_refusal_eq {control other : Control}
    (same : control.refusal = other.refusal) : control = other := by
  revert same
  cases control <;> cases other <;> decide

namespace Diagnostic

variable {d : Diagnostic}

theorem Ordinary.kind (ordinary : d.Ordinary) :
    d.kind = .grammar ∨ d.kind = .type ∨ d.kind = .number := by
  obtain ⟨cause, line⟩ := d
  cases cause <;> simp_all [Ordinary, Diagnostic.kind, Cause.kind]

theorem Ordinary.settle_eq (ordinary : d.Ordinary) : d.settle = d := by
  refine if_neg ?_
  rcases ordinary.kind with kind | kind | kind <;> simp [isControlFlow, kind, Kind.isControlFlow]

theorem settle_misplaced (control : Control) (value : Option Node) (line : Nat) :
    settle ⟨.misplaced control value, line⟩ = ⟨.stated .grammar control.refusal, line⟩ :=
  rfl

def Spoken (text : String) : Prop :=
  text.toList.tail.head?.any (·.isLower) = true

instance (text : String) : Decidable (Spoken text) :=
  inferInstanceAs (Decidable (_ = true))

theorem Spoken.append {first : String} (spoken : Spoken first) (rest : String) :
    Spoken (first ++ rest) := by
  unfold Spoken at spoken ⊢
  rw [String.toList_append]
  match first.toList, spoken with
  | _ :: _ :: _, spoken => exact spoken

theorem spoken_expectation (what : Expectation) : Spoken what.message := by
  cases what with
  | variableAfter | equalsAfter | keyOrButton | closeArguments =>
    exact .append (.append (by decide) _) _
  | closing => exact .append (.append (.append (by decide) _) _) _
  | _ => decide

theorem Ordinary.spoken (ordinary : d.Ordinary) : Spoken d.message := by
  obtain ⟨cause, line⟩ := d
  change Spoken cause.message
  cases cause with
  | misplaced | stated => exact ordinary.elim
  | openString | openComment => decide
  | expected what => exact .append (.append (spoken_expectation what) _) _
  | malformedNumber | numberOutOfRange | integerOutOfRange | tooDeep | unexpectedKeyword
  | strayIdentifier | annotatedTwice | undefinedVariable | undefinedFunction =>
    exact .append (.append (by decide) _) _
  | invalidType => exact .append (.append (.append (by decide) _) _) _
  | duplicateParameter => exact .append (.append (.append (.append (by decide) _) _) _) _
  | typeMismatch | wrongArity =>
    exact .append (.append (.append (.append (.append (by decide) _) _) _) _) _

theorem Ordinary.message_ne (ordinary : d.Ordinary) (control : Control) :
    d.message ≠ control.refusal := by
  intro same
  have spoken := ordinary.spoken
  rw [same] at spoken
  cases control <;> exact absurd spoken (by decide)

end Diagnostic

namespace Parser

open Grammar

variable {sub : Parser Node} {s t : State} {d : Diagnostic} {site : Site} {bound : Nat}

theorem topLevel_refused (hsub : ReadsStatement bound sub) (refuses : RefusesStatement bound sub)
    {read : List Node} {rounds : Nat} (h : (topLevel sub read rounds).run s = (.error d, t))
    (enough : s.cursor.remaining.length ≤ bound) (recorded : Recorded site s.scopes) :
    ∃ e : Diagnostic, d = e.settle ∧ Refused (.statement site) s.cursor e := by
  induction rounds generalizing s read site with
  | zero => simp [topLevel] at h
  | succ rounds ih =>
    rw [topLevel, run_bind_of_ok (run_current s)] at h
    split at h
    next => simp at h
    next =>
      rcases run_bind_eq_error.1 h with failed | ⟨node, u, ran, h⟩
      · rw [run_settled] at failed
        rcases inside : sub.run s with ⟨e | node, u⟩
        · rw [inside] at failed
          obtain ⟨rfl, -⟩ : e.settle = d ∧ _ := by simpa using failed
          exact ⟨e, rfl, refuses site s e u enough recorded inside⟩
        · simp [inside] at failed
      · obtain ⟨first, reads, derives, recorded'⟩ :=
          hsub site s node u enough recorded (run_settled_eq_ok.1 ran)
        obtain ⟨e, same, refused⟩ := ih h (reads.within enough) recorded'
        exact ⟨e, same, refused.after reads (.statement derives)⟩

theorem complete_eq_append {tokens before after : List Token} {word : Token}
    (h : Cursor.complete tokens = before ++ word :: after) (goesOn : word.isEof = false) :
    ∃ after', tokens = before ++ word :: after' := by
  have added (line : Nat) (h : tokens ++ [Token.eof line] = before ++ word :: after) :
      ∃ after', tokens = before ++ word :: after' := by
    rcases List.eq_nil_or_concat after with rfl | ⟨after', last, rfl⟩
    · obtain ⟨-, rfl⟩ := List.append_inj' h rfl |>.imp_right List.head_eq_of_cons_eq
      simp [Token.isEof, Token.eof] at goesOn
    · rw [List.concat_eq_append, ← List.cons_append, ← List.append_assoc] at h
      exact ⟨after', (List.append_inj' h rfl).1⟩
  unfold Cursor.complete at h
  split at h
  next =>
    split at h
    · exact ⟨after, h⟩
    · exact added _ h
  next none =>
    rw [List.getLast?_eq_none_iff.1 none] at added ⊢
    exact added 1 h

theorem ofTokens_within (options : Options) (tokens : List Token) :
    (Cursor.ofTokens tokens).remaining.length ≤
      (settingsFor defaultLimit options tokens).bound := by
  rw [Cursor.ofTokens, Cursor.ofList_remaining]
  exact Nat.le_succ _

theorem orderly_of_parse_eq_ok {options : Options} {tokens : List Token} {ast : Node}
    (h : (parse options tokens).result = .ok ast) : ast.Orderly [] := by
  obtain ⟨nodes, ending, rfl, derives⟩ := derives_of_accepted h
  exact Node.orderly_of_children ⟨trivial, trivial⟩ (List.forall_mem_map.2 derives.orderly)

theorem placed_of_parse_eq_ok {options : Options} {tokens : List Token} {ast : Node}
    (h : (parse options tokens).result = .ok ast) : ast.Placed [] :=
  (orderly_of_parse_eq_ok h).placed

theorem refused_of_parse_eq_error {options : Options} {tokens : List Token}
    (h : (parse options tokens).result = .error d) :
    ∃ e : Diagnostic, d = e.settle ∧
      Refused (.statement .start) (Cursor.ofTokens tokens) e := by
  let settings := settingsFor defaultLimit options tokens
  obtain ⟨u, ran⟩ : ∃ u,
      (reader defaultLimit options tokens).run (start .initial tokens) = (.error d, u) :=
    ⟨_, Prod.ext h rfl⟩
  rw [reader, program, run_bind_of_ok (run_note _ _)] at ran
  rcases run_bind_eq_error.1 ran with ran | ⟨nodes, v, -, ran⟩
  · exact topLevel_refused (statement_derived settings defaultLimit)
      (statement_refused settings defaultLimit) ran (ofTokens_within options tokens)
      Recorded.initial
  · simp [run_bind_of_ok (run_note _ _)] at ran

/--
In a program every control statement stands in the body of a construct that it can leave, and
`BREAK` and `CONTINUE` carry no value. A refusal is an error of grammar, of types or of a number.
It is for the place of a control statement only at such a word, with every construct that the word
can leave closed there, and then it says so on the line of the word.
-/
theorem control_statements_placed (options : Options) (tokens : List Token) :
    (∀ ast, (parse options tokens).result = .ok ast →
      ∀ contexts control value, ast.Occurs contexts (.controlStatement control value) →
        control.context ∈ contexts ∧ (control.carriesValue = false → value = none)) ∧
    ∀ d, (parse options tokens).result = .error d →
      (d.kind = .grammar ∨ d.kind = .type ∨ d.kind = .number) ∧
      (d.Ordinary ∨ ∃ control : Control, d.message = control.refusal) ∧
      ∀ control : Control, d.message = control.refusal →
        ∃ before word after site, tokens = before ++ word :: after ∧
          (∀ token ∈ before, token.isEof = false) ∧
          Leads (.statement .start) before word (.statement site) ∧
          word.isKeyword control.word = true ∧ control.context ∉ site.contexts ∧
          d.kind = .grammar ∧ d.line = word.line := by
  constructor
  · intro ast ok contexts control value occurs
    simpa using placed_of_parse_eq_ok ok contexts control value occurs
  · intro d failed
    obtain ⟨e, rfl, refused⟩ := refused_of_parse_eq_error failed
    rcases refused with ordinary | ⟨before, c, site, control, value, reads, leads, word, outside,
      rfl⟩
    · rw [ordinary.settle_eq]
      exact ⟨ordinary.kind, .inl ordinary, fun control same =>
        absurd same (ordinary.message_ne control)⟩
    · rw [Diagnostic.settle_misplaced]
      refine ⟨.inl rfl, .inr ⟨control, rfl⟩, fun other same => ?_⟩
      obtain rfl := Control.eq_of_refusal_eq same
      have split := reads.remaining
      rw [Cursor.ofTokens, Cursor.ofList_remaining] at split
      obtain ⟨after, rfl⟩ := complete_eq_append split (Token.not_eof_of_keyword word)
      exact ⟨before, c.current, after, site, rfl, fun token mem => reads.not_eof mem, leads, word,
        outside, rfl, rfl⟩

end Parser

end DeskScript
