import DeskScript.Proofs.Parser.Related

/-!
Checks on names only reject. Reading tokens with more checks and with fewer goes the same way, step
by step, until a check fails that only the first makes. Main statement: `parse_stricter`.
-/

namespace DeskScript

structure Options.Within (options stricter : Options) : Prop where
  resolveNames : options.resolveNames = true → stricter.resolveNames = true
  checkArity : options.checkArity = true → stricter.checkArity = true

theorem Options.Within.of_and {options stricter : Options} (within : options.Within stricter)
    (b : Bool) (h : (options.resolveNames && b) = true) : (stricter.resolveNames && b) = true := by
  rw [Bool.and_eq_true] at h ⊢
  exact h.imp_left within.resolveNames

namespace Diagnostic

variable {d : Diagnostic}

def OfCheck (d : Diagnostic) : Prop :=
  match d.cause with
  | .undefinedVariable _ | .undefinedFunction _ | .wrongArity .. => True
  | _ => False

theorem OfCheck.kind (ofCheck : d.OfCheck) : d.kind = .type := by
  obtain ⟨cause, line⟩ := d
  cases cause <;> first | rfl | exact ofCheck.elim

theorem OfCheck.settle_eq (ofCheck : d.OfCheck) : d.settle = d :=
  if_neg (by simp [isControlFlow, ofCheck.kind, Kind.isControlFlow])

theorem OfCheck.message (ofCheck : d.OfCheck) :
    (∃ name : String, d.message = s!"Undefined variable '{name}'") ∨
      (∃ name : String, d.message = s!"Undefined function '{name}'") ∨
      ∃ (name : String) (declared given : Nat),
        d.message = s!"Function '{name}' expects {declared} arguments, got {given}" := by
  obtain ⟨cause, line⟩ := d
  cases cause with
  | undefinedVariable name => exact .inl ⟨name, rfl⟩
  | undefinedFunction name => exact .inr (.inl ⟨name, rfl⟩)
  | wrongArity name declared given => exact .inr (.inr ⟨name, declared, given, rfl⟩)
  | _ => exact ofCheck.elim

end Diagnostic

namespace Parser

variable {α β : Type} {settings other : Settings} {p p' : Parser α} {s : State}

def StricterAt (s : State) (p p' : Parser α) : Prop :=
  p'.run s = p.run s ∨ ∃ d t, p'.run s = (.error d, t) ∧ d.OfCheck

/-- The second parser does what the first does, or fails because of a check. -/
def Stricter (_ : Nat) (α : Type) (p p' : Parser α) : Prop :=
  ∀ s, StricterAt s p p'

theorem StricterAt.bind {f f' : α → Parser β} (hp : StricterAt s p p')
    (hf : ∀ a t, StricterAt t (f a) (f' a)) : StricterAt s (p >>= f) (p' >>= f') := by
  rcases hp with same | ⟨d, t, failed, ofCheck⟩
  · unfold StricterAt
    rw [run_bind, run_bind, same]
    split
    · exact hf _ _
    · exact .inl rfl
  · exact .inr ⟨d, t, by rw [run_bind, failed], ofCheck⟩

theorem StricterAt.between {before after : List Command}
    (hp : StricterAt (Command.applyAll before s) p p') :
    StricterAt s (between before p after) (between before p' after) := by
  unfold StricterAt
  rw [run_between, run_between]
  rcases hp with same | ⟨d, t, failed, ofCheck⟩
  · exact .inl (by rw [same])
  · exact .inr ⟨d, Command.applyAll after t, by rw [failed], ofCheck⟩

theorem StricterAt.settled (hp : StricterAt s p p') : StricterAt s p.settled p'.settled := by
  unfold StricterAt
  rw [run_settled, run_settled]
  rcases hp with same | ⟨d, t, failed, ofCheck⟩
  · exact .inl (by rw [same])
  · rw [failed]
    exact .inr ⟨d, _, Prod.ext (congrArg Except.error ofCheck.settle_eq) rfl, ofCheck⟩

theorem StricterAt.nested (limit : other.limit = settings.limit)
    (hp : StricterAt (Command.deepen.apply s) p p') :
    StricterAt s (nested settings p) (nested other p') := by
  unfold StricterAt
  rw [run_nested, run_nested, run_tooDeep, run_tooDeep, limit]
  split
  · exact .inl rfl
  · have deeper : StricterAt (Command.applyAll [.deepen] s) p p' := hp
    exact deeper.between

theorem requireVariable_stricter (within : settings.options.Within other.options) (name : String) :
    StricterAt s (requireVariable settings name) (requireVariable other name) := by
  unfold StricterAt requireVariable
  rw [run_bind_of_ok (run_scopes s), run_bind_of_ok (run_scopes s)]
  by_cases hidden : (other.options.resolveNames && !s.scopes.seesVariable name) = true
  · rw [if_pos hidden]
    exact .inr ⟨_, s, rfl, trivial⟩
  · have passes := mt (within.of_and _) hidden
    rw [if_neg hidden, if_neg passes]
    exact .inl rfl

theorem checkCall_stricter (within : settings.options.Within other.options) (name : String)
    (given line : Nat) :
    StricterAt s (checkCall settings name given line) (checkCall other name given line) := by
  unfold StricterAt checkCall
  rw [run_bind_of_ok (run_scopes s), run_bind_of_ok (run_scopes s)]
  by_cases hidden : (other.options.resolveNames && !s.scopes.seesFunction name) = true
  · rw [if_pos hidden]
    exact .inr ⟨_, s, rfl, trivial⟩
  · have passes := mt (within.of_and _) hidden
    rw [if_neg hidden, if_neg passes]
    by_cases counted : other.options.checkArity = true
    · rw [if_pos counted]
      cases s.scopes.parametersOf? name with
      | none => exact .inl (by simp)
      | some parameters =>
        by_cases same : parameters.length = given
        · exact .inl (by simp [same])
        · dsimp only
          rw [if_neg same]
          exact .inr ⟨_, s, rfl, trivial⟩
    · rw [if_neg counted, if_neg (mt within.checkArity counted)]
      exact .inl rfl

theorem stricter_related (limit : other.limit = settings.limit)
    (within : settings.options.Within other.options) : Related settings other Stricter where
  limit := limit
  done _ _ := .inl rfl
  failed _ _ := .inl rfl
  look h s := h s.view s
  bind hp hf s := (hp s).bind hf
  advance _ := .inl rfl
  note _ _ := .inl rfl
  declareVariable _ _ _ := .inl rfl
  declareFunction _ _ _ := .inl rfl
  inLoop hp _ := (hp _).between
  inFunction _ hp _ := (hp _).between
  nested hp _ := (hp _).nested limit
  settled hp s := (hp s).settled
  requireVariable name _ := requireVariable_stricter within name
  checkCall name given line _ := checkCall_stricter within name given line

theorem program_stricter (settings other : Settings) (limit : other.limit = settings.limit)
    (rounds : other.bound = settings.bound) (within : settings.options.Within other.options)
    (levels count : Nat) :
    StricterAt s (program settings levels count) (program other levels count) :=
  ((stricter_related limit within).simulation rounds).program (d := 0) (fun _ => trivial)
    (.inl rfl) count s

/--
With every check that some options ask for and perhaps more, tokens are read with exactly the same
outcome as under these options, or they are refused with an error of types that says which name is
not declared or which call has the wrong number of arguments. So what is accepted with more checks
is accepted with fewer, with the same tree and the same scopes.
-/
theorem parse_stricter (options stricter : Options) (within : options.Within stricter)
    (tokens : List Token) :
    (parse stricter tokens = parse options tokens ∨
      ∃ d, (parse stricter tokens).result = .error d ∧ d.kind = .type ∧
        ((∃ name : String, d.message = s!"Undefined variable '{name}'") ∨
          (∃ name : String, d.message = s!"Undefined function '{name}'") ∨
          ∃ (name : String) (declared given : Nat),
            d.message = s!"Function '{name}' expects {declared} arguments, got {given}")) ∧
    ∀ ast, (parse stricter tokens).result = .ok ast →
      parse options tokens = parse stricter tokens := by
  have either : parse stricter tokens = parse options tokens ∨
      ∃ d, (parse stricter tokens).result = .error d ∧ d.OfCheck := by
    have read : StricterAt (start .initial tokens) (reader defaultLimit options tokens)
        (reader defaultLimit stricter tokens) :=
      program_stricter (settingsFor defaultLimit options tokens)
        (settingsFor defaultLimit stricter tokens) rfl rfl within defaultLimit _
    rcases read with same | ⟨d, t, failed, ofCheck⟩
    · refine .inl ?_
      unfold parse parseFrom
      rw [same]
    · exact .inr ⟨d, congrArg Prod.fst failed, ofCheck⟩
  constructor
  · exact either.imp_right fun ⟨d, fails, ofCheck⟩ =>
      ⟨d, fails, ofCheck.kind, ofCheck.message⟩
  · intro ast accepted
    rcases either with same | ⟨d, failed, -⟩
    · exact same.symm
    · rw [accepted] at failed
      cases failed

theorem parse_stricter_assigned :
    Options.none.Within ⟨true, true⟩ ∧
      parse .none
          [⟨.keyword, some "SET", 1⟩, ⟨.identifier, some "x", 1⟩, ⟨.operator, some "=", 1⟩,
            ⟨.integer, some "1", 1⟩, ⟨.keyword, some "PRINT", 2⟩, ⟨.identifier, some "x", 2⟩] =
        parse ⟨true, true⟩
          [⟨.keyword, some "SET", 1⟩, ⟨.identifier, some "x", 1⟩, ⟨.operator, some "=", 1⟩,
            ⟨.integer, some "1", 1⟩, ⟨.keyword, some "PRINT", 2⟩, ⟨.identifier, some "x", 2⟩] := by
  have within : Options.none.Within ⟨true, true⟩ := ⟨fun _ => rfl, fun _ => rfl⟩
  exact ⟨within, (parse_stricter .none ⟨true, true⟩ within _).2
    (.program [.assignment "x" (.integer 1) none, .printStatement "PRINT" (.identifier "x")]) rfl⟩

end Parser

end DeskScript
