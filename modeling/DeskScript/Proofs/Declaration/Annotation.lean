import DeskScript.Proofs.Declaration.Basic
import DeskScript.Proofs.Grammar.Declaration

/-!
Which types are written in assignments, told from the tokens alone. A colon stands only before the
type of an assignment, so what is written for an assignment stands after the first colon on the way
to the next one. `Notes` says what tokens add to this, whatever follows them.
-/

namespace DeskScript

def typeAhead? : List Token → Option String
  | [] => none
  | token :: rest =>
    if token.isKeyword "SET" then none
    else if token.isOperator ":" then rest.head?.map fun name => Text.upper name.text
    else typeAhead? rest

/-- For each assignment, in order, the type that is written in it. -/
def writtenTypes : List Token → List (Option String)
  | [] => []
  | token :: rest =>
    if token.isKeyword "SET" then typeAhead? rest :: writtenTypes rest else writtenTypes rest

namespace Token

variable {token : Token}

structure Quiet (token : Token) : Prop where
  notSet : token.isKeyword "SET" = false
  notColon : token.isOperator ":" = false

theorem quiet_of_kind {kind : Kind} (h : token.kind = kind)
    (ne : kind ≠ .keyword ∧ kind ≠ .operator) : token.Quiet := by
  subst h
  exact ⟨by simp [isKeyword, ne.1], by simp [isOperator, ne.2]⟩

theorem quiet_of_operator {sign : String} (h : token.isOperator sign = true) (ne : sign ≠ ":") :
    token.Quiet := by
  obtain ⟨kind, text⟩ := isOperator_iff.1 h
  exact ⟨by simp [isKeyword, kind], by simp [isOperator, text, ne]⟩

theorem quiet_of_word {word : String} (kind : token.kind = .keyword)
    (h : Text.upper token.text = word) (ne : word ≠ "SET") : token.Quiet := by
  have set : Text.upper "SET" = "SET" := by decide
  refine ⟨?_, by simp [isOperator, kind]⟩
  rw [← Bool.not_eq_true, isKeyword_iff, h, set]
  exact fun both => ne both.2

theorem quiet_of_keyword {word : String} (h : token.isKeyword word = true)
    (ne : Text.upper word ≠ "SET") : token.Quiet :=
  quiet_of_word (isKeyword_iff.1 h).1 (isKeyword_iff.1 h).2 ne

theorem quiet_of_step (h : token.isStep = true) : token.Quiet := by
  rcases Bool.or_eq_true_iff.1 h with h | h <;> exact quiet_of_operator h (by decide)

theorem quiet_of_precedence {level : Nat} (h : token.precedence? = some level) : token.Quiet := by
  refine ⟨Bool.eq_false_iff.2 fun set => ?_, Bool.eq_false_iff.2 fun colon => ?_⟩
  · obtain ⟨kind, text⟩ := isKeyword_iff.1 set
    have other : Text.upper "SET" ≠ Text.upper "OR" ∧ Text.upper "SET" ≠ Text.upper "AND" := by
      decide
    simp [precedence?, kind, isKeyword, Text.sameWord, text, other] at h
  · obtain ⟨kind, text⟩ := isOperator_iff.1 colon
    simp [precedence?, kind, text] at h

theorem quiet_of_category {category : Keyword.Category} (h : token.category? = some category)
    (ne : category ≠ .statement) : token.Quiet := by
  unfold category? at h
  split at h
  next kind =>
    refine quiet_of_word (beq_iff_eq.1 kind) rfl fun set => ?_
    have found : Keyword.category? token.text = some .statement := by
      rw [Keyword.category?, set]
      decide
    rw [found, Option.some.injEq] at h
    exact ne h.symm
  next => simp at h

end Token

open Token (Quiet)

variable {tokens rest : List Token}

theorem typeAhead?_append (quiet : ∀ token ∈ tokens, token.Quiet) (rest : List Token) :
    typeAhead? (tokens ++ rest) = typeAhead? rest := by
  induction tokens with
  | nil => rfl
  | cons token tokens ih =>
    obtain ⟨first, others⟩ := List.forall_mem_cons.1 quiet
    rw [List.cons_append, typeAhead?, first.notSet, first.notColon, ih others]
    rfl

theorem writtenTypes_append (notSet : ∀ token ∈ tokens, token.isKeyword "SET" = false)
    (rest : List Token) : writtenTypes (tokens ++ rest) = writtenTypes rest := by
  induction tokens with
  | nil => rfl
  | cons token tokens ih =>
    obtain ⟨first, others⟩ := List.forall_mem_cons.1 notSet
    rw [List.cons_append, writtenTypes, first, ih others]
    rfl

/--
Tokens in which these types are written, in front of any others that begin with no type of an
assignment before them.
-/
def Notes (tokens : List Token) (notes : List (Option String)) : Prop :=
  ∀ rest, typeAhead? rest = none →
    typeAhead? (tokens ++ rest) = none ∧ writtenTypes (tokens ++ rest) = notes ++ writtenTypes rest

theorem notes_quiet (quiet : ∀ token ∈ tokens, token.Quiet) : Notes tokens [] :=
  fun rest none => ⟨(typeAhead?_append quiet rest).trans none,
    writtenTypes_append (fun token mem => (quiet token mem).notSet) rest⟩

theorem Notes.append {more : List Token} {notes notes' : List (Option String)}
    (first : Notes tokens notes) (second : Notes more notes') :
    Notes (tokens ++ more) (notes ++ notes') := by
  intro rest none
  obtain ⟨ahead, written⟩ := second rest none
  obtain ⟨ahead', written'⟩ := first (more ++ rest) ahead
  rw [List.append_assoc, List.append_assoc]
  exact ⟨ahead', by rw [written', written]⟩

namespace Grammar

theorem Annotation.typeAhead?_append {type : Option String} (hint : Annotation tokens type)
    (rest : List Token) : typeAhead? (tokens ++ rest) = type.or (typeAhead? rest) := by
  cases hint with
  | missing => rfl
  | @stated colon token isColon =>
    have notSet : colon.isKeyword "SET" = false := by
      simp [Token.isKeyword, (Token.isOperator_iff.1 isColon).1]
    simp [typeAhead?, notSet, isColon]

theorem Annotation.notSet {type : Option String} (hint : Annotation tokens type) :
    ∀ token ∈ tokens, token.isKeyword "SET" = false := by
  cases hint with
  | missing => exact List.forall_mem_nil _
  | @stated colon token isColon _ known =>
    have notSet : colon.isKeyword "SET" = false := by
      simp [Token.isKeyword, (Token.isOperator_iff.1 isColon).1]
    refine List.forall_mem_cons.2 ⟨notSet, List.forall_mem_singleton.2 ?_⟩
    refine Bool.eq_false_iff.2 fun set => ?_
    rw [(Token.isKeyword_iff.1 set).2] at known
    revert known
    decide

theorem notes_assignment {word name equals : Token} {before after : List Token}
    {early late : Option String} (set : word.isKeyword "SET" = true) (identifier : name.Quiet)
    (first : Annotation before early) (sign : equals.Quiet)
    (value : ∀ token ∈ tokens, token.Quiet) (second : Annotation after late)
    (once : early = none ∨ late = none) :
    Notes (word :: name :: (before ++ equals :: (tokens ++ after))) [late.or early] := by
  intro rest none
  have ahead : typeAhead? (name :: (before ++ equals :: (tokens ++ after)) ++ rest) =
      late.or early := by
    have shape : name :: (before ++ equals :: (tokens ++ after)) ++ rest =
        [name] ++ (before ++ ((equals :: tokens) ++ (after ++ rest))) := by simp
    rw [shape, typeAhead?_append (List.forall_mem_singleton.2 identifier), first.typeAhead?_append,
      typeAhead?_append (List.forall_mem_cons.2 ⟨sign, value⟩), second.typeAhead?_append, none,
      Option.or_none]
    rcases once with rfl | rfl <;> simp
  have nothing : ∀ token ∈ name :: (before ++ equals :: (tokens ++ after)),
      token.isKeyword "SET" = false := by
    have inValue (token : Token) (mem : token ∈ tokens) := (value token mem).notSet
    simp only [List.forall_mem_cons, List.forall_mem_append]
    exact ⟨identifier.notSet, first.notSet, sign.notSet, inValue, second.notSet⟩
  rw [List.cons_append]
  refine ⟨by rw [typeAhead?, if_pos set], ?_⟩
  rw [writtenTypes, if_pos set, ahead, writtenTypes_append nothing]
  rfl

theorem Numeral.quiet {text : String} {token : Token} {node : Node}
    (numeral : Numeral text token.kind node) : token.Quiet := by
  generalize same : token.kind = kind at numeral
  cases numeral <;> exact Token.quiet_of_kind same (by decide)

theorem Term.Derives.quiet {follow : Token} {term : Term}
    (derives : Term.Derives tokens follow term) : ∀ token ∈ tokens, token.Quiet := by
  induction derives with
  | number numeral => exact List.forall_mem_singleton.2 numeral.quiet
  | negative sign numeral => simp [Token.quiet_of_operator sign (by decide), numeral.quiet]
  | string kind | «variable» kind =>
    exact List.forall_mem_singleton.2 (Token.quiet_of_kind kind (by decide))
  | true word | false word =>
    exact List.forall_mem_singleton.2 (Token.quiet_of_keyword word (by decide))
  | updateAfter kind step | updateBefore step kind =>
    simp [Token.quiet_of_kind kind (by decide), Token.quiet_of_step step]
  | called _ ih | item _ ih | operand _ ih | tighter _ ih => exact ih
  | enclosed opening _ closing ih =>
    have ends := List.forall_mem_singleton.2 (Token.quiet_of_operator closing (by decide))
    exact List.forall_mem_append.2
      ⟨List.forall_mem_cons.2 ⟨Token.quiet_of_operator opening (by decide), ih⟩, ends⟩
  | callEmpty name opening closing =>
    simp [Token.quiet_of_kind name (by decide), Token.quiet_of_operator opening (by decide),
      Token.quiet_of_operator closing (by decide)]
  | call name opening _ closing ih =>
    have starts := List.forall_mem_cons.2 ⟨Token.quiet_of_operator opening (by decide), ih⟩
    have ends := List.forall_mem_singleton.2 (Token.quiet_of_operator closing (by decide))
    exact List.forall_mem_append.2
      ⟨List.forall_mem_cons.2 ⟨Token.quiet_of_kind name (by decide), starts⟩, ends⟩
  | items _ comma _ first rest =>
    exact List.forall_mem_append.2
      ⟨first, List.forall_mem_cons.2 ⟨Token.quiet_of_operator comma (by decide), rest⟩⟩
  | binary _ operator _ left right =>
    exact List.forall_mem_append.2
      ⟨left, List.forall_mem_cons.2 ⟨Token.quiet_of_precedence operator, right⟩⟩

def Term.Plain : Term → Prop
  | .expression _ node | .primary node | .call node => ∀ inside, node.declarations inside = []
  | .items nodes => ∀ node ∈ nodes, ∀ inside, node.declarations inside = []

theorem Numeral.plain {text : String} {kind : Token.Kind} {node : Node}
    (numeral : Numeral text kind node) (inside : Bool) : node.declarations inside = [] := by
  cases numeral <;> rfl

theorem Term.Derives.plain {follow : Token} {term : Term}
    (derives : Term.Derives tokens follow term) : term.Plain := by
  induction derives with
  | number numeral => exact numeral.plain
  | negative _ numeral => exact numeral.plain
  | string | true | false | «variable» | updateAfter | updateBefore | callEmpty =>
    exact fun _ => rfl
  | called _ ih | operand _ ih | tighter _ ih => exact ih
  | enclosed _ _ _ ih => exact ih
  | call _ _ _ _ ih =>
    exact fun inside => Node.declarationsOf_eq_nil fun node mem => ih node mem inside
  | item _ ih => exact List.forall_mem_singleton.2 ih
  | items _ _ _ first rest => exact List.forall_mem_cons.2 ⟨first, rest⟩
  | binary _ _ _ left right =>
    intro inside
    rw [Node.declarations, left inside, right inside, List.append_nil]

end Grammar

end DeskScript
