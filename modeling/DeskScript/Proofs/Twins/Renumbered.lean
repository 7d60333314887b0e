import Mathlib.Data.List.Forall2
import DeskScript.Proofs.Twins.Lookahead

/-!
Lists of tokens that are alike from the first token to the last. If a likeness holds all along, the
two parses build the same tree and leave the same scopes, or both fail with diagnostics that are
alike. Numbering the lines of a list anew is one such case: only whether two tokens stand on one
line makes a difference. Main statement: `parse_renumbered`.
-/

namespace DeskScript

theorem getLast?_rel {α β : Type} {R : α → β → Prop} {l : List α} {l' : List β}
    (h : List.Forall₂ R l l') : Option.Rel R l.getLast? l'.getLast? := by
  have back : List.Forall₂ R l.reverse l'.reverse := List.rel_reverse h
  rw [← List.head?_reverse, ← List.head?_reverse]
  generalize l.reverse = backwards at back ⊢
  generalize l'.reverse = backwards' at back ⊢
  cases back with
  | nil => exact .none
  | cons last _ => exact .some last

namespace Likeness

variable {like : Likeness} {tokens tokens' : List Token}

inductive Results (like : Likeness) :
    Except Diagnostic Node → Except Diagnostic Node → Prop where
  | ok (ast : Node) : Results like (.ok ast) (.ok ast)
  | error {d d' : Diagnostic} : like.Diagnostics d d' → Results like (.error d) (.error d')

theorem complete_alike (alike : List.Forall₂ like.Tokens tokens tokens')
    (empty : tokens = [] → like.line 1 1) (ending : like.text .eof "" "") :
    List.Forall₂ like.Tokens (Cursor.complete tokens) (Cursor.complete tokens') := by
  have added {line line' : Nat} (lines : like.line line line') :
      List.Forall₂ like.Tokens [.eof line] [.eof line'] := .cons ⟨⟨rfl, ending⟩, lines⟩ .nil
  have lasts := getLast?_rel alike
  unfold Cursor.complete
  generalize found : tokens.getLast? = last at lasts
  generalize tokens'.getLast? = last' at lasts
  cases lasts with
  | none => exact added (empty (List.getLast?_eq_none_iff.1 found))
  | some same =>
    dsimp only
    rw [← same.isEof_eq]
    split
    · exact alike
    · exact List.rel_append alike (added same.line)

end Likeness

def Twins.throughout {like : Likeness} {first second : List Token}
    (alike : List.Forall₂ like.Tokens first second) : Twins where
  toLikeness := like
  first := first
  second := second
  reach := first.length
  reached := by
    intro i t t' _ found found'
    obtain ⟨le, rfl⟩ := List.getElem?_eq_some_iff.1 found
    obtain ⟨le', rfl⟩ := List.getElem?_eq_some_iff.1 found'
    exact alike.get le le'
  foreseen := by
    intro t _ _ _ found
    rw [List.getElem?_eq_none (Nat.le_refl _)] at found
    cases found

namespace Parser

variable {like : Likeness} {tokens tokens' : List Token}

theorem parse_alike (options : Options) (alike : List.Forall₂ like.Tokens tokens tokens')
    (empty : tokens = [] → like.line 1 1) (ending : like.text .eof "" "") :
    like.Results (parse options tokens).result (parse options tokens').result ∧
      (parse options tokens).scopes = (parse options tokens').scopes := by
  have whole := Likeness.complete_alike alike empty ending
  have within : (parse options tokens).position ≤ (Cursor.complete tokens).length := by
    obtain ⟨ended, mem, eof⟩ := Cursor.complete_ending tokens
    obtain ⟨before, after, split⟩ := List.append_of_mem mem
    have le : (parse options tokens).position ≤ before.length := parse_position_le split eof
    rw [split, List.length_append]
    exact Nat.le_add_right_of_le le
  have matched : (Twins.throughout whole).Matched Eq _ _ :=
    Twins.matched_reader defaultLimit options .initial rfl rfl within
  unfold parse parseFrom
  generalize (reader defaultLimit options tokens).run (start .initial tokens) = ran at matched ⊢
  generalize (reader defaultLimit options tokens').run (start .initial tokens') = ran' at matched ⊢
  cases matched with
  | ok same abreast => exact ⟨same ▸ .ok _, abreast.scopes⟩
  | error alike abreast => exact ⟨.error alike, abreast.scopes⟩

end Parser

def Token.renumbered (f : Nat → Nat) (token : Token) : Token :=
  { token with line := f token.line }

def Likeness.renumbering {f : Nat → Nat} {tokens : List Token}
    (apart : ∀ t ∈ tokens, ∀ u ∈ tokens, f t.line = f u.line → t.line = u.line) : Likeness where
  text _ a b := a = b
  line a b := b = f a ∧ ∃ token ∈ tokens, token.line = a
  exact h _ := h
  upper := congrArg Text.upper
  apart := by
    rintro _ _ _ _ ⟨rfl, t, mem, rfl⟩ ⟨rfl, u, mem', rfl⟩
    exact ⟨congrArg f, apart t mem u mem'⟩

namespace Parser

/--
Only whether tokens stand on one line matters. If each line of the tokens gets a new number, and no
two of them the same one, then the tree and the scopes stay as they are, and a failure keeps its
cause, so its kind and its words, and gets the new number of its line.
-/
theorem parse_renumbered (options : Options) {tokens : List Token} (some : tokens ≠ [])
    {f : Nat → Nat}
    (apart : ∀ t ∈ tokens, ∀ u ∈ tokens, f t.line = f u.line → t.line = u.line) :
    (∀ ast, (parse options tokens).result = .ok ast →
      (parse options (tokens.map (·.renumbered f))).result = .ok ast) ∧
    (∀ cause line, (parse options tokens).result = .error ⟨cause, line⟩ →
      (parse options (tokens.map (·.renumbered f))).result = .error ⟨cause, f line⟩) ∧
    (parse options (tokens.map (·.renumbered f))).scopes = (parse options tokens).scopes := by
  let like := Likeness.renumbering apart
  have alike : List.Forall₂ like.Tokens tokens (tokens.map (·.renumbered f)) := by
    rw [List.forall₂_map_right_iff, List.forall₂_same]
    exact fun token mem => ⟨⟨rfl, rfl⟩, rfl, token, mem, rfl⟩
  obtain ⟨results, scopes⟩ := parse_alike options alike (absurd · some) rfl
  refine ⟨fun ast read => ?_, fun cause line failed => ?_, scopes.symm⟩
  · rw [read] at results
    generalize (parse options (tokens.map (·.renumbered f))).result = result at results ⊢
    cases results
    rfl
  · rw [failed] at results
    generalize (parse options (tokens.map (·.renumbered f))).result = result at results ⊢
    cases results with
    | @error _ d' alike =>
      obtain ⟨cause', line'⟩ := d'
      obtain ⟨causes, rfl : line' = f line, -⟩ := alike
      obtain rfl : cause = cause' := causes.eq id
      rfl

def stepped : List Token :=
  [⟨.keyword, some "PRINT", 3⟩, ⟨.identifier, some "x", 3⟩, ⟨.operator, some "++", 5⟩,
    ⟨.integer, some "1", 8⟩]

theorem parse_renumbered_stepped :
    ∃ cause, (parse .none stepped).result = .error ⟨cause, 8⟩ ∧
      (parse .none (stepped.map (·.renumbered (10 - ·)))).result = .error ⟨cause, 2⟩ := by
  have some : stepped ≠ [] := by decide
  have apart : ∀ t ∈ stepped, ∀ u ∈ stepped, 10 - t.line = 10 - u.line → t.line = u.line := by
    decide
  refine ⟨.expected (.variableAfter "++") .integer "1", rfl, ?_⟩
  exact (parse_renumbered .none some apart).2.1 _ 8 rfl

end Parser

end DeskScript
