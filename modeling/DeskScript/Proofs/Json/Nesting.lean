import DeskScript.Proofs.Json.Layout

/-!
How deep the brackets of a text are nested, told from the text alone. In the text of a value they
are nested as deep as the value is.
-/

namespace DeskScript.Json

open Text (isDigit)

variable {text rest : List Char} {opened : Nat} {c : Char}

/-- Where a place in a text is: outside of quotes, inside, or after a backslash there. -/
inductive Mode where
  | outside
  | quoted
  | escaped

def deepest : Mode → (opened : Nat) → List Char → Nat
  | _, opened, [] => opened
  | .outside, opened, c :: rest =>
    if c = '"' then deepest .quoted opened rest
    else if c = '[' || c = '\x7b' then deepest .outside (opened + 1) rest
    else if c = ']' || c = '\x7d' then max opened (deepest .outside (opened - 1) rest)
    else deepest .outside opened rest
  | .quoted, opened, c :: rest =>
    if c = '"' then deepest .outside opened rest
    else if c = '\\' then deepest .escaped opened rest
    else deepest .quoted opened rest
  | .escaped, opened, _ :: rest => deepest .quoted opened rest

/-- The most brackets that are open in one another in a text; those in quotes do not count. -/
def nesting (text : String) : Nat :=
  deepest .outside 0 text.toList

theorem le_deepest (mode : Mode) (opened : Nat) (text : List Char) :
    opened ≤ deepest mode opened text := by
  fun_induction deepest mode opened text with
  | case1 => exact Nat.le_refl _
  | case3 => omega
  | case4 => exact Nat.le_max_left _ _
  | case2 | case5 | case6 | case7 | case8 | case9 => assumption

def Inert (c : Char) : Prop :=
  c ∉ ['"', '[', ']', '\x7b', '\x7d']

instance (c : Char) : Decidable (Inert c) :=
  inferInstanceAs (Decidable (_ ∉ _))

theorem inert_of_all (all : text.all (decide <| Inert ·) = true) : ∀ c ∈ text, Inert c := by
  simpa using all

theorem deepest_inert (inert : ∀ c ∈ text, Inert c) :
    deepest .outside opened (text ++ rest) = deepest .outside opened rest := by
  induction text with
  | nil => rfl
  | cons c text ih =>
    have ⟨first, others⟩ := List.forall_mem_cons.1 inert
    simp only [Inert, List.mem_cons, List.not_mem_nil, or_false, not_or] at first
    rw [List.cons_append, deepest, if_neg first.1, if_neg (by simp [first]),
      if_neg (by simp [first]), ih others]

theorem inert_of_isDigit (digit : isDigit c = true) : Inert c := by
  simp only [Inert, List.mem_cons, List.not_mem_nil, or_false]
  rintro (rfl | rfl | rfl | rfl | rfl) <;> revert digit <;> decide

theorem inert_of_isSpace (space : isSpace c = true) : Inert c := by
  simp only [Inert, List.mem_cons, List.not_mem_nil, or_false]
  rintro (rfl | rfl | rfl | rfl | rfl) <;> revert space <;> decide

theorem inert_toDigits (n : Nat) : ∀ c ∈ Nat.toDigits 10 n, Inert c :=
  fun c mem => inert_of_isDigit (List.all_eq_true.1 (Decimal.toDigits_isDigit n) c mem)

theorem inert_plain (d : Decimal) : ∀ c ∈ d.plain, Inert c := by
  have digits := inert_toDigits d.digits
  have zeros (n : Nat) : ∀ c ∈ List.replicate n '0', Inert c := by
    intro c mem
    rw [List.eq_of_mem_replicate mem]
    decide
  unfold Decimal.plain
  dsimp only
  split
  · exact List.forall_mem_append.2 ⟨digits, zeros _⟩
  · have padded := List.forall_mem_append.2 ⟨zeros ((-d.exponent).toNat + 1 -
      (Nat.toDigits 10 d.digits).length), digits⟩
    refine List.forall_mem_append.2 ⟨fun c mem => padded c (List.mem_of_mem_take mem), ?_⟩
    exact List.forall_mem_cons.2 ⟨by decide, fun c mem => padded c (List.mem_of_mem_drop mem)⟩

theorem inert_realDigits (d : Decimal) : ∀ c ∈ realDigits d, Inert c := by
  have digits := inert_toDigits d.digits
  unfold realDigits
  dsimp only
  split
  · split
    · exact List.forall_mem_append.2 ⟨inert_plain d, inert_of_all (by decide)⟩
    · exact inert_plain d
  · generalize Nat.toDigits 10 d.digits = all at digits ⊢
    refine List.forall_mem_append.2 ⟨?_, List.forall_mem_cons.2 ⟨by decide, ?_⟩⟩
    · split
      next first second rest =>
        obtain ⟨first, others⟩ := List.forall_mem_cons.1 digits
        exact List.forall_mem_cons.2 ⟨first, List.forall_mem_cons.2 ⟨by decide, others⟩⟩
      next => exact digits
    · refine List.forall_mem_cons.2 ⟨?_, inert_toDigits _⟩
      split <;> decide

theorem inert_numberText (number : Number) : ∀ c ∈ numberText number, Inert c := by
  cases number with
  | whole n =>
    rw [numberText, wholeText]
    split
    · exact List.forall_mem_cons.2 ⟨by decide, inert_toDigits _⟩
    · exact inert_toDigits _
  | real x =>
    rw [numberText, realText]
    split
    · dsimp only
      split
      · exact List.forall_mem_cons.2 ⟨by decide, inert_realDigits _⟩
      · exact inert_realDigits _
    · exact inert_of_all (by decide)

theorem deepest_escape (c : Char) :
    deepest .quoted opened (escape c ++ rest) = deepest .quoted opened rest := by
  unfold escape
  iterate 7
    split
    next => rfl
  split
  next control =>
    have plain : ∀ n < 16, hexDigit n ≠ '"' ∧ hexDigit n ≠ '\\' := by decide
    have high := plain (c.toNat / 16) (by omega)
    have low := plain (c.toNat % 16) (by omega)
    simp [deepest, high, low]
  next => simp [deepest, *]

theorem deepest_writeText (text : String) (rest : List Char) :
    deepest .outside opened (writeText text rest) = deepest .outside opened rest := by
  have inside (characters : List Char) :
      deepest .quoted opened (characters.flatMap escape ++ '"' :: rest) =
        deepest .outside opened rest := by
    induction characters with
    | nil => rfl
    | cons c characters ih =>
      rw [List.flatMap_cons, List.append_assoc, deepest_escape, ih]
  rw [writeText, List.cons_append, deepest, if_pos rfl, inside]

variable (layout : Layout)

theorem deepest_newLine (level : Nat) :
    deepest .outside opened (layout.newLine level ++ rest) = deepest .outside opened rest :=
  deepest_inert fun c mem => inert_of_isSpace (layout.newLine_blank level c mem)

theorem deepest_word (value : Option Bool) :
    deepest .outside opened (word value ++ rest) = deepest .outside opened rest := by
  refine deepest_inert (inert_of_all ?_)
  rcases value with - | - | - <;> decide

theorem deepest_name (name : String) :
    deepest .outside opened (writeText name (':' :: (layout.afterColon ++ rest))) =
      deepest .outside opened rest := by
  have blanks : ∀ c ∈ layout.afterColon, Inert c :=
    fun c mem => inert_of_isSpace (layout.afterColon_blank c mem)
  have colon : ∀ c ∈ ':' :: layout.afterColon, Inert c :=
    List.forall_mem_cons.2 ⟨by decide, blanks⟩
  rw [deepest_writeText, ← List.cons_append, deepest_inert colon]

theorem deepest_open (bracket : c = '[' ∨ c = '\x7b') :
    deepest .outside opened (c :: rest) = deepest .outside (opened + 1) rest := by
  rcases bracket with rfl | rfl <;> rfl

theorem deepest_close (bracket : c = ']' ∨ c = '\x7d') :
    deepest .outside (opened + 1) (c :: rest) =
      max (opened + 1) (deepest .outside opened rest) := by
  rcases bracket with rfl | rfl <;> rfl

theorem deepest_comma : deepest .outside opened (',' :: rest) = deepest .outside opened rest :=
  rfl

mutual

theorem deepest_write : (json : Json) → (level opened : Nat) → (rest : List Char) →
    deepest .outside opened (write layout level json rest) =
      max (opened + json.depth) (deepest .outside opened rest)
  | .null, level, opened, rest => by
    rw [write, deepest_word, depth, Nat.add_zero, Nat.max_eq_right (le_deepest _ _ _)]
  | .bool value, level, opened, rest => by
    rw [write, deepest_word, depth, Nat.add_zero, Nat.max_eq_right (le_deepest _ _ _)]
  | .number n, level, opened, rest => by
    rw [write, deepest_inert (inert_numberText n), depth, Nat.add_zero,
      Nat.max_eq_right (le_deepest _ _ _)]
  | .string text, level, opened, rest => by
    rw [write, deepest_writeText, depth, Nat.add_zero, Nat.max_eq_right (le_deepest _ _ _)]
  | .array [], level, opened, rest => rfl
  | .array (item :: items), level, opened, rest => by
    rw [write, deepest_open (.inl rfl), deepest_newLine, deepest_write item,
      deepest_writeItems items, deepest_newLine, deepest_close (.inl rfl), depth, itemsDepth]
    omega
  | .object [], level, opened, rest => rfl
  | .object ((name, value) :: members), level, opened, rest => by
    rw [write, deepest_open (.inr rfl), deepest_newLine, deepest_name, deepest_write value,
      deepest_writeMembers members, deepest_newLine, deepest_close (.inr rfl), depth, membersDepth]
    omega

theorem deepest_writeItems : (items : List Json) → (level opened : Nat) → (rest : List Char) →
    deepest .outside opened (writeItems layout level items rest) =
      max (opened + itemsDepth items) (deepest .outside opened rest)
  | [], level, opened, rest => by
    rw [writeItems, itemsDepth, Nat.add_zero, Nat.max_eq_right (le_deepest _ _ _)]
  | item :: items, level, opened, rest => by
    rw [writeItems, deepest_comma, deepest_newLine, deepest_write item, deepest_writeItems items,
      itemsDepth]
    omega

theorem deepest_writeMembers : (members : List (String × Json)) → (level opened : Nat) →
    (rest : List Char) → deepest .outside opened (writeMembers layout level members rest) =
      max (opened + membersDepth members) (deepest .outside opened rest)
  | [], level, opened, rest => by
    rw [writeMembers, membersDepth, Nat.add_zero, Nat.max_eq_right (le_deepest _ _ _)]
  | (name, value) :: members, level, opened, rest => by
    rw [writeMembers, deepest_comma, deepest_newLine, deepest_name, deepest_write value,
      deepest_writeMembers members, membersDepth]
    omega

end

theorem nesting_compact (json : Json) : nesting json.compact = json.depth := by
  rw [nesting, compact, String.toList_ofList, ← write_compact 0, deepest_write, Nat.zero_add]
  exact Nat.max_eq_left (Nat.zero_le _)

end DeskScript.Json
