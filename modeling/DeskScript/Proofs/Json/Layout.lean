import DeskScript.Proofs.Json.Scalar

/-!
Values are read back from their text in any layout, as far as the levels suffice.
-/

namespace DeskScript.Json

open Text (isDigit)

variable {rest gap : List Char}

/-- What stands before each item or member on a level, and after each colon. -/
structure Layout where
  newLine : Nat → List Char
  afterColon : List Char
  newLine_blank : ∀ level, ∀ c ∈ newLine level, isSpace c = true
  afterColon_blank : ∀ c ∈ afterColon, isSpace c = true

def Layout.compact : Layout :=
  ⟨fun _ => [], [], by simp, by simp⟩

def Layout.pretty : Layout where
  newLine level := '\n' :: List.replicate (2 * level) ' '
  afterColon := [' ']
  newLine_blank level c mem := by
    rcases List.mem_cons.1 mem with rfl | mem
    · rfl
    · rw [List.eq_of_mem_replicate mem]
      rfl
  afterColon_blank c mem := by
    rw [List.mem_singleton.1 mem]
    rfl

def word : Option Bool → List Char
  | none => "null".toList
  | some true => "true".toList
  | some false => "false".toList

mutual

def write (layout : Layout) (level : Nat) : Json → List Char → List Char
  | .null, rest => word none ++ rest
  | .bool value, rest => word (some value) ++ rest
  | .number n, rest => numberText n ++ rest
  | .string text, rest => writeText text rest
  | .array [], rest => '[' :: ']' :: rest
  | .array (item :: items), rest =>
    '[' :: (layout.newLine (level + 1) ++ write layout (level + 1) item
      (writeItems layout (level + 1) items (layout.newLine level ++ ']' :: rest)))
  | .object [], rest => '\x7b' :: '\x7d' :: rest
  | .object ((name, value) :: members), rest =>
    '\x7b' :: (layout.newLine (level + 1) ++ writeText name (':' :: (layout.afterColon ++
      write layout (level + 1) value
        (writeMembers layout (level + 1) members (layout.newLine level ++ '\x7d' :: rest)))))

def writeItems (layout : Layout) (level : Nat) : List Json → List Char → List Char
  | [], rest => rest
  | item :: items, rest =>
    ',' :: (layout.newLine level ++ write layout level item (writeItems layout level items rest))

def writeMembers (layout : Layout) (level : Nat) : List (String × Json) → List Char → List Char
  | [], rest => rest
  | (name, value) :: members, rest =>
    ',' :: (layout.newLine level ++ writeText name (':' :: (layout.afterColon ++
      write layout level value (writeMembers layout level members rest))))

end

mutual

theorem write_compact (level : Nat) : (json : Json) → (rest : List Char) →
    write .compact level json rest = writeCompact json rest
  | .null, _ | .bool true, _ | .bool false, _ | .number _, _ | .string _, _ | .array [], _
  | .object [], _ => rfl
  | .array (item :: items), rest => by
    rw [write, write_compact, writeItems_compact]
    rfl
  | .object ((name, value) :: members), rest => by
    rw [write, write_compact, writeMembers_compact]
    rfl

theorem writeItems_compact (level : Nat) : (items : List Json) → (rest : List Char) →
    writeItems .compact level items rest = compactItems items rest
  | [], _ => rfl
  | item :: items, rest => by
    rw [writeItems, write_compact, writeItems_compact]
    rfl

theorem writeMembers_compact (level : Nat) : (members : List (String × Json)) →
    (rest : List Char) → writeMembers .compact level members rest = compactMembers members rest
  | [], _ => rfl
  | (name, value) :: members, rest => by
    rw [writeMembers, write_compact, writeMembers_compact]
    rfl

end

mutual

theorem write_pretty (level : Nat) : (json : Json) → (rest : List Char) →
    write .pretty level json rest = writePretty level json rest
  | .null, _ | .bool true, _ | .bool false, _ | .number _, _ | .string _, _ | .array [], _
  | .object [], _ => rfl
  | .array (item :: items), rest => by
    rw [write, write_pretty, writeItems_pretty]
    rfl
  | .object ((name, value) :: members), rest => by
    rw [write, write_pretty, writeMembers_pretty]
    rfl

theorem writeItems_pretty (level : Nat) : (items : List Json) → (rest : List Char) →
    writeItems .pretty level items rest = prettyItems level items rest
  | [], _ => rfl
  | item :: items, rest => by
    rw [writeItems, write_pretty, writeItems_pretty]
    rfl

theorem writeMembers_pretty (level : Nat) : (members : List (String × Json)) →
    (rest : List Char) → writeMembers .pretty level members rest = prettyMembers level members rest
  | [], _ => rfl
  | (name, value) :: members, rest => by
    rw [writeMembers, write_pretty, writeMembers_pretty]
    rfl

end

theorem closed_of_isSpace {c : Char} (space : isSpace c = true) : Closed (c :: rest) := by
  simp only [isSpace, Bool.or_eq_true, beq_iff_eq] at space
  rw [closed_cons]
  rcases space with ((rfl | rfl) | rfl) | rfl <;> decide

theorem closed_append (blank : ∀ c ∈ gap, isSpace c = true) (closed : Closed rest) :
    Closed (gap ++ rest) := by
  cases gap with
  | nil => exact closed
  | cons c gap => exact closed_of_isSpace (blank c List.mem_cons_self)

theorem skipSpace_append (blank : ∀ c ∈ gap, isSpace c = true) :
    skipSpace (gap ++ rest) = skipSpace rest := by
  rw [skipSpace, List.dropWhile_append_of_pos blank, skipSpace]

theorem skipSpace_cons {c : Char} (solid : isSpace c = false) :
    skipSpace (c :: rest) = c :: rest :=
  List.dropWhile_cons_of_neg (by simp [solid])

variable {layout : Layout} {level : Nat} {json : Json}

theorem closed_closing (layout : Layout) (level : Nat) (rest : List Char) {c : Char}
    (bracket : c = ']' ∨ c = '\x7d') : Closed (layout.newLine level ++ c :: rest) := by
  refine closed_append (layout.newLine_blank level) (closed_cons.2 ?_)
  rcases bracket with rfl | rfl <;> decide

theorem closed_writeItems (items : List Json) (closed : Closed rest) :
    Closed (writeItems layout level items rest) := by
  cases items with
  | nil => exact closed
  | cons item items => exact closed_cons.2 (by decide)

theorem closed_writeMembers (members : List (String × Json)) (closed : Closed rest) :
    Closed (writeMembers layout level members rest) := by
  cases members with
  | nil => exact closed
  | cons member members => exact closed_cons.2 (by decide)

inductive Survives : Json → Prop where
  | null : Survives .null
  | bool {value : Bool} : Survives (.bool value)
  | number {number : Number} : number.Survives → Survives (.number number)
  | string {text : String} : Survives (.string text)
  | array {items : List Json} : (∀ item ∈ items, Survives item) → Survives (.array items)
  | object {members : List (String × Json)} : (∀ member ∈ members, Survives member.2) →
    Survives (.object members)

theorem write_start (survives : json.Survives) (layout : Layout) (level : Nat) (rest : List Char) :
    ∃ c more, write layout level json rest = c :: more ∧ isSpace c = false ∧ c ≠ ']' := by
  cases survives with
  | null => exact ⟨_, _, rfl, by decide, by decide⟩
  | @bool value => cases value <;> exact ⟨_, _, rfl, by decide, by decide⟩
  | string => exact ⟨_, _, rfl, by decide, by decide⟩
  | @array items => cases items <;> exact ⟨_, _, rfl, by decide, by decide⟩
  | @object members => cases members <;> exact ⟨_, _, rfl, by decide, by decide⟩
  | number survives =>
    obtain ⟨c, more, first, start⟩ := survives.start
    refine ⟨c, more ++ rest, by rw [write, first, List.cons_append], ?_⟩
    rcases start with rfl | digit
    · decide
    · refine ⟨?_, fun same => ?_⟩
      · rw [Bool.eq_false_iff]
        intro space
        have closed : Closed [c] := closed_of_isSpace space
        simp [(closed_cons.1 closed).1] at digit
      · simp [same, isDigit] at digit

theorem length_lt_writeText (text : String) (rest : List Char) :
    rest.length < (writeText text rest).length := by
  simp only [writeText, List.length_append, List.length_cons]
  omega

theorem length_le_writeItems {items : List Json}
    (longer : ∀ item ∈ items, ∀ rest, rest.length < (write layout level item rest).length)
    (rest : List Char) : rest.length ≤ (writeItems layout level items rest).length := by
  induction items with
  | nil => exact Nat.le_refl _
  | cons item items ih =>
    have first := longer item List.mem_cons_self (writeItems layout level items rest)
    have others := ih fun item mem => longer item (List.mem_cons_of_mem _ mem)
    simp only [writeItems, List.length_cons, List.length_append]
    omega

theorem length_le_writeMembers {members : List (String × Json)}
    (longer : ∀ member ∈ members, ∀ rest,
      rest.length < (write layout level member.2 rest).length)
    (rest : List Char) : rest.length ≤ (writeMembers layout level members rest).length := by
  induction members with
  | nil => exact Nat.le_refl _
  | cons member members ih =>
    have first := longer member List.mem_cons_self (writeMembers layout level members rest)
    have others := ih fun member mem => longer member (List.mem_cons_of_mem _ mem)
    have name := length_lt_writeText member.1 (':' :: (layout.afterColon ++
      write layout level member.2 (writeMembers layout level members rest)))
    simp only [writeMembers, List.length_cons, List.length_append] at name ⊢
    omega

theorem length_lt_write (survives : json.Survives) (layout : Layout) (level : Nat)
    (rest : List Char) : rest.length < (write layout level json rest).length := by
  induction survives generalizing level rest with
  | null =>
    simp only [write, List.length_append]
    exact Nat.lt_add_of_pos_left (by decide)
  | @bool value =>
    simp only [write, List.length_append]
    exact Nat.lt_add_of_pos_left (by cases value <;> decide)
  | string => exact length_lt_writeText _ _
  | number survives =>
    obtain ⟨c, more, first, -⟩ := survives.start
    simp [write, first]
  | @array items survive ih =>
    cases items with
    | nil => simp [write]
    | cons item items =>
      let closing := layout.newLine level ++ ']' :: rest
      have first := ih item List.mem_cons_self (level + 1)
        (writeItems layout (level + 1) items closing)
      have others := length_le_writeItems
        (fun item mem => ih item (List.mem_cons_of_mem _ mem) (level + 1)) closing
      simp only [write, closing, List.length_cons, List.length_append] at first others ⊢
      omega
  | @object members survive ih =>
    cases members with
    | nil => simp [write]
    | cons member members =>
      let closing := layout.newLine level ++ '\x7d' :: rest
      have first := ih member List.mem_cons_self (level + 1)
        (writeMembers layout (level + 1) members closing)
      have others := length_le_writeMembers
        (fun member mem => ih member (List.mem_cons_of_mem _ mem) (level + 1)) closing
      have name := length_lt_writeText member.1 (':' :: (layout.afterColon ++
        write layout (level + 1) member.2 (writeMembers layout (level + 1) members closing)))
      simp only [write, closing, List.length_cons, List.length_append] at first name others ⊢
      omega

theorem length_lt_member (name : String) (survives : json.Survives) (layout : Layout) (level : Nat)
    (tail : List Char) :
    tail.length < (write layout level json tail).length ∧
      (write layout level json tail).length <
        (writeText name (':' :: (layout.afterColon ++ write layout level json tail))).length := by
  have longer := length_lt_writeText name
    (':' :: (layout.afterColon ++ write layout level json tail))
  simp only [List.length_cons, List.length_append] at longer
  exact ⟨length_lt_write survives layout level tail, by omega⟩

variable {σ : Type} {state : σ} {bound n : Nat}

theorem ok_bind {α β : Type} (a : α) (f : α → Except Fault β) : (Except.ok a >>= f) = f a :=
  rfl

theorem map_bind {α β γ : Type} (read : Except Fault α) (f : α → β) (g : β → Except Fault γ) :
    (read.map f >>= g) = read >>= fun a => g (f a) := by
  cases read <;> rfl

theorem bind_eq_foldlM {α : Type} {take : σ → α → Except Fault σ} {first : α} {all : List α}
    {read : Except Fault (σ × List Char)} {next : σ → Reader σ} {tail : List Char}
    (taken : read = (take state first).map (·, tail))
    (others : ∀ state, next state tail = (all.foldlM take state).map (·, rest)) :
    (read >>= fun (state, tail) => next state tail) =
      ((first :: all).foldlM take state).map (·, rest) := by
  rw [taken, map_bind, List.foldlM_cons]
  cases take state first with
  | error fault => rfl
  | ok state => exact others state

section Items

variable {item : σ → Reader σ} {take : σ → Json → Except Fault σ} {items : List Json}

def ReadsItem (layout : Layout) (level bound : Nat) (item : σ → Reader σ)
    (take : σ → Json → Except Fault σ) (json : Json) : Prop :=
  ∀ state rest, Closed rest → (write layout level json rest).length ≤ bound →
    item state (write layout level json rest) = (take state json).map (·, rest)

theorem readItems_first (survives : json.Survives) (tail : List Char) :
    readItems item (n + 1) true state (layout.newLine level ++ write layout level json tail) =
      item state (write layout level json tail) >>= fun (state, tail) =>
        readItems item n false state tail := by
  obtain ⟨c, more, starts, solid, goesOn⟩ := write_start survives layout level tail
  rw [readItems, skipSpace_append (layout.newLine_blank _), starts, skipSpace_cons solid]
  dsimp only
  rw [if_neg goesOn, if_pos rfl]

theorem readItems_next (survives : json.Survives) (tail : List Char) :
    readItems item (n + 1) false state
        (',' :: (layout.newLine level ++ write layout level json tail)) =
      item state (write layout level json tail) >>= fun (state, tail) =>
        readItems item n false state tail := by
  obtain ⟨c, more, starts, solid, goesOn⟩ := write_start survives layout level tail
  rw [readItems, skipSpace_cons (by decide)]
  dsimp only
  rw [if_neg (by decide), if_neg (by decide), if_pos rfl,
    skipSpace_append (layout.newLine_blank level), starts, skipSpace_cons solid]
  dsimp only
  rw [if_neg goesOn]

theorem readItems_writeItems (survive : ∀ json ∈ items, json.Survives)
    (reads : ∀ json ∈ items, ReadsItem layout level bound item take json)
    (below : Nat) (rest : List Char) (state : σ)
    (enough : (writeItems layout level items (layout.newLine below ++ ']' :: rest)).length ≤ n)
    (le : n ≤ bound) :
    readItems item n false state
        (writeItems layout level items (layout.newLine below ++ ']' :: rest)) =
      (items.foldlM take state).map (·, rest) := by
  -- the text left is never longer than the rounds left, and each item takes one round
  induction items generalizing n state with
  | nil =>
    cases n with
    | zero => simp [writeItems] at enough
    | succ n =>
      rw [writeItems, readItems, skipSpace_append (layout.newLine_blank below),
        skipSpace_cons (by decide)]
      rfl
  | cons first items ih =>
    have ⟨survives, survive'⟩ := List.forall_mem_cons.1 survive
    have ⟨readsFirst, reads'⟩ := List.forall_mem_cons.1 reads
    have closed : Closed (writeItems layout level items _) := closed_writeItems items
      (closed_closing layout below rest (.inl rfl))
    have shorter := length_lt_write survives layout level
      (writeItems layout level items (layout.newLine below ++ ']' :: rest))
    rw [writeItems] at enough ⊢
    simp only [List.length_cons, List.length_append] at enough
    cases n with
    | zero => omega
    | succ n =>
      have others (state : σ) := @ih n survive' reads' state (by omega) (by omega)
      rw [readItems_next survives]
      exact bind_eq_foldlM (readsFirst state _ closed (by omega)) others

theorem readItems_array (survive : ∀ json ∈ items, json.Survives)
    (reads : ∀ json ∈ items, ReadsItem layout (level + 1) bound item take json)
    (rest : List Char) (state : σ)
    (enough : (write layout level (.array items) rest).length ≤ n) (le : n ≤ bound) :
    ∃ inside, write layout level (.array items) rest = '[' :: inside ∧
      readItems item n true state inside = (items.foldlM take state).map (·, rest) := by
  obtain ⟨n, rfl⟩ : ∃ fewer, n = fewer + 1 := by
    have some := length_lt_write (.array survive) layout level rest
    exact Nat.exists_eq_add_one.2 (by omega)
  cases items with
  | nil => exact ⟨_, rfl, rfl⟩
  | cons first items =>
    have ⟨survives, survive'⟩ := List.forall_mem_cons.1 survive
    have ⟨readsFirst, reads'⟩ := List.forall_mem_cons.1 reads
    have closed : Closed (writeItems layout (level + 1) items _) := closed_writeItems items
      (closed_closing layout level rest (.inl rfl))
    have shorter := length_lt_write survives layout (level + 1)
      (writeItems layout (level + 1) items (layout.newLine level ++ ']' :: rest))
    rw [write] at enough
    simp only [List.length_cons, List.length_append] at enough
    have others (state : σ) :=
      readItems_writeItems (n := n) survive' reads' level rest state (by omega) (by omega)
    refine ⟨_, rfl, ?_⟩
    rw [readItems_first survives]
    exact bind_eq_foldlM (readsFirst state _ closed (by omega)) others

end Items

section Members

variable {member : σ → String → Reader σ} {take : σ → String × Json → Except Fault σ}
variable {members : List (String × Json)}

def ReadsMember (layout : Layout) (level bound : Nat) (member : σ → String → Reader σ)
    (take : σ → String × Json → Except Fault σ) (entry : String × Json) : Prop :=
  ∀ state rest, Closed rest → (write layout level entry.2 rest).length ≤ bound →
    member state entry.1 (':' :: (layout.afterColon ++ write layout level entry.2 rest)) =
      (take state entry).map (·, rest)

theorem skipSpace_writeText (text : String) (rest : List Char) :
    skipSpace (writeText text rest) = writeText text rest := by
  rw [writeText, List.cons_append, skipSpace_cons (by decide)]

theorem readName_writeText (name : String) (rest : List Char) :
    readName (writeText name rest) = .ok (name, rest) := by
  rw [writeText, List.cons_append, readName, if_pos rfl, readText_escaped]

theorem readMembers_first (name : String) (tail : List Char) :
    readMembers member (n + 1) true state (layout.newLine level ++ writeText name tail) =
      member state name tail >>= fun (state, tail) =>
        readMembers member n false state tail := by
  have read := readName_writeText name tail
  rw [readMembers, skipSpace_append (layout.newLine_blank _), skipSpace_writeText]
  rw [writeText, List.cons_append] at read ⊢
  dsimp only
  rw [if_neg (by decide), if_pos (by decide), if_pos rfl, read, ok_bind]

theorem readMembers_next (name : String) (tail : List Char) :
    readMembers member (n + 1) false state
        (',' :: (layout.newLine level ++ writeText name tail)) =
      member state name tail >>= fun (state, tail) =>
        readMembers member n false state tail := by
  rw [readMembers, skipSpace_cons (by decide)]
  dsimp only
  rw [if_neg (by decide), if_pos (by decide), if_neg (by decide),
    skipSpace_append (layout.newLine_blank level), skipSpace_writeText, readName_writeText, ok_bind]

theorem readMembers_writeMembers (survive : ∀ entry ∈ members, entry.2.Survives)
    (reads : ∀ entry ∈ members, ReadsMember layout level bound member take entry)
    (below : Nat) (rest : List Char) (state : σ)
    (enough :
      (writeMembers layout level members (layout.newLine below ++ '\x7d' :: rest)).length ≤ n)
    (le : n ≤ bound) :
    readMembers member n false state
        (writeMembers layout level members (layout.newLine below ++ '\x7d' :: rest)) =
      (members.foldlM take state).map (·, rest) := by
  induction members generalizing n state with
  | nil =>
    cases n with
    | zero => simp [writeMembers] at enough
    | succ n =>
      rw [writeMembers, readMembers, skipSpace_append (layout.newLine_blank below),
        skipSpace_cons (by decide)]
      rfl
  | cons first members ih =>
    have ⟨survives, survive'⟩ := List.forall_mem_cons.1 survive
    have ⟨readsFirst, reads'⟩ := List.forall_mem_cons.1 reads
    have closed : Closed (writeMembers layout level members _) := closed_writeMembers members
      (closed_closing layout below rest (.inr rfl))
    have shorter := length_lt_member first.1 survives layout level
      (writeMembers layout level members (layout.newLine below ++ '\x7d' :: rest))
    rw [writeMembers] at enough ⊢
    simp only [List.length_cons, List.length_append] at enough
    -- a member takes up some of the text, so what is left is enough for the others
    cases n with
    | zero => omega
    | succ n =>
      have others (state : σ) := @ih n survive' reads' state (by omega) (by omega)
      rw [readMembers_next]
      exact bind_eq_foldlM (readsFirst state _ closed (by omega)) others

theorem readMembers_object (survive : ∀ entry ∈ members, entry.2.Survives)
    (reads : ∀ entry ∈ members, ReadsMember layout (level + 1) bound member take entry)
    (rest : List Char) (state : σ)
    (enough : (write layout level (.object members) rest).length ≤ n) (le : n ≤ bound) :
    ∃ inside, write layout level (.object members) rest = '\x7b' :: inside ∧
      readMembers member n true state inside = (members.foldlM take state).map (·, rest) := by
  obtain ⟨n, rfl⟩ : ∃ fewer, n = fewer + 1 := by
    have some := length_lt_write (.object survive) layout level rest
    exact Nat.exists_eq_add_one.2 (by omega)
  cases members with
  | nil => exact ⟨_, rfl, rfl⟩
  | cons first members =>
    have ⟨survives, survive'⟩ := List.forall_mem_cons.1 survive
    have ⟨readsFirst, reads'⟩ := List.forall_mem_cons.1 reads
    have closed : Closed (writeMembers layout (level + 1) members _) := closed_writeMembers members
      (closed_closing layout level rest (.inr rfl))
    have shorter := length_lt_member first.1 survives layout (level + 1)
      (writeMembers layout (level + 1) members (layout.newLine level ++ '\x7d' :: rest))
    rw [write] at enough
    simp only [List.length_cons, List.length_append] at enough
    have others (state : σ) :=
      readMembers_writeMembers (n := n) survive' reads' level rest state (by omega) (by omega)
    refine ⟨_, rfl, ?_⟩
    rw [readMembers_first]
    exact bind_eq_foldlM (readsFirst state _ closed (by omega)) others

end Members

def takeFitting {α : Type} (fits : α → Prop) [DecidablePred fits] (seen : List α) (a : α) :
    Except Fault (List α) :=
  if fits a then .ok (a :: seen) else .error .malformed

theorem foldlM_takeFitting {α : Type} (fits : α → Prop) [DecidablePred fits] (all seen : List α) :
    all.foldlM (takeFitting fits) seen =
      if ∀ a ∈ all, fits a then .ok (all.reverse ++ seen) else .error .malformed := by
  induction all generalizing seen with
  | nil => simp [pure, Except.pure]
  | cons a all ih =>
    rw [List.foldlM_cons, takeFitting]
    by_cases fit : fits a
    · rw [if_pos fit, ok_bind, ih, List.reverse_cons, List.append_assoc, List.singleton_append]
      simp only [List.forall_mem_cons, fit, true_and]
    · rw [if_neg fit, if_neg fun all => fit (all a List.mem_cons_self)]
      rfl

theorem itemsDepth_le {items : List Json} :
    itemsDepth items ≤ n ↔ ∀ item ∈ items, item.depth ≤ n := by
  induction items with
  | nil => simp [itemsDepth]
  | cons item items ih => rw [itemsDepth, Nat.max_le, ih, List.forall_mem_cons]

theorem membersDepth_le {members : List (String × Json)} :
    membersDepth members ≤ n ↔ ∀ member ∈ members, member.2.depth ≤ n := by
  induction members with
  | nil => simp [membersDepth]
  | cons member members ih => rw [membersDepth, Nat.max_le, ih, List.forall_mem_cons]

theorem expectColon_colon (rest : List Char) : expectColon (':' :: rest) = .ok rest := by
  rw [expectColon, skipSpace_cons (by decide)]
  rfl

def readItem (bound levels : Nat) (items : List Json) : Reader (List Json) := fun text => do
  let (value, rest) ← readValue bound levels text
  return (value :: items, rest)

def readMember (bound levels : Nat) (members : List (String × Json)) (name : String) :
    Reader (List (String × Json)) := fun text => do
  let text ← expectColon text
  let (value, rest) ← readValue bound levels text
  return ((name, value) :: members, rest)

theorem readValue_of_blank {levels : Nat} (blank : ∀ c ∈ gap, isSpace c = true) :
    readValue bound levels (gap ++ rest) = readValue bound levels rest := by
  unfold readValue
  rw [skipSpace_append blank]

theorem readValue_array {levels : Nat} :
    readValue bound (levels + 1) ('[' :: rest) =
      readItems (readItem bound levels) bound true [] rest >>= fun (items, rest) =>
        .ok (.array items.reverse, rest) := by
  unfold readValue
  rw [skipSpace_cons (by decide)]
  rfl

theorem readValue_object {levels : Nat} :
    readValue bound (levels + 1) ('\x7b' :: rest) =
      readMembers (readMember bound levels) bound true [] rest >>= fun (members, rest) =>
        .ok (.object members.reverse, rest) := by
  unfold readValue
  rw [skipSpace_cons (by decide)]
  rfl

theorem readValue_bracket {c : Char} (bracket : c = '[' ∨ c = '\x7b') :
    readValue bound 0 (c :: rest) = .error .malformed := by
  unfold readValue
  rcases bracket with rfl | rfl <;> rw [skipSpace_cons (by decide)] <;> rfl

theorem readValue_scalar {levels : Nat} {c : Char} (solid : isSpace c = false) (bracket : c ≠ '[')
    (brace : c ≠ '\x7b') : readValue bound levels (c :: rest) = readScalar (c :: rest) := by
  unfold readValue
  rw [skipSpace_cons solid]
  dsimp only
  rw [if_neg bracket, if_neg brace]

/-- What reading a value from its text comes to with so many levels. -/
def ReadsBack (bound levels : Nat) (json : Json) : Prop :=
  ∀ layout level rest, Closed rest → (write layout level json rest).length ≤ bound →
    readValue bound levels (write layout level json rest) =
      if json.depth ≤ levels then .ok (json, rest) else .error .malformed

theorem readsBack_number {number : Number} (survives : number.Survives) (levels : Nat) :
    ReadsBack bound levels (.number number) := by
  intro layout level rest closed enough
  have read := readScalar_numberText survives closed
  obtain ⟨c, more, first, solid, -⟩ := write_start (.number survives) layout level rest
  obtain ⟨d, others, first', start⟩ := survives.start
  rw [depth, if_pos (Nat.zero_le _), ← read, write, first', List.cons_append]
  rw [write, first', List.cons_append] at first
  obtain ⟨rfl, -⟩ := List.cons.inj first
  refine readValue_scalar solid ?_ ?_ <;> rintro rfl <;> revert start <;> decide

theorem readsBack_array {items : List Json} (survive : ∀ item ∈ items, item.Survives) {levels : Nat}
    (readBack : ∀ item ∈ items, ReadsBack bound levels item) :
    ReadsBack bound (levels + 1) (.array items) := by
  intro layout level rest closed enough
  have reads : ∀ json ∈ items, ReadsItem layout (level + 1) bound (readItem bound levels)
      (takeFitting fun json => depth json ≤ levels) json := by
    intro json mem state rest closed enough
    rw [readItem, readBack json mem layout (level + 1) rest closed enough, takeFitting]
    split <;> rfl
  obtain ⟨inside, text, read⟩ := readItems_array survive reads rest [] enough (Nat.le_refl _)
  rw [text, readValue_array, read, foldlM_takeFitting, depth, map_bind]
  simp only [Nat.add_le_add_iff_right, itemsDepth_le]
  split
  · rw [List.append_nil, ok_bind, List.reverse_reverse]
  · rfl

theorem readsBack_object {members : List (String × Json)}
    (survive : ∀ member ∈ members, member.2.Survives) {levels : Nat}
    (readBack : ∀ member ∈ members, ReadsBack bound levels member.2) :
    ReadsBack bound (levels + 1) (.object members) := by
  intro layout level rest closed enough
  have reads : ∀ entry ∈ members, ReadsMember layout (level + 1) bound (readMember bound levels)
      (takeFitting fun entry => depth entry.2 ≤ levels) entry := by
    intro entry mem state rest closed enough
    rw [readMember, expectColon_colon, ok_bind, readValue_of_blank layout.afterColon_blank,
      readBack entry mem layout (level + 1) rest closed enough, takeFitting]
    split <;> rfl
  obtain ⟨inside, text, read⟩ := readMembers_object survive reads rest [] enough (Nat.le_refl _)
  rw [text, readValue_object, read, foldlM_takeFitting, depth, map_bind]
  simp only [Nat.add_le_add_iff_right, membersDepth_le]
  split
  · rw [List.append_nil, ok_bind, List.reverse_reverse]
  · rfl

theorem readsBack_of_survives (survives : json.Survives) (levels : Nat) :
    ReadsBack bound levels json := by
  induction survives generalizing levels with
  | null => exact fun _ _ _ _ _ => readValue_scalar (by decide) (by decide) (by decide)
  | @bool value =>
    cases value <;> exact fun _ _ _ _ _ => readValue_scalar (by decide) (by decide) (by decide)
  | number survives => exact readsBack_number survives levels
  | @string text =>
    intro layout level rest _ _
    rw [write, depth, if_pos (Nat.zero_le _), ← readScalar_writeText]
    exact readValue_scalar (by decide) (by decide) (by decide)
  | @array items survive ih =>
    cases levels with
    | zero =>
      intro layout level rest _ _
      rw [depth, if_neg (Nat.not_succ_le_zero _)]
      cases items <;> exact readValue_bracket (.inl rfl)
    | succ levels => exact readsBack_array survive fun item mem => ih item mem levels
  | @object members survive ih =>
    cases levels with
    | zero =>
      intro layout level rest _ _
      rw [depth, if_neg (Nat.not_succ_le_zero _)]
      cases members <;> exact readValue_bracket (.inr rfl)
    | succ levels => exact readsBack_object survive fun member mem => ih member mem levels

end DeskScript.Json
