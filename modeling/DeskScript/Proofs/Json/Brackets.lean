import DeskScript.Proofs.Json.Nesting

/-!
The brackets of a text that is read, however it is spelt. A value is as deep as the brackets of the
text that it was read from, and no deeper than the levels allow: `measured_of_readValue`.
-/

namespace DeskScript.Json

open Text (isDigit)

variable {text rest : List Char} {opened : Nat} {c : Char} {json : Json}

def After (text rest : List Char) : Prop :=
  ∃ taken, (∀ c ∈ taken, Inert c) ∧ text = taken ++ rest

namespace After

theorem refl (text : List Char) : After text text :=
  ⟨[], List.forall_mem_nil _, rfl⟩

theorem cons (inert : Inert c) (after : After text rest) : After (c :: text) rest := by
  obtain ⟨taken, others, rfl⟩ := after
  exact ⟨c :: taken, List.forall_mem_cons.2 ⟨inert, others⟩, rfl⟩

theorem trans {middle : List Char} (first : After text middle) (second : After middle rest) :
    After text rest := by
  obtain ⟨taken, inert, rfl⟩ := first
  obtain ⟨taken', inert', rfl⟩ := second
  have both := List.forall_mem_append.2 ⟨inert, inert'⟩
  exact ⟨taken ++ taken', both, by rw [List.append_assoc]⟩

theorem dropWhile {p : Char → Bool} (inert : ∀ c, p c = true → Inert c) (text : List Char) :
    After text (text.dropWhile p) :=
  ⟨text.takeWhile p, fun c mem => inert c (List.all_eq_true.1 List.all_takeWhile c mem),
    List.takeWhile_append_dropWhile.symm⟩

theorem digits (text : List Char) : After text (text.dropWhile isDigit) :=
  dropWhile (fun _ => inert_of_isDigit) text

theorem skipSpace (text : List Char) : After text (skipSpace text) :=
  dropWhile (fun _ => inert_of_isSpace) text

theorem deepest_eq (after : After text rest) :
    deepest .outside opened text = deepest .outside opened rest := by
  obtain ⟨taken, inert, rfl⟩ := after
  exact deepest_inert inert

end After

theorem after_takeDigits (significand taken : Nat) (text : List Char) :
    After text (takeDigits significand taken text).2.2 := by
  fun_induction takeDigits significand taken text with
  | case1 => exact .refl _
  | case2 significand taken c text next room ih =>
    have digit : isDigit c = true := (Bool.and_eq_true_iff.1 room).1
    exact .cons (inert_of_isDigit digit) ih
  | case3 => exact .refl _

/-- If a number is read, then what is left comes after characters that open and close nothing. -/
def Leaves (text : List Char) (read : Except Fault (Number × List Char)) : Prop :=
  ∀ number rest, read = .ok (number, rest) → After text rest

namespace Leaves

variable {read read' : Except Fault (Number × List Char)} {number : Number}

theorem error {fault : Fault} : Leaves text (.error fault) := by
  intro number rest h
  cases h

theorem ok (after : After text rest) : Leaves text (.ok (number, rest)) := by
  intro number rest h
  cases h
  exact after

theorem made {value : Except Fault Number} (after : After text rest) :
    Leaves text (do let value ← value; return (value, rest)) := by
  cases value with
  | error fault => exact .error
  | ok value => exact .ok after

theorem ite {p : Prop} [Decidable p] (h : Leaves text read) (h' : Leaves text read') :
    Leaves text (if p then read else read') := by
  split
  · exact h
  · exact h'

theorem of_after {middle : List Char} (after : After text middle) (leaves : Leaves middle read) :
    Leaves text read :=
  fun number rest h => after.trans (leaves number rest h)

end Leaves

variable {negative : Bool} {significand : Nat} {exponent : Int}

theorem leaves_readExponent (text : List Char) :
    Leaves text (readExponent negative significand exponent text) := by
  have sign : After text (Decimal.splitSign text).2 := by
    unfold Decimal.splitSign
    split
    · exact .cons (by decide) (.refl _)
    · exact .cons (by decide) (.refl _)
    · exact .refl _
  rw [readExponent_eq]
  generalize (Decimal.splitSign text).1 = down
  refine .of_after sign ?_
  generalize (Decimal.splitSign text).2 = power
  unfold readPower
  cases power with
  | nil => exact .error
  | cons c power =>
    have digits := After.digits (c :: power)
    exact .ite (.ite (.ite .error (.ok digits)) (.made digits)) .error

theorem inert_of_power {c : Char} (power : (decide (c = 'e') || decide (c = 'E')) = true) :
    Inert c := by
  obtain rfl | rfl : c = 'e' ∨ c = 'E' := by simpa using power
  · decide
  · decide

theorem leaves_readTail (text : List Char) :
    Leaves text (readTail negative significand exponent text) := by
  cases text with
  | nil => exact .made (.refl _)
  | cons c text =>
    rw [readTail]
    split
    next power =>
      exact .of_after (.cons (inert_of_power power) (.refl _)) (leaves_readExponent text)
    next => exact .made (.refl _)

theorem leaves_readPlaces (text : List Char) :
    Leaves text (readPlaces negative significand exponent text) := by
  have taken := after_takeDigits significand 0 text
  unfold readPlaces
  dsimp only
  refine .ite ?_ (.ite (.ite .error .error) ?_)
  · exact .of_after (taken.trans (.digits _)) (leaves_readTail _)
  · exact .of_after taken (leaves_readTail _)

theorem leaves_readLong (text : List Char) : Leaves text (readLong negative significand text) := by
  have digits := After.digits text
  unfold readLong
  dsimp only
  split
  next after same =>
    rw [same] at digits
    exact .of_after (digits.trans (.cons (by decide) (.refl _))) (leaves_readPlaces after)
  next => exact .of_after digits (leaves_readTail _)

theorem leaves_readRest (text : List Char) : Leaves text (readRest negative significand text) := by
  cases text with
  | nil => exact .ok (.refl _)
  | cons c text =>
    by_cases point : c = '.'
    · subst point
      exact .of_after (.cons (by decide) (.refl _)) (leaves_readPlaces text)
    · rw [readRest_of_ne point]
      split
      next power =>
        exact .of_after (.cons (inert_of_power power) (.refl _)) (leaves_readExponent text)
      next => exact .ok (.refl _)

theorem leaves_readMagnitude (text : List Char) : Leaves text (readMagnitude negative text) := by
  cases text with
  | nil => exact .error
  | cons c text =>
    have taken := after_takeDigits 0 0 (c :: text)
    unfold readMagnitude
    dsimp only
    split
    next zero =>
      have inert : Inert c := zero ▸ by decide
      exact .ite .error (.of_after (.cons inert (.refl _)) (leaves_readRest text))
    next =>
      refine .ite (.ite ?_ ?_) .error
      · exact .of_after taken (leaves_readLong _)
      · exact .of_after taken (leaves_readRest _)

theorem leaves_readNumber (text : List Char) : Leaves text (readNumber text) := by
  cases text with
  | nil => exact .error
  | cons c text =>
    by_cases minus : c = '-'
    · subst minus
      exact .of_after (.cons (by decide) (.refl _)) (leaves_readMagnitude text)
    · rw [readNumber_of_ne minus]
      exact leaves_readMagnitude _

theorem eq_append_of_expectLetters {letters : List Char}
    (h : expectLetters letters text = .ok rest) : text = letters ++ rest := by
  fun_induction expectLetters letters text with
  | case1 => simpa using h
  | case2 => cases h
  | case3 letters c text ih => rw [ih h, List.cons_append]
  | case4 => cases h

theorem quoted_of_hexValue? {n : Nat} (h : hexValue? c = some n) (rest : List Char) :
    deepest .quoted opened (c :: rest) = deepest .quoted opened rest := by
  have quote : c ≠ '"' := by
    rintro rfl
    cases h
  have backslash : c ≠ '\\' := by
    rintro rfl
    cases h
  rw [deepest, if_neg quote, if_neg backslash]

theorem quoted_of_readHex {n : Nat} (h : readHex text = .ok (n, rest)) :
    deepest .quoted opened text = deepest .quoted opened rest := by
  unfold readHex at h
  split at h
  next a b c d after =>
    split at h
    next ha hb hc hd =>
      obtain ⟨-, rfl⟩ := Prod.mk.inj (Except.ok.inj h)
      rw [quoted_of_hexValue? ha, quoted_of_hexValue? hb, quoted_of_hexValue? hc,
        quoted_of_hexValue? hd]
    next => cases h
  next => split at h <;> cases h

theorem bind_eq_ok {α β : Type} {read : Except Fault α} {f : α → Except Fault β} {b : β} :
    (read >>= f) = .ok b ↔ ∃ a, read = .ok a ∧ f a = .ok b := by
  cases read with
  | error fault => simp [bind, Except.bind]
  | ok a => simp [bind, Except.bind]

theorem quoted_of_readCode {d : Char} (h : readCode text = .ok (d, rest)) :
    deepest .quoted opened text = deepest .quoted opened rest := by
  unfold readCode at h
  obtain ⟨⟨high, middle⟩, hex, h⟩ := bind_eq_ok.1 h
  dsimp only at h
  rw [quoted_of_readHex hex]
  split at h
  next => cases h
  next =>
    -- the first half of a pair must be followed by a second one, escaped like it
    split at h
    next =>
      obtain ⟨after, letters, h⟩ := bind_eq_ok.1 h
      obtain ⟨⟨low, last⟩, hex, h⟩ := bind_eq_ok.1 h
      dsimp only at h
      split at h
      next =>
        obtain ⟨-, rfl⟩ := Prod.mk.inj (Except.ok.inj h)
        rw [eq_append_of_expectLetters letters, ← quoted_of_readHex hex]
        rfl
      next => cases h
    next =>
      obtain ⟨-, rfl⟩ := Prod.mk.inj (Except.ok.inj h)
      rfl

theorem escaped_of_readEscape {d : Char} (h : readEscape text = .ok (d, rest)) :
    deepest .escaped opened text = deepest .quoted opened rest := by
  cases text with
  | nil => cases h
  | cons c text =>
    rw [readEscape] at h
    rw [deepest]
    iterate 6
      split at h
      next =>
        obtain ⟨-, rfl⟩ := Prod.mk.inj (Except.ok.inj h)
        rfl
    split at h
    next => exact quoted_of_readCode h
    next => cases h

theorem quoted_of_readCharacters {seen characters : List Char}
    (h : readCharacters seen text = .ok (characters, rest)) :
    deepest .quoted opened text = deepest .outside opened rest := by
  fun_induction readCharacters seen text with
  | case1 => cases h
  | case2 seen text =>
    obtain ⟨-, rfl⟩ := Prod.mk.inj (Except.ok.inj h)
    rfl
  | case3 seen text decoded after escape _ _ ih =>
    rw [deepest, if_neg (by decide), if_pos rfl, escaped_of_readEscape escape, ih h]
  | case4 => cases h
  | case5 => cases h
  | case6 seen c text quote backslash _ ih =>
    rw [deepest, if_neg quote, if_neg backslash, ih h]

theorem deepest_of_readText {value : String} (h : readText text = .ok (value, rest)) :
    deepest .outside opened ('"' :: text) = deepest .outside opened rest := by
  obtain ⟨⟨characters, after⟩, read, h⟩ := bind_eq_ok.1 h
  obtain ⟨-, rfl⟩ := Prod.mk.inj (Except.ok.inj h)
  rw [deepest, if_pos rfl, quoted_of_readCharacters read]

theorem deepest_of_readName {name : String} (h : readName text = .ok (name, rest)) :
    deepest .outside opened text = deepest .outside opened rest := by
  cases text with
  | nil => cases h
  | cons c text =>
    rw [readName] at h
    split at h
    next quote =>
      rw [quote]
      exact deepest_of_readText h
    next => cases h

theorem after_of_readWord {letters : String} {value : Json}
    (inert : letters.toList.all (decide <| Inert ·) = true)
    (h : readWord letters value text = .ok (json, rest)) : json = value ∧ After text rest := by
  obtain ⟨after, word, h⟩ := bind_eq_ok.1 h
  obtain ⟨rfl, rfl⟩ := Prod.mk.inj (Except.ok.inj h)
  exact ⟨rfl, letters.toList, inert_of_all inert, eq_append_of_expectLetters word⟩

theorem deepest_of_readScalar (h : readScalar text = .ok (json, rest)) :
    json.depth = 0 ∧ ∀ opened, deepest .outside opened text = deepest .outside opened rest := by
  cases text with
  | nil => cases h
  | cons c text =>
    rw [readScalar] at h
    iterate 3
      split at h
      next =>
        obtain ⟨rfl, after⟩ := after_of_readWord (by decide) h
        exact ⟨rfl, fun _ => after.deepest_eq⟩
    split at h
    next quote =>
      obtain ⟨⟨value, after⟩, read, h⟩ := bind_eq_ok.1 h
      obtain ⟨rfl, rfl⟩ := Prod.mk.inj (Except.ok.inj h)
      exact ⟨rfl, fun _ => quote ▸ deepest_of_readText read⟩
    next =>
      split at h
      next =>
        obtain ⟨⟨value, after⟩, read, h⟩ := bind_eq_ok.1 h
        obtain ⟨rfl, rfl⟩ := Prod.mk.inj (Except.ok.inj h)
        exact ⟨rfl, fun _ => (leaves_readNumber _ _ _ read).deepest_eq⟩
      next => cases h

section Parts

variable {σ : Type} {size : σ → Nat} {levels n : Nat} {state state' : σ} {first : Bool}

/--
What one step of a reader takes into its state shows in the brackets of the text, where `size` is
how deep a state is, and it fits the levels.
-/
structure Sized (levels : Nat) (size : σ → Nat) (state : σ) (text : List Char) (state' : σ)
    (rest : List Char) : Prop where
  fits : size state ≤ levels → size state' ≤ levels
  deepest : ∀ opened, max (opened + size state) (deepest .outside opened text) =
    max (opened + size state') (deepest .outside opened rest)

theorem Sized.refl (after : After text rest) : Sized levels size state text state rest :=
  ⟨id, fun _ => by rw [after.deepest_eq]⟩

theorem Sized.trans {middle : σ} {between : List Char}
    (h : Sized levels size state text middle between)
    (h' : Sized levels size middle between state' rest) :
    Sized levels size state text state' rest :=
  ⟨fun le => h'.fits (h.fits le), fun opened => (h.deepest opened).trans (h'.deepest opened)⟩

theorem Sized.of_value (fits : json.depth ≤ levels)
    (value : ∀ opened, Json.deepest .outside opened text =
      max (opened + json.depth) (Json.deepest .outside opened rest))
    (grown : size state' = max json.depth (size state)) :
    Sized levels size state text state' rest := by
  refine ⟨fun le => by omega, fun opened => ?_⟩
  rw [value, grown]
  omega

theorem Sized.enclosed (sized : Sized levels size state text state' (c :: rest))
    (closing : c = ']' ∨ c = '\x7d') (empty : size state = 0) (opened : Nat) :
    Json.deepest .outside (opened + 1) text =
      max (opened + (size state' + 1)) (Json.deepest .outside opened rest) := by
  have inside := sized.deepest (opened + 1)
  have least := le_deepest .outside (opened + 1) text
  rw [deepest_close closing] at inside
  omega

theorem sized_of_readItems {item : σ → Reader σ}
    (step : ∀ state text state' rest, item state text = .ok (state', rest) →
      Sized levels size state text state' rest)
    (h : readItems item n first state text = .ok (state', rest)) :
    Sized levels size state text state' (']' :: rest) := by
  -- blanks and commas leave the depth as it is; what changes it are the items
  induction n generalizing first state text with
  | zero => cases h
  | succ n ih =>
    have spaces := After.skipSpace text
    rw [readItems] at h
    generalize skipSpace text = solid at spaces h
    refine .trans (.refl spaces) ?_
    cases solid with
    | nil => cases h
    | cons c solid =>
      dsimp only at h
      split at h
      next closing =>
        obtain ⟨rfl, rfl⟩ := Prod.mk.inj (Except.ok.inj h)
        exact closing ▸ .refl (.refl _)
      next =>
        split at h
        next =>
          obtain ⟨⟨middle, between⟩, taken, h⟩ := bind_eq_ok.1 h
          exact (step _ _ _ _ taken).trans (ih h)
        next =>
          split at h
          next comma =>
            have passed : After (c :: solid) (skipSpace solid) :=
              .cons (comma ▸ by decide) (.skipSpace solid)
            generalize skipSpace solid = later at passed h
            refine .trans (.refl passed) ?_
            cases later with
            | nil => cases h
            | cons d later =>
              dsimp only at h
              split at h
              next => cases h
              next =>
                obtain ⟨⟨middle, between⟩, taken, h⟩ := bind_eq_ok.1 h
                exact (step _ _ _ _ taken).trans (ih h)
          next => cases h

theorem sized_of_readMembers {member : σ → String → Reader σ}
    (step : ∀ state name text state' rest, member state name text = .ok (state', rest) →
      Sized levels size state text state' rest)
    (h : readMembers member n first state text = .ok (state', rest)) :
    Sized levels size state text state' ('\x7d' :: rest) := by
  induction n generalizing first state text with
  | zero => cases h
  | succ n ih =>
    have spaces := After.skipSpace text
    rw [readMembers] at h
    generalize skipSpace text = solid at spaces h
    refine .trans (.refl spaces) ?_
    cases solid with
    | nil => cases h
    | cons c solid =>
      dsimp only at h
      split at h
      next closing =>
        obtain ⟨rfl, rfl⟩ := Prod.mk.inj (Except.ok.inj h)
        exact closing ▸ .refl (.refl _)
      next =>
        split at h
        next starts =>
          have passed : After (c :: solid) (if first then c :: solid else skipSpace solid) := by
            split
            next => exact .refl _
            next later =>
              have comma : c = ',' := by simpa [later] using starts
              exact .cons (comma ▸ by decide) (.skipSpace solid)
          obtain ⟨⟨name, between⟩, named, h⟩ := bind_eq_ok.1 h
          obtain ⟨⟨middle, between'⟩, taken, h⟩ := bind_eq_ok.1 h
          have name : Sized levels size state
              (if first then c :: solid else skipSpace solid) state between :=
            ⟨id, fun _ => by rw [deepest_of_readName named]⟩
          exact (Sized.refl passed).trans (name.trans ((step _ _ _ _ _ taken).trans (ih h)))
        next => cases h

end Parts

theorem after_of_expectColon (h : expectColon text = .ok rest) : After text rest := by
  have spaces := After.skipSpace text
  unfold expectColon at h
  generalize skipSpace text = solid at spaces h
  cases solid with
  | nil => cases h
  | cons c solid =>
    dsimp only at h
    split at h
    next colon =>
      obtain rfl := Except.ok.inj h
      exact spaces.trans (.cons (colon ▸ by decide) (.refl _))
    next => cases h

theorem itemsDepth_reverse (items : List Json) : itemsDepth items.reverse = itemsDepth items := by
  have all := itemsDepth_le.1 (Nat.le_refl (itemsDepth items))
  have all' := itemsDepth_le.1 (Nat.le_refl (itemsDepth items.reverse))
  refine Nat.le_antisymm ?_ ?_
  · exact itemsDepth_le.2 fun item mem => all item (List.mem_reverse.1 mem)
  · exact itemsDepth_le.2 fun item mem => all' item (List.mem_reverse.2 mem)

theorem membersDepth_reverse (members : List (String × Json)) :
    membersDepth members.reverse = membersDepth members := by
  have all := membersDepth_le.1 (Nat.le_refl (membersDepth members))
  have all' := membersDepth_le.1 (Nat.le_refl (membersDepth members.reverse))
  refine Nat.le_antisymm ?_ ?_
  · exact membersDepth_le.2 fun member mem => all member (List.mem_reverse.1 mem)
  · exact membersDepth_le.2 fun member mem => all' member (List.mem_reverse.2 mem)

section Values

variable {bound levels : Nat}

/-- A value between a text and the rest is no deeper than so many levels, and the brackets of the
text are nested as deep as it is. -/
def Measured (levels : Nat) (text : List Char) (json : Json) (rest : List Char) : Prop :=
  json.depth ≤ levels ∧ ∀ opened, deepest .outside opened text =
    max (opened + json.depth) (deepest .outside opened rest)

theorem sized_of_readItem
    (values : ∀ text json rest, readValue bound levels text = .ok (json, rest) →
      Measured levels text json rest) {items items' : List Json}
    (h : readItem bound levels items text = .ok (items', rest)) :
    Sized levels itemsDepth items text items' rest := by
  obtain ⟨⟨json, after⟩, read, h⟩ := bind_eq_ok.1 h
  obtain ⟨rfl, rfl⟩ := Prod.mk.inj (Except.ok.inj h)
  have ⟨fits, brackets⟩ := values text json _ read
  exact .of_value fits brackets rfl

theorem sized_of_readMember
    (values : ∀ text json rest, readValue bound levels text = .ok (json, rest) →
      Measured levels text json rest) {members members' : List (String × Json)} {name : String}
    (h : readMember bound levels members name text = .ok (members', rest)) :
    Sized levels membersDepth members text members' rest := by
  obtain ⟨between, colon, h⟩ := bind_eq_ok.1 h
  obtain ⟨⟨json, after⟩, read, h⟩ := bind_eq_ok.1 h
  obtain ⟨rfl, rfl⟩ := Prod.mk.inj (Except.ok.inj h)
  have ⟨fits, brackets⟩ := values between json _ read
  exact (Sized.refl (after_of_expectColon colon)).trans (.of_value fits brackets rfl)

theorem measured_array
    (values : ∀ text json rest, readValue bound levels text = .ok (json, rest) →
      Measured levels text json rest)
    (h : readValue bound (levels + 1) ('[' :: text) = .ok (json, rest)) :
    Measured (levels + 1) ('[' :: text) json rest := by
  rw [readValue_array] at h
  obtain ⟨⟨items, after⟩, read, h⟩ := bind_eq_ok.1 h
  obtain ⟨rfl, rfl⟩ := Prod.mk.inj (Except.ok.inj h)
  have sized := sized_of_readItems (fun _ _ _ _ => sized_of_readItem values) read
  rw [Measured, depth, itemsDepth_reverse]
  refine ⟨Nat.succ_le_succ (sized.fits (Nat.zero_le _)), fun opened => ?_⟩
  rw [deepest_open (.inl rfl)]
  exact sized.enclosed (.inl rfl) rfl opened

theorem measured_object
    (values : ∀ text json rest, readValue bound levels text = .ok (json, rest) →
      Measured levels text json rest)
    (h : readValue bound (levels + 1) ('\x7b' :: text) = .ok (json, rest)) :
    Measured (levels + 1) ('\x7b' :: text) json rest := by
  rw [readValue_object] at h
  obtain ⟨⟨members, after⟩, read, h⟩ := bind_eq_ok.1 h
  obtain ⟨rfl, rfl⟩ := Prod.mk.inj (Except.ok.inj h)
  have sized := sized_of_readMembers (fun _ _ _ _ _ => sized_of_readMember values) read
  rw [Measured, depth, membersDepth_reverse]
  refine ⟨Nat.succ_le_succ (sized.fits (Nat.zero_le _)), fun opened => ?_⟩
  rw [deepest_open (.inr rfl)]
  exact sized.enclosed (.inr rfl) rfl opened

theorem solid_of_skipSpace (h : skipSpace text = c :: rest) : isSpace c = false := by
  have first := List.head?_dropWhile_not isSpace text
  change List.dropWhile isSpace text = c :: rest at h
  simpa [h] using first

theorem measured_of_bracketed (h : readValue bound levels text = .ok (json, rest))
    (bracketed : ∀ c text, c = '[' ∨ c = '\x7b' →
      readValue bound levels (c :: text) = .ok (json, rest) →
      Measured levels (c :: text) json rest) : Measured levels text json rest := by
  have blank : ∀ c ∈ text.takeWhile isSpace, isSpace c = true :=
    List.all_eq_true.1 List.all_takeWhile
  have spaces := After.skipSpace text
  rw [← List.takeWhile_append_dropWhile (p := isSpace) (l := text), readValue_of_blank blank] at h
  change readValue bound levels (skipSpace text) = _ at h
  -- the blanks in front count for nothing
  suffices Measured levels (skipSpace text) json rest from
    ⟨this.1, fun opened => spaces.deepest_eq.trans (this.2 opened)⟩
  rcases solid : skipSpace text with - | ⟨c, later⟩
  · rw [solid] at h
    unfold readValue at h
    cases h
  · rw [solid] at h
    by_cases bracket : c = '[' ∨ c = '\x7b'
    · exact bracketed c later bracket h
    · obtain ⟨array, object⟩ := not_or.1 bracket
      rw [readValue_scalar (solid_of_skipSpace solid) array object] at h
      obtain ⟨flat, same⟩ := deepest_of_readScalar h
      rw [Measured, flat]
      refine ⟨Nat.zero_le _, fun opened => ?_⟩
      rw [same, Nat.add_zero, Nat.max_eq_right (le_deepest _ _ _)]

theorem measured_of_readValue (h : readValue bound levels text = .ok (json, rest)) :
    Measured levels text json rest := by
  induction levels generalizing text json rest with
  | zero =>
    refine measured_of_bracketed h fun c text bracket h => ?_
    rw [readValue_bracket bracket] at h
    cases h
  | succ levels ih =>
    refine measured_of_bracketed h fun c text bracket h => ?_
    rcases bracket with rfl | rfl
    · exact measured_array (fun _ _ _ => ih) h
    · exact measured_object (fun _ _ _ => ih) h

end Values

end DeskScript.Json
