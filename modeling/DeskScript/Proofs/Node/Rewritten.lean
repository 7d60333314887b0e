import DeskScript.Proofs.Json.Brackets
import DeskScript.Proofs.Node.Accepted

/-!
Trees that are loaded can be saved and loaded again. A tree may be spelt in many ways, and in none
of them are the brackets nested less deep than in the saved form of the tree. Main statement:
`load_resaved`.
-/

namespace DeskScript.Node

open Json (Fault Measured Sized deepest)

variable {kind : Kind} {parts : Parts} {levels n : Nat} {node : Json → Option Node} {json : Json}

def Parts.depth : Parts → Nat
  | .named members => Json.membersDepth members
  | .ordered items => Json.itemsDepth items

theorem exists_of_mem_mapM {α β : Type} {f : α → Option β} {all : List α} {found : List β}
    (h : all.mapM f = some found) : ∀ b ∈ found, ∃ a ∈ all, f a = some b := by
  induction all generalizing found with
  | nil =>
    obtain rfl : [] = found := by simpa using h
    exact List.forall_mem_nil _
  | cons a all ih =>
    obtain ⟨b, first, others, rest, rfl⟩ : ∃ b, f a = some b ∧
        ∃ others, all.mapM f = some others ∧ b :: others = found := by
      simpa [List.mapM_cons, Option.bind_eq_some_iff] using h
    refine List.forall_mem_cons.2 ⟨⟨a, List.mem_cons_self, first⟩, fun b mem => ?_⟩
    obtain ⟨a, inside, same⟩ := ih rest b mem
    exact ⟨a, List.mem_cons_of_mem _ inside, same⟩

theorem depth_of_mem_valuesOf {members : List (String × Json)} {name : String}
    (mem : json ∈ valuesOf members name) : json.depth ≤ Json.membersDepth members := by
  obtain ⟨member, kept, rfl⟩ := List.mem_map.1 mem
  exact Json.membersDepth_le.1 (Nat.le_refl _) member (List.mem_of_mem_filter kept)

theorem depth_of_select? {names : List String} {values : List (Option Json)}
    (h : parts.select? names = some values) :
    ∀ value ∈ values, ∀ json ∈ value, json.depth ≤ parts.depth := by
  intro value mem json given
  obtain rfl := Option.mem_def.1 given
  cases parts with
  | ordered items =>
    rw [Parts.select?] at h
    split at h
    next =>
      obtain rfl := Option.some.inj h
      obtain ⟨item, inside, same⟩ := List.mem_map.1 mem
      obtain rfl := Option.some.inj same
      exact Json.itemsDepth_le.1 (Nat.le_refl _) item inside
    next => cases h
  | named members =>
    obtain ⟨name, -, found⟩ := exists_of_mem_mapM h _ mem
    have only : valuesOf members name = [json] := by
      split at found
      next => cases found
      next value same =>
        rw [same]
        exact congrArg (fun value => [value]) (Option.some.inj (Option.some.inj found))
      next => cases found
    have mem : json ∈ valuesOf members name := only ▸ List.mem_singleton_self json
    exact depth_of_mem_valuesOf mem

theorem depth_of_values? {values : List (Option Json)} (h : parts.values? kind = some values) :
    ∀ value ∈ values, ∀ json ∈ value, json.depth ≤ parts.depth := by
  unfold Parts.values? at h
  split at h
  next =>
    obtain rfl := Option.some.inj h
    exact List.forall_mem_nil _
  next => exact depth_of_select? h

theorem depth_of_split? (h : split? json = some (kind, parts)) :
    parts.depth + 1 ≤ json.depth := by
  unfold split? at h
  split at h
  next members =>
    split at h
    next tag only =>
      obtain ⟨kind, -, same⟩ := Option.map_eq_some_iff.1 h
      obtain ⟨rfl, rfl⟩ := Prod.mk.inj same
      refine Nat.succ_le_succ (Json.membersDepth_le.2 fun member kept => ?_)
      exact Json.membersDepth_le.1 (Nat.le_refl _) member (List.mem_of_mem_filter kept)
    next => cases h
  next tag items =>
    obtain ⟨kind, -, same⟩ := Option.map_eq_some_iff.1 h
    obtain ⟨rfl, rfl⟩ := Prod.mk.inj same
    exact Nat.succ_le_succ (Nat.le_max_right _ _)
  next => cases h

/-- Whatever is read from a value is saved with no more brackets than the value has. -/
def Shrinks {α : Type} (read : Json → Option α) (saved : α → Json) : Prop :=
  ∀ json a, read json = some a → (saved a).depth ≤ json.depth

theorem shrinks_list? {α : Type} {read : Json → Option α} {saved : α → Json}
    (shrinks : Shrinks read saved) : Shrinks (list? read) fun all => .array (all.map saved) := by
  intro json all h
  obtain ⟨items, array, taken⟩ := Option.bind_eq_some_iff.1 h
  unfold items? at array
  split at array
  next =>
    obtain rfl := Option.some.inj array
    refine Nat.succ_le_succ (Json.itemsDepth_le.2 (List.forall_mem_map.2 fun a mem => ?_))
    obtain ⟨item, inside, given⟩ := exists_of_mem_mapM taken a mem
    exact (shrinks item a given).trans (Json.itemsDepth_le.1 (Nat.le_refl _) item inside)
  next => cases array

theorem listToJson_eq_map (nodes : List Node) : listToJson nodes = nodes.map toJson := by
  induction nodes with
  | nil => rfl
  | cons node nodes ih => rw [listToJson, ih, List.map_cons]

theorem bodiesToJson_eq_map (bodies : List (List Node)) :
    bodiesToJson bodies = bodies.map fun body => .array (listToJson body) := by
  induction bodies with
  | nil => rfl
  | cons body bodies ih => rw [bodiesToJson, ih, List.map_cons]

theorem shrinks_nodes (shrinks : Shrinks node toJson) :
    Shrinks (list? node) fun nodes => .array (listToJson nodes) := by
  simpa only [listToJson_eq_map] using shrinks_list? shrinks

theorem shrinks_bodies (shrinks : Shrinks node toJson) :
    Shrinks (list? (list? node)) fun bodies => .array (bodiesToJson bodies) := by
  simpa only [bodiesToJson_eq_map] using shrinks_list? (shrinks_nodes shrinks)

theorem shrinks_texts : Shrinks (list? text?) fun texts => .array (texts.map .string) :=
  shrinks_list? fun _ _ _ => Nat.zero_le _

theorem shrinks_optional? {α : Type} {read : Json → Option α} {saved : α → Json}
    (shrinks : Shrinks read saved) {value : Option Json} {found : Option α}
    (h : optional? read value = some found) (fit : ∀ json ∈ value, json.depth ≤ n) :
    ∀ a ∈ found, (saved a).depth ≤ n := by
  intro a mem
  obtain rfl := Option.mem_def.1 mem
  unfold optional? at h
  split at h
  next => cases h
  next => cases h
  next json _ =>
    obtain ⟨a, given, same⟩ := Option.map_eq_some_iff.1 h
    obtain rfl := Option.some.inj same
    exact (shrinks json _ given).trans (fit json rfl)

theorem depth_record_le {values : List Json} (fit : ∀ value ∈ values, value.depth ≤ n) :
    (record kind values).depth ≤ n + 1 := by
  refine Nat.succ_le_succ (Json.membersDepth_le.2 ?_)
  exact List.forall_mem_cons.2 ⟨Nat.zero_le _, fun _ mem => fit _ (List.of_mem_zip mem).2⟩

theorem depth_optionToJson {value : Option Node}
    (fit : ∀ node ∈ value, node.toJson.depth ≤ n) : (optionToJson value).depth ≤ n := by
  cases value with
  | none => exact Nat.zero_le _
  | some node => exact fit node rfl

theorem depth_bodyToJson_le {body : Option (List Node)}
    (fit : ∀ nodes ∈ body, (Json.array (listToJson nodes)).depth ≤ n) :
    (bodyToJson body).depth ≤ n := by
  cases body with
  | none => exact Nat.zero_le _
  | some nodes => exact fit nodes rfl

theorem depth_of_ofValues? (shrinks : Shrinks node toJson) {values : List (Option Json)}
    (fit : ∀ value ∈ values, ∀ json ∈ value, json.depth ≤ n) {out : Node}
    (h : ofValues? node kind values = some out) : out.toJson.depth ≤ n + 1 := by
  have flat (text : String) : (Json.string text).depth ≤ n := Nat.zero_le _
  have one {json : Json} {child : Node} (given : node json = some child) (le : json.depth ≤ n) :
      child.toJson.depth ≤ n := (shrinks json child given).trans le
  have all {json : Json} {children : List Node} (given : list? node json = some children)
      (le : json.depth ≤ n) : (Json.array (listToJson children)).depth ≤ n :=
    (shrinks_nodes shrinks json children given).trans le
  -- one case for each kind: what its parts are read as is saved with no more brackets than they
  unfold ofValues? at h
  split at h
  all_goals
    simp only [Option.bind_eq_bind, Option.bind_eq_some_iff, Option.pure_def, Option.some.injEq,
      List.forall_mem_cons, Option.mem_def, forall_eq', reduceCtorEq] at h fit
  case h_1 =>
    obtain ⟨statements, given, rfl⟩ := h
    exact depth_record_le (by simp [all given fit.1])
  case h_2 =>
    obtain ⟨name, -, parameters, texts, body, given, rfl⟩ := h
    have texts := (shrinks_texts _ parameters texts).trans fit.2.1
    exact depth_record_le (by simp [flat, texts, all given fit.2.2.1])
  case h_3 =>
    obtain ⟨target, -, value, given, type, -, rfl⟩ := h
    exact depth_record_le (by simp [flat, one given fit.2.1, depth_optionalText])
  case h_4 =>
    obtain ⟨form, -, expression, given, rfl⟩ := h
    exact depth_record_le (by simp [flat, one given fit.2.1])
  case h_5 =>
    obtain ⟨expression, given, rfl⟩ := h
    exact depth_record_le (by simp [one given fit.1])
  case h_6 =>
    obtain ⟨x, given, y, given', rfl⟩ := h
    exact depth_record_le (by simp [one given fit.1, one given' fit.2.1])
  case h_7 =>
    obtain ⟨operation, -, key, -, rfl⟩ := h
    exact depth_record_le (by simp [flat])
  case h_8 | h_10 | h_14 =>
    obtain ⟨text, -, rfl⟩ := h
    exact depth_record_le (by simp [flat])
  case h_9 =>
    obtain ⟨operator, -, left, given, right, given', rfl⟩ := h
    exact depth_record_le (by simp [flat, one given fit.2.1, one given' fit.2.2.1])
  case h_11 | h_12 | h_17 =>
    obtain ⟨value, -, rfl⟩ := h
    exact depth_record_le (by simp [Json.depth])
  case h_13 =>
    obtain ⟨value, -, unit, -, rfl⟩ := h
    exact depth_record_le (by simp [Json.depth])
  case h_15 =>
    subst h
    exact depth_record_le (List.forall_mem_nil _)
  case h_16 =>
    obtain ⟨function, -, arguments, given, rfl⟩ := h
    exact depth_record_le (by simp [flat, all given fit.2.1])
  case h_18 | h_19 =>
    obtain ⟨first, given, body, given', rfl⟩ := h
    exact depth_record_le (by simp [one given fit.1, all given' fit.2.1])
  case h_20 =>
    obtain ⟨control, -, value, given, rfl⟩ := h
    have value := depth_optionToJson (shrinks_optional? shrinks given fit.2.1)
    exact depth_record_le (by simp [flat, value])
  case h_21 =>
    obtain ⟨target, -, operation, -, before, -, rfl⟩ := h
    exact depth_record_le (by simp [Json.depth])
  case h_22 =>
    obtain ⟨condition, first, thenBody, second, conditions, third, bodies, fourth, elseBody, last,
      rfl⟩ := h
    have bodies := (shrinks_bodies shrinks _ bodies fourth).trans fit.2.2.2.1
    have elseBody := depth_bodyToJson_le (shrinks_optional? (shrinks_nodes shrinks) last
      fit.2.2.2.2.1)
    exact depth_record_le (by
      simp [one first fit.1, all second fit.2.1, all third fit.2.2.1, bodies, elseBody])

theorem depth_of_ofParts? (shrinks : Shrinks node toJson) {out : Node}
    (h : ofParts? node kind parts = some out) : out.toJson.depth ≤ parts.depth + 1 := by
  obtain ⟨values, selected, h⟩ := Option.bind_eq_some_iff.1 h
  exact depth_of_ofValues? shrinks (depth_of_values? selected) h

theorem shrinks_decode? (levels : Nat) : Shrinks (decode? levels) toJson := by
  induction levels with
  | zero =>
    intro json node h
    cases h
  | succ levels ih =>
    intro json node h
    obtain ⟨⟨kind, parts⟩, divided, h⟩ := Option.bind_eq_some_iff.1 h
    exact (depth_of_ofParts? ih h).trans (depth_of_split? divided)

variable {bound : Nat} {text rest : List Char}

theorem deepest_of_readKind (h : readKind text = .ok (kind, rest)) (opened : Nat) :
    deepest .outside opened text = deepest .outside opened rest := by
  have spaces := Json.After.skipSpace text
  unfold readKind at h
  generalize Json.skipSpace text = solid at spaces h
  rw [spaces.deepest_eq]
  cases solid with
  | nil => cases h
  | cons c solid =>
    dsimp only at h
    split at h
    next => cases h
    next =>
      obtain ⟨⟨value, after⟩, read, h⟩ := Json.bind_eq_ok.1 h
      dsimp only at h
      rw [(Json.deepest_of_readScalar read).2]
      split at h
      next =>
        obtain ⟨-, rfl⟩ := Prod.mk.inj (Except.ok.inj h)
        rfl
      next => cases h

theorem sized_of_readMember {pending pending' : Pending (String × Json)} {name : String}
    (h : readMember bound levels pending name text = .ok (pending', rest)) :
    Sized levels (fun pending => Json.membersDepth pending.parts) pending text pending' rest := by
  unfold readMember at h
  split at h
  next =>
    split at h
    next => cases h
    next =>
      obtain ⟨between, colon, h⟩ := Json.bind_eq_ok.1 h
      obtain ⟨⟨kind, after⟩, read, h⟩ := Json.bind_eq_ok.1 h
      obtain ⟨rfl, rfl⟩ := Prod.mk.inj (Except.ok.inj h)
      refine (Sized.refl (Json.after_of_expectColon colon)).trans ⟨id, fun opened => ?_⟩
      rw [deepest_of_readKind read]
  next =>
    obtain ⟨between, colon, h⟩ := Json.bind_eq_ok.1 h
    obtain ⟨⟨json, after⟩, read, h⟩ := Json.bind_eq_ok.1 h
    obtain ⟨rfl, rfl⟩ := Prod.mk.inj (Except.ok.inj h)
    have ⟨fits, brackets⟩ := Json.measured_of_readValue read
    exact (Sized.refl (Json.after_of_expectColon colon)).trans (.of_value fits brackets rfl)

theorem sized_of_readItem {pending pending' : Pending Json}
    (h : readItem bound levels pending text = .ok (pending', rest)) :
    Sized levels (fun pending => Json.itemsDepth pending.parts) pending text pending' rest := by
  unfold readItem at h
  split at h
  next =>
    obtain ⟨⟨json, after⟩, read, h⟩ := Json.bind_eq_ok.1 h
    obtain ⟨rfl, rfl⟩ := Prod.mk.inj (Except.ok.inj h)
    have ⟨fits, brackets⟩ := Json.measured_of_readValue read
    exact .of_value fits brackets rfl
  next =>
    obtain ⟨⟨kind, after⟩, read, h⟩ := Json.bind_eq_ok.1 h
    obtain ⟨rfl, rfl⟩ := Prod.mk.inj (Except.ok.inj h)
    refine ⟨id, fun opened => ?_⟩
    rw [deepest_of_readKind read]

theorem deepest_of_readOutermost
    (h : readOutermost bound (levels + 1) text = .ok ((kind, parts), rest)) :
    parts.depth ≤ levels ∧ ∀ opened, deepest .outside opened text =
      max (opened + (parts.depth + 1)) (deepest .outside opened rest) := by
  have spaces := Json.After.skipSpace text
  rw [readOutermost] at h
  generalize Json.skipSpace text = solid at spaces h
  simp only [spaces.deepest_eq]
  cases solid with
  | nil => cases h
  | cons c solid =>
    dsimp only at h
    split at h
    next brace =>
      obtain ⟨⟨pending, after⟩, read, h⟩ := Json.bind_eq_ok.1 h
      dsimp only at h
      split at h
      next =>
        obtain ⟨same, rfl⟩ := Prod.mk.inj (Except.ok.inj h)
        obtain ⟨rfl, rfl⟩ := Prod.mk.inj same
        have sized := Json.sized_of_readMembers (fun _ _ _ _ _ => sized_of_readMember) read
        rw [Parts.depth, Json.membersDepth_reverse]
        refine ⟨sized.fits (Nat.zero_le _), fun opened => ?_⟩
        rw [Json.deepest_open (.inr brace)]
        exact sized.enclosed (.inr rfl) rfl opened
      next => cases h
    next =>
      split at h
      next bracket =>
        obtain ⟨⟨pending, after⟩, read, h⟩ := Json.bind_eq_ok.1 h
        dsimp only at h
        split at h
        next =>
          obtain ⟨same, rfl⟩ := Prod.mk.inj (Except.ok.inj h)
          obtain ⟨rfl, rfl⟩ := Prod.mk.inj same
          have sized := Json.sized_of_readItems (fun _ _ _ _ => sized_of_readItem) read
          rw [Parts.depth, Json.itemsDepth_reverse]
          refine ⟨sized.fits (Nat.zero_le _), fun opened => ?_⟩
          rw [Json.deepest_open (.inl bracket)]
          exact sized.enclosed (.inl rfl) rfl opened
        next => cases h
      next =>
        obtain ⟨_, -, h⟩ := Json.bind_eq_ok.1 h
        cases h

theorem nesting_of_load {text : String} {tree : Node} (h : load text = .ok tree) :
    tree.toJson.depth ≤ Json.nesting text ∧ Json.nesting text ≤ Json.maxLevels := by
  unfold load at h
  dsimp only at h
  obtain ⟨⟨⟨kind, parts⟩, rest⟩, read, h⟩ := Json.bind_eq_ok.1 h
  dsimp only at h
  split at h
  next tree' told =>
    split at h
    next ended =>
      obtain rfl := Except.ok.inj h
      obtain ⟨fits, brackets⟩ := deepest_of_readOutermost read
      have blank : deepest .outside 0 rest = 0 := by
        rw [(Json.After.skipSpace rest).deepest_eq, List.isEmpty_iff.1 ended]
        rfl
      have shallow := depth_of_ofParts? (shrinks_decode? _) told
      rw [Json.nesting, brackets, blank, Json.maxLevels]
      omega
    next => cases h
  next => cases h

/--
A tree that is loaded from a text, however it is spelt there, is saved with its brackets nested no
deeper than they are in that text. If its doubles are read back from what is written for each
alone, then the tree is loaded again from either of its saved forms.
-/
theorem load_resaved (text : String) (tree : Node) (loaded : load text = .ok tree)
    (survive : ∀ x ∈ tree.doubles, Json.readNumber (Json.realText x) = .ok (.real x, [])) :
    load tree.save = .ok tree ∧ load tree.savePretty = .ok tree ∧
      Json.nesting tree.save ≤ Json.nesting text ∧ Json.nesting text ≤ 127 := by
  obtain ⟨shallow, fits⟩ := nesting_of_load loaded
  obtain ⟨compact, pretty⟩ := load_saved tree survive
  have saved : Json.nesting tree.save = tree.toJson.depth := by
    rw [save, Json.nesting_compact]
  rw [if_pos (by rw [saved]; exact shallow.trans fits)] at compact
  exact ⟨compact, pretty.trans compact, saved ▸ shallow, fits⟩

def looseSpelling : String :=
  "\x7b\"statements\": [" ++
    "[\"WAIT_STATEMENT\", \x7b\"value\": 1, \"note\": [[]], \"type\": 11\x7d], " ++
    "\x7b\"statement_type\": \x7b\"BREAK\": null\x7d, \"type\": 19\x7d], \"type\": \"PROGRAM\"\x7d"

def looseParts : Parts :=
  .named [("statements", .array [
    .array [.string "WAIT_STATEMENT", .object [("value", .number (.whole 1)),
      ("note", .array [.array []]), ("type", .number (.whole 11))]],
    .object [("statement_type", .object [("BREAK", .null)]), ("type", .number (.whole 19))]])]

theorem load_looseSpelling :
    load looseSpelling =
      .ok (.program [.waitStatement (.float 1.0), .controlStatement .break none]) := by
  have one : Decimal.nearest 1 1 = 1.0 := by decide +kernel
  have read : readOutermost (looseSpelling.toList.length + 1) Json.maxLevels
      looseSpelling.toList = .ok ((.program, looseParts), []) := by cbv
  rw [← one]
  exact load_of_read .program looseParts read rfl

theorem one_survives : Json.readNumber (Json.realText 1.0) = .ok (.real 1.0, []) := by
  have text : Json.realText 1.0 = ['1', '.', '0'] := by decide +kernel
  have value : Json.scale (Decimal.nearest 10 1) (-1) = some 1.0 := by decide +kernel
  rw [text]
  change (do let value ← Json.assemble false 10 (-1); return (value, [])) = _
  rw [Json.assemble, value]
  rfl

theorem load_resaved_loose :
    load looseSpelling =
        .ok (.program [.waitStatement (.float 1.0), .controlStatement .break none]) ∧
      load (save (.program [.waitStatement (.float 1.0), .controlStatement .break none])) =
        .ok (.program [.waitStatement (.float 1.0), .controlStatement .break none]) := by
  refine ⟨load_looseSpelling, (load_resaved _ _ load_looseSpelling fun x mem => ?_).1⟩
  obtain rfl : x = 1.0 := List.mem_singleton.1 mem
  exact one_survives

end DeskScript.Node
