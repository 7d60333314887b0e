import DeskScript.Node.Loaded
import DeskScript.Node.Saved
import DeskScript.Proofs.Json.Layout

/-!
A tree is told back from its saved form.
-/

namespace DeskScript.Node

variable {kind : Kind} {parts : List Json} {levels : Nat}

theorem valuesOf_append (first second : List (String × Json)) (name : String) :
    valuesOf (first ++ second) name = valuesOf first name ++ valuesOf second name := by
  rw [valuesOf, List.filter_append, List.map_append]
  rfl

theorem valuesOf_eq_nil {members : List (String × Json)} {name : String}
    (absent : ∀ member ∈ members, member.1 ≠ name) : valuesOf members name = [] := by
  rw [valuesOf, List.filter_eq_nil_iff.2 fun member mem => by simpa using absent member mem]
  rfl

theorem fst_mem_of_mem_zip {names : List String} {member : String × Json}
    (mem : member ∈ names.zip parts) : member.1 ∈ names :=
  (List.of_mem_zip mem).1

theorem select?_zip {names : List String} (distinct : names.Nodup)
    (length : parts.length = names.length) (before : List (String × Json))
    (apart : ∀ member ∈ before, member.1 ∉ names) :
    (Parts.named (before ++ names.zip parts)).select? names = some (parts.map some) := by
  unfold Parts.select?
  dsimp only
  induction names generalizing parts before with
  | nil =>
    obtain rfl := List.length_eq_zero_iff.1 length
    rfl
  | cons name names ih =>
    obtain ⟨part, parts, rfl⟩ := List.exists_cons_of_length_eq_add_one length
    obtain ⟨fresh, distinct⟩ := List.nodup_cons.1 distinct
    have earlier : valuesOf before name = [] :=
      valuesOf_eq_nil fun member mem same => apart member mem (same ▸ List.mem_cons_self)
    have later : valuesOf (names.zip parts) name = [] :=
      valuesOf_eq_nil fun member mem same => fresh (same ▸ fst_mem_of_mem_zip mem)
    have here : valuesOf (before ++ (name :: names).zip (part :: parts)) name = [part] := by
      rw [valuesOf_append, earlier, List.zip_cons_cons, ← List.singleton_append, valuesOf_append,
        later]
      simp [valuesOf]
    have apart' : ∀ member ∈ before ++ [(name, part)], member.1 ∉ names := by
      refine List.forall_mem_append.2 ⟨fun member mem inside => ?_, by simpa using fresh⟩
      exact apart member mem (List.mem_cons_of_mem _ inside)
    have next := ih distinct (Nat.succ.inj length) (before ++ [(name, part)]) apart'
    rw [List.append_assoc, List.singleton_append] at next
    rw [List.mapM_cons, here, List.zip_cons_cons, next]
    rfl

theorem fields_nodup (kind : Kind) : kind.fields.Nodup := by
  cases kind <;> decide

theorem type_not_mem_fields (kind : Kind) : "type" ∉ kind.fields := by
  cases kind <;> decide

theorem ofLabel?_label (kind : Kind) : Kind.ofLabel? kind.label = some kind := by
  cases kind <;> decide

theorem split?_record (kind : Kind) (parts : List Json) :
    split? (record kind parts) = some (kind, .named (kind.fields.zip parts)) := by
  have apart : ∀ member ∈ kind.fields.zip parts, member.1 ≠ "type" :=
    fun member mem same => type_not_mem_fields kind (same ▸ fst_mem_of_mem_zip mem)
  have tag : valuesOf (("type", .string kind.label) :: kind.fields.zip parts) "type" =
      [.string kind.label] := by
    rw [← List.singleton_append, valuesOf_append, valuesOf_eq_nil apart]
    simp [valuesOf]
  have others : (("type", Json.string kind.label) :: kind.fields.zip parts).filter
      (fun member => member.1 != "type") = kind.fields.zip parts := by
    rw [List.filter_cons_of_neg (by simp), List.filter_eq_self.2]
    simpa using apart
  rw [record, split?, tag]
  dsimp only
  rw [kind?, ofLabel?_label, others]
  rfl

theorem values?_fields (kind : Kind) (length : parts.length = kind.fields.length) :
    (Parts.named (kind.fields.zip parts)).values? kind = some (parts.map some) := by
  have found := select?_zip (fields_nodup kind) length [] (by simp)
  rw [List.nil_append] at found
  unfold Parts.values?
  split
  next =>
    obtain rfl := List.length_eq_zero_iff.1 length
    rfl
  next => exact found

theorem exists_levels (length : parts.length = kind.fields.length)
    (le : (record kind parts).depth ≤ levels) :
    ∃ fewer, levels = fewer + 1 ∧ ∀ part ∈ parts, part.depth ≤ fewer := by
  rw [record, Json.depth] at le
  obtain ⟨fewer, rfl⟩ : ∃ fewer, levels = fewer + 1 := Nat.exists_eq_add_one.2 (by omega)
  have members := Json.membersDepth_le.1 (Nat.le_of_succ_le_succ le)
  refine ⟨fewer, rfl, fun part mem => ?_⟩
  rw [← List.map_snd_zip (Nat.le_of_eq length), List.mem_map] at mem
  obtain ⟨member, inside, rfl⟩ := mem
  exact members member (List.mem_cons_of_mem _ inside)

theorem decode?_succ_record (kind : Kind) (parts : List Json) (levels : Nat) :
    decode? (levels + 1) (record kind parts) =
      ofParts? (decode? levels) kind (.named (kind.fields.zip parts)) := by
  rw [decode?, split?_record]
  rfl

theorem decode?_record {node : Node} (length : parts.length = kind.fields.length)
    (le : (record kind parts).depth ≤ levels)
    (told : ∀ fewer, (∀ part ∈ parts, part.depth ≤ fewer) →
      ofValues? (decode? fewer) kind (parts.map some) = some node) :
    decode? levels (record kind parts) = some node := by
  obtain ⟨fewer, rfl, fit⟩ := exists_levels length le
  rw [decode?_succ_record, ofParts?, values?_fields kind length]
  exact told fewer fit

theorem optional?_of_ne {α : Type} {read : Json → Option α} {json : Json} (ne : json ≠ .null) :
    optional? read (some json) = (read json).map some := by
  cases json with
  | null => exact absurd rfl ne
  | _ => rfl

theorem optional?_optionalText (text : Option String) :
    optional? text? (some (optionalText text)) = some text := by
  cases text <;> rfl

theorem list?_texts (texts : List String) :
    list? text? (.array (texts.map .string)) = some texts := by
  change (texts.map Json.string).mapM text? = some texts
  induction texts with
  | nil => rfl
  | cons text texts ih =>
    rw [List.map_cons, List.mapM_cons, ih]
    rfl

theorem integer?_whole (value : Int64) : integer? (.number (.whole value.toInt)) = some value := by
  have low := value.le_toInt
  have high := value.toInt_lt
  rw [integer?, Decimal.toInt64?, if_pos (by omega), Int64.ofInt_toInt]

theorem control?_word (control : Control) : control? (.string control.word) = some control := by
  cases control <;> rfl

theorem toJson_eq_record (node : Node) :
    ∃ parts, node.toJson = record node.kind parts ∧ parts.length = node.kind.fields.length := by
  cases node <;> exact ⟨_, rfl, rfl⟩

theorem toJson_ne_null (node : Node) : node.toJson ≠ .null := by
  obtain ⟨parts, object, -⟩ := toJson_eq_record node
  rw [object, record]
  simp

mutual

theorem decode?_toJson : (node : Node) → (levels : Nat) → node.toJson.depth ≤ levels →
    decode? levels node.toJson = some node
  | .program statements, _, le => decode?_record rfl le fun levels fit => by
    simp [ofValues?, list?_listToJson statements levels (fit _ (by simp))]
  | .functionDefinition name parameters body, _, le => decode?_record rfl le fun levels fit => by
    simp [ofValues?, text?, list?_texts, list?_listToJson body levels (fit _ (by simp))]
  | .assignment target value type, _, le => decode?_record rfl le fun levels fit => by
    simp [ofValues?, text?, decode?_toJson value levels (fit _ (by simp)), optional?_optionalText]
  | .printStatement form expression, _, le => decode?_record rfl le fun levels fit => by
    simp [ofValues?, text?, decode?_toJson expression levels (fit _ (by simp))]
  | .waitStatement expression, _, le => decode?_record rfl le fun levels fit => by
    simp [ofValues?, decode?_toJson expression levels (fit _ (by simp))]
  | .moveMouse x y, _, le => decode?_record rfl le fun levels fit => by
    simp [ofValues?, decode?_toJson x levels (fit _ (by simp)),
      decode?_toJson y levels (fit _ (by simp))]
  | .keyOperation .., _, le => decode?_record rfl le fun _ _ => rfl
  | .buttonOperation _, _, le => decode?_record rfl le fun _ _ => rfl
  | .binaryOperation operator left right, _, le => decode?_record rfl le fun levels fit => by
    simp [ofValues?, text?, decode?_toJson left levels (fit _ (by simp)),
      decode?_toJson right levels (fit _ (by simp))]
  | .identifier _, _, le => decode?_record rfl le fun _ _ => rfl
  | .integer value, _, le => decode?_record rfl le fun _ _ => by
    simp [ofValues?, integer?_whole]
  | .float _, _, le => decode?_record rfl le fun _ _ => rfl
  | .time .., _, le => decode?_record rfl le fun _ _ => rfl
  | .string _, _, le => decode?_record rfl le fun _ _ => rfl
  | .emptyStatement, _, le => decode?_record rfl le fun _ _ => rfl
  | .functionCall function arguments, _, le => decode?_record rfl le fun levels fit => by
    simp [ofValues?, text?, list?_listToJson arguments levels (fit _ (by simp))]
  | .boolean _, _, le => decode?_record rfl le fun _ _ => rfl
  | .whileLoop condition body, _, le => decode?_record rfl le fun levels fit => by
    simp [ofValues?, decode?_toJson condition levels (fit _ (by simp)),
      list?_listToJson body levels (fit _ (by simp))]
  | .repeatLoop count body, _, le => decode?_record rfl le fun levels fit => by
    simp [ofValues?, decode?_toJson count levels (fit _ (by simp)),
      list?_listToJson body levels (fit _ (by simp))]
  | .controlStatement control value, _, le => decode?_record rfl le fun levels fit => by
    simp [ofValues?, control?_word, optional?_optionToJson value levels (fit _ (by simp))]
  | .update .., _, le => decode?_record rfl le fun _ _ => rfl
  | .ifStatement condition thenBody conditions bodies elseBody, _, le =>
    decode?_record rfl le fun levels fit => by
      simp [ofValues?, decode?_toJson condition levels (fit _ (by simp)),
        list?_listToJson thenBody levels (fit _ (by simp)),
        list?_listToJson conditions levels (fit _ (by simp)),
        list?_bodiesToJson bodies levels (fit _ (by simp)),
        optional?_bodyToJson elseBody levels (fit _ (by simp))]

theorem list?_listToJson : (nodes : List Node) → (levels : Nat) →
    (Json.array (listToJson nodes)).depth ≤ levels →
    list? (decode? levels) (.array (listToJson nodes)) = some nodes
  | [], _, _ => rfl
  | node :: nodes, levels, le => by
    rw [Json.depth, listToJson, Json.itemsDepth] at le
    have first := decode?_toJson node levels (by omega)
    have others := list?_listToJson nodes levels (by rw [Json.depth]; omega)
    rw [list?, items?, Option.bind_some] at others ⊢
    rw [listToJson, List.mapM_cons, first, others]
    rfl

theorem list?_bodiesToJson : (bodies : List (List Node)) → (levels : Nat) →
    (Json.array (bodiesToJson bodies)).depth ≤ levels →
    list? (list? (decode? levels)) (.array (bodiesToJson bodies)) = some bodies
  | [], _, _ => rfl
  | body :: bodies, levels, le => by
    rw [Json.depth, bodiesToJson, Json.itemsDepth] at le
    have first := list?_listToJson body levels (by omega)
    have others := list?_bodiesToJson bodies levels (by rw [Json.depth]; omega)
    rw [list?, items?, Option.bind_some] at others ⊢
    rw [bodiesToJson, List.mapM_cons, first, others]
    rfl

theorem optional?_optionToJson : (value : Option Node) → (levels : Nat) →
    (optionToJson value).depth ≤ levels →
    optional? (decode? levels) (some (optionToJson value)) = some value
  | none, _, _ => rfl
  | some node, levels, le => by
    rw [optionToJson] at le ⊢
    rw [optional?_of_ne (toJson_ne_null node), decode?_toJson node levels le]
    rfl

theorem optional?_bodyToJson : (body : Option (List Node)) → (levels : Nat) →
    (bodyToJson body).depth ≤ levels →
    optional? (list? (decode? levels)) (some (bodyToJson body)) = some body
  | none, _, _ => rfl
  | some body, levels, le => by
    rw [bodyToJson] at le ⊢
    rw [optional?_of_ne (by simp), list?_listToJson body levels le]
    rfl

end

end DeskScript.Node
