import DeskScript.Proofs.Json.Nesting
import DeskScript.Proofs.Node.Decoded

/-!
Loading undoes saving. Main statement: `load_save`.
-/

namespace DeskScript.Node

open Json (Closed Fault Layout Survives write)

variable {kind : Kind} {parts : List Json} {bound levels : Nat}

mutual

def doubles : Node → List Float
  | .float value | .time value _ => [value]
  | .program nodes | .functionDefinition _ _ nodes | .functionCall _ nodes => doublesOf nodes
  | .assignment _ node _ | .printStatement _ node | .waitStatement node => doubles node
  | .moveMouse first second | .binaryOperation _ first second => doubles first ++ doubles second
  | .whileLoop first body | .repeatLoop first body => doubles first ++ doublesOf body
  | .controlStatement _ value => doublesOfOption value
  | .ifStatement condition thenBody conditions bodies elseBody =>
    doubles condition ++ doublesOf thenBody ++ doublesOf conditions ++ doublesOfBodies bodies ++
      doublesOfBody elseBody
  | .keyOperation .. | .buttonOperation _ | .identifier _ | .integer _ | .string _
  | .emptyStatement | .boolean _ | .update .. => []

def doublesOf : List Node → List Float
  | [] => []
  | node :: nodes => doubles node ++ doublesOf nodes

def doublesOfBodies : List (List Node) → List Float
  | [] => []
  | body :: bodies => doublesOf body ++ doublesOfBodies bodies

def doublesOfOption : Option Node → List Float
  | none => []
  | some node => doubles node

def doublesOfBody : Option (List Node) → List Float
  | none => []
  | some body => doublesOf body

end

/-- Every one of the doubles is read back from what is written for it. -/
def Survive (doubles : List Float) : Prop :=
  ∀ x ∈ doubles, (Json.Number.real x).Survives

theorem survive_append {first second : List Float} :
    Survive (first ++ second) ↔ Survive first ∧ Survive second :=
  List.forall_mem_append

theorem survives_record (survive : ∀ part ∈ parts, part.Survives) :
    (record kind parts).Survives :=
  .object (List.forall_mem_cons.2
    ⟨.string, fun _ mem => survive _ (List.of_mem_zip mem).2⟩)

theorem survives_array {items : List Json} :
    Survives (.array items) ↔ ∀ item ∈ items, item.Survives :=
  ⟨fun | .array survive => survive, .array⟩

theorem survives_object {members : List (String × Json)} :
    Survives (.object members) ↔ ∀ member ∈ members, member.2.Survives :=
  ⟨fun | .object survive => survive, .object⟩

theorem survives_texts (texts : List String) : Survives (.array (texts.map .string)) :=
  .array (List.forall_mem_map.2 fun _ _ => .string)

theorem survives_optionalText (text : Option String) : (optionalText text).Survives := by
  cases text with
  | none => exact .null
  | some text => exact .string

theorem survives_whole (value : Int64) : Survives (.number (.whole value.toInt)) :=
  .number (Json.readNumber_wholeText value)

mutual

theorem survives_toJson : (node : Node) → Survive node.doubles → node.toJson.Survives
  | .float x, survive | .time x _, survive => survives_record (by
    have double : Survives (.number (.real x)) := .number (survive x (List.mem_singleton_self x))
    simp [double, Survives.string])
  | .integer value, _ => survives_record (by simp [survives_whole])
  | .boolean _, _ => survives_record (by simp [Survives.bool])
  | .keyOperation .., _ | .buttonOperation _, _ | .identifier _, _ | .string _, _
  | .emptyStatement, _ | .update .., _ => survives_record (by simp [Survives.string, Survives.bool])
  | .program nodes, survive | .functionCall _ nodes, survive => survives_record (by
    simp [Survives.string, survives_listToJson nodes survive])
  | .functionDefinition _ parameters nodes, survive => survives_record (by
    simp [Survives.string, survives_texts, survives_listToJson nodes survive])
  | .assignment _ node type, survive => survives_record (by
    simp [Survives.string, survives_toJson node survive, survives_optionalText])
  | .printStatement _ node, survive | .waitStatement node, survive => survives_record (by
    simp [Survives.string, survives_toJson node survive])
  | .moveMouse first second, survive | .binaryOperation _ first second, survive =>
    survives_record (by
      have ⟨survive, survive'⟩ := survive_append.1 survive
      simp [Survives.string, survives_toJson first survive, survives_toJson second survive'])
  | .whileLoop first body, survive | .repeatLoop first body, survive => survives_record (by
    have ⟨survive, survive'⟩ := survive_append.1 survive
    simp [survives_toJson first survive, survives_listToJson body survive'])
  | .controlStatement _ value, survive => survives_record (by
    simp [Survives.string, survives_optionToJson value survive])
  | .ifStatement condition thenBody conditions bodies elseBody, survive => survives_record (by
    simp only [doubles, survive_append] at survive
    obtain ⟨⟨⟨⟨first, second⟩, third⟩, fourth⟩, last⟩ := survive
    simp [survives_toJson condition first, survives_listToJson thenBody second,
      survives_listToJson conditions third, survives_bodiesToJson bodies fourth,
      survives_bodyToJson elseBody last])

theorem survives_listToJson : (nodes : List Node) → Survive (doublesOf nodes) →
    Survives (.array (listToJson nodes))
  | [], _ => .array (List.forall_mem_nil _)
  | node :: nodes, survive => by
    have ⟨first, others⟩ := survive_append.1 survive
    have survive := survives_array.1 (survives_listToJson nodes others)
    exact .array (List.forall_mem_cons.2 ⟨survives_toJson node first, survive⟩)

theorem survives_bodiesToJson : (bodies : List (List Node)) → Survive (doublesOfBodies bodies) →
    Survives (.array (bodiesToJson bodies))
  | [], _ => .array (List.forall_mem_nil _)
  | body :: bodies, survive => by
    have ⟨first, others⟩ := survive_append.1 survive
    have survive := survives_array.1 (survives_bodiesToJson bodies others)
    exact .array (List.forall_mem_cons.2 ⟨survives_listToJson body first, survive⟩)

theorem survives_optionToJson : (value : Option Node) → Survive (doublesOfOption value) →
    (optionToJson value).Survives
  | none, _ => .null
  | some node, survive => survives_toJson node survive

theorem survives_bodyToJson : (body : Option (List Node)) → Survive (doublesOfBody body) →
    (bodyToJson body).Survives
  | none, _ => .null
  | some body, survive => survives_listToJson body survive

end

def takeMember (levels : Nat) (pending : Pending (String × Json)) (member : String × Json) :
    Except Fault (Pending (String × Json)) :=
  if member.1 = "type" then
    if pending.kind.isSome then .error .mismatched
    else
      match (text? member.2).bind Kind.ofLabel? with
      | some kind => .ok { pending with kind := some kind }
      | none => .error .mismatched
  else if member.2.depth ≤ levels then .ok { pending with parts := member :: pending.parts }
  else .error .malformed

theorem readKind_writeText (label : String) (rest : List Char) :
    readKind (Json.writeText label rest) =
      match Kind.ofLabel? label with
      | some kind => .ok (kind, rest)
      | none => .error .mismatched := by
  have scalar := Json.readScalar_writeText label rest
  unfold readKind
  rw [Json.skipSpace_writeText]
  rw [Json.writeText, List.cons_append] at scalar ⊢
  dsimp only
  rw [if_neg (by decide), scalar, Json.ok_bind]
  rfl

theorem readMember_type (layout : Layout) (label : String) (pending : Pending (String × Json))
    (rest : List Char) :
    readMember bound levels pending "type"
        (':' :: (layout.afterColon ++ Json.writeText label rest)) =
      (takeMember levels pending ("type", .string label)).map (·, rest) := by
  rw [readMember, takeMember, if_pos rfl, if_pos rfl]
  split
  next => rfl
  next =>
    have kind : readKind (layout.afterColon ++ Json.writeText label rest) =
        readKind (Json.writeText label rest) := by
      unfold readKind
      rw [Json.skipSpace_append layout.afterColon_blank]
    rw [Json.expectColon_colon, Json.ok_bind, kind, readKind_writeText]
    change _ = Except.map _ (match Kind.ofLabel? label with | some _ => _ | none => _)
    cases Kind.ofLabel? label <;> rfl

theorem readMember_part (layout : Layout) {level : Nat} {member : String × Json}
    (apart : member.1 ≠ "type") (survives : member.2.Survives)
    (pending : Pending (String × Json)) {rest : List Char} (closed : Closed rest)
    (enough : (write layout level member.2 rest).length ≤ bound) :
    readMember bound levels pending member.1
        (':' :: (layout.afterColon ++ write layout level member.2 rest)) =
      (takeMember levels pending member).map (·, rest) := by
  rw [readMember, takeMember, if_neg apart, if_neg apart, Json.expectColon_colon, Json.ok_bind,
    Json.readValue_of_blank layout.afterColon_blank,
    Json.readsBack_of_survives survives levels layout level rest closed enough]
  split <;> rfl

theorem foldlM_takeMember {members : List (String × Json)}
    (apart : ∀ member ∈ members, member.1 ≠ "type") (pending : Pending (String × Json)) :
    members.foldlM (takeMember levels) pending =
      if Json.membersDepth members ≤ levels then
        .ok { pending with parts := members.reverse ++ pending.parts }
      else .error .malformed := by
  induction members generalizing pending with
  | nil => rfl
  | cons member members ih =>
    have ⟨first, others⟩ := List.forall_mem_cons.1 apart
    rw [List.foldlM_cons, takeMember, if_neg first, Json.membersDepth]
    by_cases fits : member.2.depth ≤ levels
    · rw [if_pos fits, Json.ok_bind, ih others]
      simp [fits]
    · rw [if_neg fits, if_neg (by omega)]
      rfl

theorem readOutermost_record (survives : (record kind parts).Survives) (layout : Layout)
    (enough : (write layout 0 (record kind parts) []).length ≤ bound) (positive : 0 < levels) :
    readOutermost bound levels (write layout 0 (record kind parts) []) =
      if (record kind parts).depth ≤ levels then .ok ((kind, .named (kind.fields.zip parts)), [])
      else .error .malformed := by
  obtain ⟨levels, rfl⟩ := Nat.exists_eq_add_one.2 positive
  have apart : ∀ member ∈ kind.fields.zip parts, member.1 ≠ "type" :=
    fun member mem same => type_not_mem_fields kind (same ▸ fst_mem_of_mem_zip mem)
  have survive := survives_object.1 survives
  have reads : ∀ entry ∈ ("type", Json.string kind.label) :: kind.fields.zip parts,
      Json.ReadsMember layout (0 + 1) bound (readMember bound levels) (takeMember levels)
        entry := by
    refine List.forall_mem_cons.2 ⟨fun pending rest _ _ => ?_, fun entry mem pending rest => ?_⟩
    · exact readMember_type layout kind.label pending rest
    · exact readMember_part layout (apart entry mem) (survive entry (List.mem_cons_of_mem _ mem))
        pending
  obtain ⟨inside, text, read⟩ :=
    Json.readMembers_object survive reads [] ⟨none, []⟩ enough (Nat.le_refl _)
  have first : takeMember levels ⟨none, []⟩ ("type", .string kind.label) = .ok ⟨some kind, []⟩ := by
    rw [takeMember, if_pos rfl, if_neg (by simp), text?, Option.bind_some, ofLabel?_label]
  rw [record, text, readOutermost, Json.skipSpace_cons (by decide)]
  dsimp only
  rw [if_pos rfl, Nat.add_sub_cancel, read, List.foldlM_cons, first, Json.ok_bind,
    foldlM_takeMember apart, Json.depth, Json.membersDepth, Json.depth]
  simp only [Nat.add_le_add_iff_right, Nat.zero_max]
  split
  · simp [Json.ok_bind, Except.map, pure, Except.pure]
  · rfl

theorem load_of_read {text : String} {node : Node} (kind : Kind) (parts : Parts)
    (read : readOutermost (text.toList.length + 1) Json.maxLevels text.toList =
      .ok ((kind, parts), []))
    (told : ofParts? (decode? Json.maxLevels) kind parts = some node) : load text = .ok node := by
  rw [load]
  dsimp only
  rw [read, Json.ok_bind]
  dsimp only
  rw [told]
  rfl

theorem load_write (node : Node) (survive : Survive node.doubles) (layout : Layout) :
    load (String.ofList (write layout 0 node.toJson [])) =
      if node.toJson.depth ≤ Json.maxLevels then .ok node else .error .malformed := by
  have survives := survives_toJson node survive
  have told := decode?_toJson node
  obtain ⟨parts, object, -⟩ := toJson_eq_record node
  rw [object] at survives told ⊢
  rw [load, String.toList_ofList]
  dsimp only
  rw [readOutermost_record survives layout (Nat.le_succ _) (by decide)]
  split
  next fits =>
    have found := told (Json.maxLevels + 1) (Nat.le_succ_of_le fits)
    rw [decode?_succ_record] at found
    rw [Json.ok_bind]
    dsimp only
    rw [found]
    rfl
  next => rfl

/--
Loading a saved tree gives the tree back, whichever way it was saved, if its brackets are nested at
most as deep as a text may be and its doubles are read back from what is written for each alone.
With deeper brackets the text is malformed.
-/
theorem load_save (node : Node)
    (survive : ∀ x ∈ node.doubles,
      x.isFinite = true ∧ Json.readNumber (Json.realText x) = .ok (.real x, [])) :
    (Json.nesting node.save ≤ 127 → load node.save = .ok node ∧ load node.savePretty = .ok node) ∧
      (128 ≤ Json.nesting node.save →
        load node.save = .error .malformed ∧ load node.savePretty = .error .malformed) := by
  have survive' : Survive node.doubles := fun x mem => (survive x mem).2
  have compact := load_write node survive' .compact
  have pretty := load_write node survive' .pretty
  rw [Json.write_compact] at compact
  rw [Json.write_pretty] at pretty
  rw [save, savePretty, Json.nesting_compact, Json.compact, Json.pretty, compact, pretty]
  constructor
  · intro fits
    exact ⟨if_pos fits, if_pos fits⟩
  · intro deep
    exact ⟨if_neg (Nat.not_le_of_lt deep), if_neg (Nat.not_le_of_lt deep)⟩

theorem half_survives : Json.readNumber (Json.realText 0.5) = .ok (.real 0.5, []) := by
  have text : Json.realText 0.5 = ['0', '.', '5'] := by decide +kernel
  have value : Json.scale (Decimal.nearest 5 1) (-1) = some 0.5 := by decide +kernel
  rw [text]
  change (do let value ← Json.assemble false 5 (-1); return (value, [])) = _
  rw [Json.assemble, value]
  rfl

theorem load_save_mixed :
    load (save (.program [.string "[\"\\\n\x01é", .integer (-9223372036854775808), .float 0.5])) =
        .ok (.program [.string "[\"\\\n\x01é", .integer (-9223372036854775808), .float 0.5]) ∧
      load (savePretty (Nat.repeat .waitStatement 127 .emptyStatement)) = .error .malformed := by
  constructor
  · refine ((load_save _ fun x mem => ?_).1 ?_).1
    · obtain rfl : x = 0.5 := List.mem_singleton.1 mem
      exact ⟨by decide +kernel, half_survives⟩
    · rw [save, Json.nesting_compact]
      decide
  · refine ((load_save _ fun x mem => ?_).2 ?_).2
    · exact absurd mem List.not_mem_nil
    · rw [save, Json.nesting_compact]
      decide +kernel

end DeskScript.Node
