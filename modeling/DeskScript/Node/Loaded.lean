import DeskScript.Json.Reader
import DeskScript.Node

/-!
Loading trees from JSON. Besides the saved form, a node may be an array of its kind and its
parts, members may come in any order and unknown ones are passed over, parts that are optional
may be missing, and a kind inside another node may be given by its number.

The outermost node is read from left to right: a wrong kind is noticed where it stands. All else
about its content is judged after the whole text of the node has been read.
-/

namespace DeskScript.Node

open Json (Fault Reader)

inductive Parts where
  | named (members : List (String × Json))
  | ordered (items : List Json)

def valuesOf (members : List (String × Json)) (name : String) : List Json :=
  (members.filter fun member => member.1 == name).map (·.2)

/--
The parts with the given names, in that order. No name may come twice, and a missing one gives
`none`; parts in order must be complete.
-/
def Parts.select? (parts : Parts) (names : List String) : Option (List (Option Json)) :=
  match parts with
  | .named members =>
    names.mapM fun name =>
      match valuesOf members name with
      | [] => some none
      | [value] => some (some value)
      | _ => none
  | .ordered items => if items.length = names.length then some (items.map some) else none

def text? : Json → Option String
  | .string text => some text
  | _ => none

def flag? : Json → Option Bool
  | .bool value => some value
  | _ => none

def integer? : Json → Option Int64
  | .number (.whole n) => Decimal.toInt64? n
  | _ => none

def double? : Json → Option Float
  | .number (.real x) => some x
  | .number (.whole n) =>
    let size := Decimal.nearest n.natAbs 1
    some (if n < 0 then -size else size)
  | _ => none

def items? : Json → Option (List Json)
  | .array items => some items
  | _ => none

def optional? {α : Type} (read : Json → Option α) : Option Json → Option (Option α)
  | none | some .null => some none
  | some json => (read json).map some

def list? {α : Type} (read : Json → Option α) (json : Json) : Option (List α) :=
  (items? json).bind fun items => items.mapM read

def control? : Json → Option Control
  | .string word => Control.ofWord? word
  | .object [(word, .null)] => Control.ofWord? word
  | .object [(word, .object [])] => Control.ofWord? word
  | _ => none

def Parts.values? (parts : Parts) (kind : Kind) : Option (List (Option Json)) :=
  match kind, parts with
  | .emptyStatement, .named _ => some []
  | kind, parts => parts.select? kind.fields

def ofValues? (node : Json → Option Node) (kind : Kind) (values : List (Option Json)) :
    Option Node := do
  match kind, values with
  | .program, [some statements] => return .program (← list? node statements)
  | .functionDefinition, [some name, some parameters, some body] =>
    return .functionDefinition (← text? name) (← list? text? parameters) (← list? node body)
  | .assignment, [some target, some value, type] =>
    return .assignment (← text? target) (← node value) (← optional? text? type)
  | .printStatement, [some form, some expression] =>
    return .printStatement (← text? form) (← node expression)
  | .waitStatement, [some expression] => return .waitStatement (← node expression)
  | .moveMouse, [some x, some y] => return .moveMouse (← node x) (← node y)
  | .keyOperation, [some operation, some key] =>
    return .keyOperation (← text? operation) (← text? key)
  | .buttonOperation, [some button] => return .buttonOperation (← text? button)
  | .binaryOperation, [some operator, some left, some right] =>
    return .binaryOperation (← text? operator) (← node left) (← node right)
  | .identifier, [some name] => return .identifier (← text? name)
  | .integer, [some value] => return .integer (← integer? value)
  | .float, [some value] => return .float (← double? value)
  | .time, [some value, some unit] => return .time (← double? value) (← text? unit)
  | .string, [some value] => return .string (← text? value)
  | .emptyStatement, [] => return .emptyStatement
  | .functionCall, [some function, some arguments] =>
    return .functionCall (← text? function) (← list? node arguments)
  | .boolean, [some value] => return .boolean (← flag? value)
  | .whileLoop, [some condition, some body] =>
    return .whileLoop (← node condition) (← list? node body)
  | .repeatLoop, [some count, some body] =>
    return .repeatLoop (← node count) (← list? node body)
  | .controlStatement, [some control, value] =>
    return .controlStatement (← control? control) (← optional? node value)
  | .update, [some target, some operation, some before] =>
    return .update (← text? target) (← text? operation) (← flag? before)
  | .ifStatement, [some condition, some thenBody, some conditions, some bodies, elseBody] =>
    return .ifStatement (← node condition) (← list? node thenBody) (← list? node conditions)
      (← list? (list? node) bodies) (← optional? (list? node) elseBody)
  | _, _ => none

def ofParts? (node : Json → Option Node) (kind : Kind) (parts : Parts) : Option Node := do
  let values ← parts.values? kind
  ofValues? node kind values

def kind? : Json → Option Kind
  | .string label => Kind.ofLabel? label
  | .number (.whole n) => if 0 ≤ n then Kind.all[n.toNat]? else none
  | _ => none

def split? : Json → Option (Kind × Parts)
  | .object members =>
    match valuesOf members "type" with
    | [tag] => (kind? tag).map (·, .named (members.filter fun member => member.1 != "type"))
    | _ => none
  | .array (tag :: items) => (kind? tag).map (·, .ordered items)
  | _ => none

def decode? : Nat → Json → Option Node
  | 0, _ => none
  | levels + 1, json => do
    let (kind, parts) ← split? json
    ofParts? (decode? levels) kind parts

def ofJson? (json : Json) : Option Node :=
  decode? json.depth json

def readKind : Reader Kind := fun text =>
  match Json.skipSpace text with
  | [] => .error .truncated
  | c :: rest =>
    if c = '[' || c = '\x7b' then .error .mismatched
    else do
      let (value, rest) ← Json.readScalar (c :: rest)
      match (text? value).bind Kind.ofLabel? with
      | some kind => return (kind, rest)
      | none => .error .mismatched

/-- What has been read of the outermost node: its kind, and its other parts reversed. -/
structure Pending (α : Type) where
  kind : Option Kind
  parts : List α

def readMember (bound levels : Nat) (pending : Pending (String × Json)) (name : String) :
    Reader (Pending (String × Json)) := fun text =>
  if name = "type" then
    if pending.kind.isSome then .error .mismatched
    else do
      let text ← Json.expectColon text
      let (kind, rest) ← readKind text
      return ({ pending with kind := some kind }, rest)
  else do
    let text ← Json.expectColon text
    let (value, rest) ← Json.readValue bound levels text
    return ({ pending with parts := (name, value) :: pending.parts }, rest)

def readItem (bound levels : Nat) (pending : Pending Json) : Reader (Pending Json) := fun text =>
  if pending.kind.isSome then do
    let (value, rest) ← Json.readValue bound levels text
    return ({ pending with parts := value :: pending.parts }, rest)
  else do
    let (kind, rest) ← readKind text
    return ({ pending with kind := some kind }, rest)

def readOutermost (bound : Nat) : Nat → Reader (Kind × Parts)
  | levels, text =>
    match Json.skipSpace text with
    | [] => .error .truncated
    | c :: rest =>
      if c = '\x7b' then do
        let (pending, rest) ←
          Json.readMembers (readMember bound (levels - 1)) bound true ⟨none, []⟩ rest
        match pending.kind with
        | some kind => return ((kind, .named pending.parts.reverse), rest)
        | none => .error .mismatched
      else if c = '[' then do
        let (pending, rest) ←
          Json.readItems (readItem bound (levels - 1)) bound true ⟨none, []⟩ rest
        match pending.kind with
        | some kind => return ((kind, .ordered pending.parts.reverse), rest)
        | none => .error .mismatched
      else do
        let _ ← Json.readScalar (c :: rest)
        .error .mismatched

def load (text : String) : Except Fault Node := do
  let characters := text.toList
  let ((kind, parts), rest) ←
    readOutermost (characters.length + 1) Json.maxLevels characters
  match ofParts? (decode? Json.maxLevels) kind parts with
  | some node => if (Json.skipSpace rest).isEmpty then return node else .error .malformed
  | none => .error .mismatched

end DeskScript.Node
