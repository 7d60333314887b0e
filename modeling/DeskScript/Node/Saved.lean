import DeskScript.Json.Writer
import DeskScript.Node

/-!
The saved form of a tree: each node is an object that names its kind under `"type"` and then
holds what the node consists of, in order.
-/

namespace DeskScript.Node

def optionalText (text : Option String) : Json :=
  match text with
  | some text => .string text
  | none => .null

def record (kind : Kind) (parts : List Json) : Json :=
  .object (("type", .string kind.label) :: kind.fields.zip parts)

mutual

def toJson : Node → Json
  | .program statements => record .program [.array (listToJson statements)]
  | .functionDefinition name parameters body =>
    record .functionDefinition
      [.string name, .array (parameters.map .string), .array (listToJson body)]
  | .assignment target value type =>
    record .assignment [.string target, toJson value, optionalText type]
  | .printStatement form expression => record .printStatement [.string form, toJson expression]
  | .waitStatement expression => record .waitStatement [toJson expression]
  | .moveMouse x y => record .moveMouse [toJson x, toJson y]
  | .keyOperation operation key => record .keyOperation [.string operation, .string key]
  | .buttonOperation button => record .buttonOperation [.string button]
  | .binaryOperation operator left right =>
    record .binaryOperation [.string operator, toJson left, toJson right]
  | .identifier name => record .identifier [.string name]
  | .integer value => record .integer [.number (.whole value.toInt)]
  | .float value => record .float [.number (.real value)]
  | .time value unit => record .time [.number (.real value), .string unit]
  | .string value => record .string [.string value]
  | .emptyStatement => record .emptyStatement []
  | .functionCall function arguments =>
    record .functionCall [.string function, .array (listToJson arguments)]
  | .boolean value => record .boolean [.bool value]
  | .whileLoop condition body =>
    record .whileLoop [toJson condition, .array (listToJson body)]
  | .repeatLoop count body => record .repeatLoop [toJson count, .array (listToJson body)]
  | .controlStatement control value =>
    record .controlStatement [.string control.word, optionToJson value]
  | .update target operation before =>
    record .update [.string target, .string operation, .bool before]
  | .ifStatement condition thenBody elseIfConditions elseIfBodies elseBody =>
    record .ifStatement
      [toJson condition, .array (listToJson thenBody), .array (listToJson elseIfConditions),
        .array (bodiesToJson elseIfBodies), bodyToJson elseBody]

def listToJson : List Node → List Json
  | [] => []
  | node :: rest => toJson node :: listToJson rest

def bodiesToJson : List (List Node) → List Json
  | [] => []
  | body :: rest => .array (listToJson body) :: bodiesToJson rest

def optionToJson : Option Node → Json
  | some node => toJson node
  | none => .null

def bodyToJson : Option (List Node) → Json
  | some body => .array (listToJson body)
  | none => .null

end

def save (node : Node) : String :=
  node.toJson.compact

def savePretty (node : Node) : String :=
  node.toJson.pretty

end DeskScript.Node
