import DeskScript.Proofs.Control.Program
import DeskScript.Proofs.Node.Accepted

/-!
What holds of every node of a script's tree: a conditional has one body for each of its further
conditions, a time is in seconds, and only control statements that can carry a value have one. The
parser sees to it, and what it saves is loaded as it was; but loading a text that was not saved from
a script does not check it. Main statements: `nodes_regular` and `loaded_irregular`.
-/

namespace DeskScript

namespace Node

/--
Every node in the tree of accepted tokens is regular, and so is every node in a tree that is loaded
from either of its texts, if its doubles are read back from what is written for each alone.
-/
theorem nodes_regular (options : Options) (tokens : List Token) (ast : Node)
    (accepted : (Parser.parse options tokens).result = .ok ast) :
    (∀ contexts node, ast.Occurs contexts node → node.Regular) ∧
      ((∀ x ∈ ast.doubles, Json.readNumber (Json.realText x) = .ok (.real x, [])) →
        ∀ text ∈ [ast.save, ast.savePretty], ∀ loaded, load text = .ok loaded →
          ∀ contexts node, loaded.Occurs contexts node → node.Regular) := by
  have regular (contexts : List Context) (node : Node) (occurs : ast.Occurs contexts node) :
      node.Regular := (Parser.orderly_of_parse_eq_ok accepted contexts node occurs).1
  refine ⟨regular, fun survive text saved loaded ok => ?_⟩
  obtain ⟨compact, pretty⟩ := load_saved ast survive
  have same : load text = load ast.save := by
    rcases List.mem_pair.1 saved with rfl | rfl
    · rfl
    · exact pretty
  rw [same, compact] at ok
  split at ok
  · obtain rfl : ast = loaded := Except.ok.inj ok
    exact regular
  · cases ok

def guardedLoop : List Token :=
  [⟨.keyword, some "WHILE", 1⟩, ⟨.keyword, some "TRUE", 1⟩, ⟨.operator, some "\x7b", 1⟩,
    ⟨.keyword, some "IF", 2⟩, ⟨.identifier, some "x", 2⟩, ⟨.operator, some "\x7b", 2⟩,
    ⟨.operator, some "\x7d", 2⟩, ⟨.keyword, some "ELSEIF", 3⟩, ⟨.identifier, some "y", 3⟩,
    ⟨.operator, some "\x7b", 3⟩, ⟨.operator, some "\x7d", 3⟩, ⟨.keyword, some "ELSE", 4⟩,
    ⟨.operator, some "\x7b", 4⟩, ⟨.keyword, some "BREAK", 4⟩, ⟨.operator, some "\x7d", 4⟩,
    ⟨.operator, some "\x7d", 5⟩]

def guardedBranches : Node :=
  .ifStatement (.identifier "x") [] [.identifier "y"] [[]] (some [.controlStatement .break none])

theorem nodes_regular_guarded :
    (Parser.parse .none guardedLoop).result =
        .ok (.program [.whileLoop (.boolean true) [guardedBranches]]) ∧
      guardedBranches.Regular := by
  have inside : Occurs (.whileLoop (.boolean true) [guardedBranches]) ([] ++ [.loop])
      guardedBranches := .within (.tail _ (.head _)) .here
  have occurs : Occurs (.program [.whileLoop (.boolean true) [guardedBranches]])
      ([] ++ [.loop] ++ []) guardedBranches := .within (.head _) inside
  exact ⟨rfl, (nodes_regular .none guardedLoop _ rfl).1 _ _ occurs⟩

def unpairedSpelling : String :=
  "\x7b\"type\":\"IF_STATEMENT\",\"condition\":\x7b\"type\":\"BOOLEAN\",\"value\":true\x7d," ++
    "\"then_body\":[],\"else_if_conditions\":[\x7b\"type\":\"BOOLEAN\",\"value\":false\x7d]," ++
    "\"else_if_bodies\":[]\x7d"

def minuteSpelling : String :=
  "\x7b\"type\":\"TIME\",\"value\":1,\"unit\":\"m\"\x7d"

def valuedSpelling : String :=
  "\x7b\"type\":\"CONTROL_STATEMENT\",\"statement_type\":\"BREAK\"," ++
    "\"value\":\x7b\"type\":\"BOOLEAN\",\"value\":true\x7d\x7d"

theorem load_unpairedSpelling :
    load unpairedSpelling =
      .ok (.ifStatement (.boolean true) [] [.boolean false] [] none) := by
  refine load_of_read .ifStatement (.named [
    ("condition", .object [("type", .string "BOOLEAN"), ("value", .bool true)]),
    ("then_body", .array []),
    ("else_if_conditions", .array [.object [("type", .string "BOOLEAN"), ("value", .bool false)]]),
    ("else_if_bodies", .array [])]) ?_ rfl
  cbv

theorem load_minuteSpelling :
    load minuteSpelling = .ok (.time (Decimal.nearest 1 1) "m") := by
  refine load_of_read .time
    (.named [("value", .number (.whole 1)), ("unit", .string "m")]) ?_ rfl
  cbv

theorem load_valuedSpelling :
    load valuedSpelling = .ok (.controlStatement .break (some (.boolean true))) := by
  refine load_of_read .controlStatement (.named [
    ("statement_type", .string "BREAK"),
    ("value", .object [("type", .string "BOOLEAN"), ("value", .bool true)])]) ?_ rfl
  cbv

/-- Trees are loaded that have a node which is not regular, of each kind that can be so. -/
theorem loaded_irregular :
    (∃ tree, load unpairedSpelling = .ok tree ∧ ¬ tree.Regular) ∧
      (∃ tree, load minuteSpelling = .ok tree ∧ ¬ tree.Regular) ∧
      ∃ tree, load valuedSpelling = .ok tree ∧ ¬ tree.Regular := by
  have unpaired : ¬ Regular (.ifStatement (.boolean true) [] [.boolean false] [] none) := by
    simp [Regular]
  have minutes : ¬ Regular (.time (Decimal.nearest 1 1) "m") := by
    simp [Regular, seconds]
  have valued : ¬ Regular (.controlStatement .break (some (.boolean true))) := by
    simp [Regular, Control.carriesValue]
  exact ⟨⟨_, load_unpairedSpelling, unpaired⟩, ⟨_, load_minuteSpelling, minutes⟩,
    ⟨_, load_valuedSpelling, valued⟩⟩

end Node

end DeskScript
