import DeskScript.Proofs.Grammar.Basic

/-!
Where control statements stand in a tree, and what else holds of every node. A node occurs in a tree
at the end of a path of children, and the path tells which bodies of loops and functions it goes
through. In a tree of the grammar every control statement stands in a body that it can leave, or its
site is in one, and every conditional has a body for each of its further conditions.
-/

namespace DeskScript

namespace Node

def children : Node → List (List Context × Node)
  | .program statements => statements.map ([], ·)
  | .functionDefinition _ _ body => body.map ([.function], ·)
  | .assignment _ value _ => [([], value)]
  | .printStatement _ expression | .waitStatement expression => [([], expression)]
  | .moveMouse x y => [([], x), ([], y)]
  | .binaryOperation _ left right => [([], left), ([], right)]
  | .functionCall _ arguments => arguments.map ([], ·)
  | .whileLoop condition body => ([], condition) :: body.map ([.loop], ·)
  | .repeatLoop count body => ([], count) :: body.map ([.loop], ·)
  | .controlStatement _ value => value.toList.map ([], ·)
  | .ifStatement condition thenBody conditions bodies elseBody =>
    ([], condition) ::
      (thenBody ++ conditions ++ bodies.flatten ++ elseBody.getD []).map ([], ·)
  | .keyOperation .. | .buttonOperation _ | .identifier _ | .integer _ | .float _ | .time ..
  | .string _ | .emptyStatement | .boolean _ | .update .. => []

/-- The second node occurs in the first, inside the bodies of these constructs, innermost first. -/
inductive Occurs : Node → List Context → Node → Prop where
  | here {node : Node} : Occurs node [] node
  | within {root child node : Node} {around inner : List Context} :
    (around, child) ∈ root.children → Occurs child inner node → Occurs root (inner ++ around) node

/-- Every control statement in a tree stands in a body that it can leave, or the tree itself
does, and none has a value that it cannot carry. -/
def Placed (contexts : List Context) (root : Node) : Prop :=
  ∀ inner control value, root.Occurs inner (.controlStatement control value) →
    control.context ∈ inner ++ contexts ∧ (control.carriesValue = false → value = none)

def Regular : Node → Prop
  | .ifStatement _ _ conditions bodies _ => conditions.length = bodies.length
  | .time _ unit => unit = seconds
  | .controlStatement control value => control.carriesValue = false → value = none
  | _ => True

def Proper (contexts : List Context) (node : Node) : Prop :=
  node.Regular ∧
    match node with
    | .controlStatement control _ => control.context ∈ contexts
    | _ => True

def Orderly (contexts : List Context) (root : Node) : Prop :=
  ∀ inner node, root.Occurs inner node → node.Proper (inner ++ contexts)

theorem Orderly.placed {contexts : List Context} {root : Node} (orderly : root.Orderly contexts) :
    root.Placed contexts := by
  intro inner control value occurs
  obtain ⟨carried, enclosed⟩ := orderly inner _ occurs
  exact ⟨enclosed, carried⟩

theorem orderly_of_children {contexts : List Context} {root : Node} (proper : root.Proper contexts)
    (inside : ∀ entry ∈ root.children, Orderly (entry.1 ++ contexts) entry.2) :
    Orderly contexts root := by
  intro inner node occurs
  cases occurs with
  | here => exact proper
  | within mem occurs =>
    have orderly := inside _ mem _ node occurs
    rwa [← List.append_assoc] at orderly

theorem orderly_of_leaf {contexts : List Context} {root : Node} (proper : root.Proper contexts)
    (leaf : root.children = []) : Orderly contexts root :=
  orderly_of_children proper (by simp [leaf])

theorem orderly_controlStatement {contexts : List Context} {control : Control}
    {value : Option Node} (enclosed : control.context ∈ contexts)
    (carried : control.carriesValue = false → value = none)
    (inside : ∀ node ∈ value, Orderly contexts node) :
    Orderly contexts (.controlStatement control value) := by
  refine orderly_of_children ⟨carried, enclosed⟩ (List.forall_mem_map.2 fun node mem => ?_)
  exact inside node (Option.mem_toList.1 mem)

end Node

namespace Grammar

open Node (orderly_of_children orderly_of_leaf orderly_controlStatement)

variable {contexts : List Context}

def Term.Orderly : Term → Prop
  | .expression _ node | .primary node | .call node => ∀ contexts, node.Orderly contexts
  | .items nodes => ∀ node ∈ nodes, ∀ contexts, node.Orderly contexts

def Phrase.Orderly (contexts : List Context) : Phrase → Prop
  | .statement node | .simple node => node.Orderly contexts
  | .statements nodes => ∀ node ∈ nodes, node.Orderly contexts
  | .body _ nodes | .closedBody _ nodes => ∀ node ∈ nodes, node.Orderly contexts
  | .branch _ condition nodes =>
    condition.Orderly contexts ∧ ∀ node ∈ nodes, node.Orderly contexts
  | .elseIfs _ branches =>
    ∀ branch ∈ branches, branch.1.Orderly contexts ∧ ∀ node ∈ branch.2, node.Orderly contexts
  | .elseBranch _ last => ∀ nodes ∈ last, ∀ node ∈ nodes, node.Orderly contexts

theorem Numeral.orderly {text : String} {kind : Token.Kind} {node : Node}
    (numeral : Numeral text kind node) : node.Orderly contexts := by
  cases numeral with
  | integer | float => exact orderly_of_leaf ⟨trivial, trivial⟩ rfl
  | time => exact orderly_of_leaf ⟨rfl, trivial⟩ rfl

theorem Term.Derives.orderly {tokens : List Token} {follow : Token} {term : Term}
    (derives : Term.Derives tokens follow term) : term.Orderly := by
  induction derives with
  | number numeral => exact fun _ => numeral.orderly
  | negative _ numeral => exact fun _ => numeral.orderly
  | string | true | false | «variable» | updateAfter | updateBefore | callEmpty =>
    exact fun _ => orderly_of_leaf ⟨trivial, trivial⟩ rfl
  | called _ ih | operand _ ih | tighter _ ih => exact ih
  | enclosed _ _ _ ih => exact ih
  | call _ _ _ _ ih =>
    refine fun _ => orderly_of_children ⟨trivial, trivial⟩ ?_
    exact List.forall_mem_map.2 fun node mem => ih node mem _
  | item _ ih => exact List.forall_mem_singleton.2 ih
  | items _ _ _ first rest => exact List.forall_mem_cons.2 ⟨first, rest⟩
  | binary _ _ _ left right =>
    exact fun _ => orderly_of_children ⟨trivial, trivial⟩ (by simp [Node.children, left _, right _])

theorem orderly_ifStatement {condition : Node} {thenBody : List Node}
    {branches : List (Node × List Node)} {elseBody : Option (List Node)}
    (first : condition.Orderly contexts ∧ ∀ node ∈ thenBody, node.Orderly contexts)
    (further : ∀ branch ∈ branches,
      branch.1.Orderly contexts ∧ ∀ node ∈ branch.2, node.Orderly contexts)
    (last : ∀ nodes ∈ elseBody, ∀ node ∈ nodes, node.Orderly contexts) :
    Node.Orderly contexts (.ifStatement condition thenBody (branches.map (·.1))
      (branches.map (·.2)) elseBody) := by
  have proper : Node.Proper contexts (.ifStatement condition thenBody (branches.map (·.1))
      (branches.map (·.2)) elseBody) := ⟨by simp [Node.Regular], trivial⟩
  refine orderly_of_children proper (List.forall_mem_cons.2 ⟨first.1, ?_⟩)
  refine List.forall_mem_map.2 fun node mem => ?_
  simp only [List.mem_append, List.mem_map, List.mem_flatten] at mem
  rcases mem with ((mem | ⟨branch, mem, rfl⟩) | ⟨_, ⟨branch, mem, rfl⟩, inside⟩) | mem
  · exact first.2 node mem
  · exact (further branch mem).1
  · exact (further branch mem).2 node inside
  · cases elseBody with
    | none => simp at mem
    | some nodes => exact last nodes rfl node mem

theorem Phrase.Derives.orderly {site : Site} {tokens : List Token} {follow : Token}
    {phrase : Phrase} (derives : Phrase.Derives site tokens follow phrase) :
    phrase.Orderly site.contexts := by
  -- the induction is at the site of each phrase, so a body brings in its own construct
  induction derives with
  | empty | pass | key | button | updateBefore | updateAfter =>
    exact orderly_of_leaf ⟨trivial, trivial⟩ rfl
  | ended _ _ ih | unended _ _ ih => exact ih
  | assignment _ _ _ _ value =>
    exact orderly_of_children ⟨trivial, trivial⟩ (List.forall_mem_singleton.2 (value.orderly _))
  | print _ _ value =>
    exact orderly_of_children ⟨trivial, trivial⟩ (List.forall_mem_singleton.2 (value.orderly _))
  | wait _ value =>
    exact orderly_of_children ⟨trivial, trivial⟩ (List.forall_mem_singleton.2 (value.orderly _))
  | function _ _ _ _ _ _ _ ih =>
    exact orderly_of_children ⟨trivial, trivial⟩ (List.forall_mem_map.2 ih)
  | move _ _ _ x _ y =>
    exact orderly_of_children ⟨trivial, trivial⟩
      (List.forall_mem_cons.2 ⟨x.orderly _, List.forall_mem_singleton.2 (y.orderly _)⟩)
  | moveEnclosed _ _ _ _ x _ y =>
    exact orderly_of_children ⟨trivial, trivial⟩
      (List.forall_mem_cons.2 ⟨x.orderly _, List.forall_mem_singleton.2 (y.orderly _)⟩)
  | whileLoop _ condition _ ih =>
    exact orderly_of_children ⟨trivial, trivial⟩
      (List.forall_mem_cons.2 ⟨condition.orderly _, List.forall_mem_map.2 ih⟩)
  | repeatLoop _ count _ _ ih =>
    exact orderly_of_children ⟨trivial, trivial⟩
      (List.forall_mem_cons.2 ⟨count.orderly _, List.forall_mem_map.2 ih⟩)
  | ifBraced _ _ _ _ first further last => exact orderly_ifStatement first further last
  | ifWorded _ _ _ _ _ _ first further last => exact orderly_ifStatement first further last
  | control _ enclosed => exact orderly_controlStatement enclosed (fun _ => rfl) (by simp)
  | controlValue _ enclosed carries _ value =>
    refine orderly_controlStatement enclosed (fun none => ?_) fun node mem => ?_
    · simp [carries] at none
    · obtain rfl := Option.mem_some.1 mem
      exact value.orderly _
  | call call => exact call.orderly _
  | nil => exact List.forall_mem_nil _
  | cons _ _ first rest => exact List.forall_mem_cons.2 ⟨first, rest⟩
  | braced _ _ _ ih => exact ih
  | unbraced _ ih | closedBraced _ ih => exact ih
  | closedWorded _ _ ih => exact ih
  | branch condition _ _ ih => exact ⟨condition.orderly _, ih⟩
  | noElseIf => exact List.forall_mem_nil _
  | elseIf _ _ _ first rest => exact List.forall_mem_cons.2 ⟨first, rest⟩
  | noElse => intro nodes mem; cases mem
  | elseBranch _ _ _ ih =>
    intro nodes mem
    obtain rfl := Option.mem_some.1 mem
    exact ih

end Grammar

end DeskScript
