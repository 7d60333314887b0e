import DeskScript.Parser.Statement

/-!
The grammar of scripts. `Term.Derives` and `Phrase.Derives` say which tokens make up a phrase and
which tree the phrase stands for, without saying how the tree is found. A phrase is judged
together with the token that follows it, because four rules of the language look there: a
semicolon belongs to the statement before it, `++` on the line of a variable belongs to the
variable, a value on the line of `RETURN` belongs to it, and `ELSE` belongs to the nearest
conditional.
-/

namespace DeskScript

namespace Node

mutual

def assignments : Node → List (String × Option String)
  | .assignment target _ type => [(target, type)]
  | .whileLoop _ body | .repeatLoop _ body => assignmentsOf body
  | .ifStatement _ thenBody _ elseIfBodies elseBody =>
    assignmentsOf thenBody ++ (assignmentsOfAll elseIfBodies ++ assignmentsOfOption elseBody)
  | _ => []

def assignmentsOf : List Node → List (String × Option String)
  | [] => []
  | first :: others => assignments first ++ assignmentsOf others

def assignmentsOfAll : List (List Node) → List (String × Option String)
  | [] => []
  | first :: others => assignmentsOf first ++ assignmentsOfAll others

def assignmentsOfOption : Option (List Node) → List (String × Option String)
  | none => []
  | some body => assignmentsOf body

end

end Node

namespace Grammar

def latestType (earlier : List (String × Option String)) (name : String) : Option String :=
  (earlier.reverse.lookup name).join

/-- Where in a script a phrase stands, as far as the grammar looks at it. -/
structure Site where
  contexts : List Context
  earlier : List (String × Option String)

namespace Site

def start : Site := ⟨[], []⟩

def after (site : Site) (made : List (String × Option String)) : Site :=
  { site with earlier := site.earlier ++ made }

def inLoop (site : Site) : Site :=
  { site with contexts := .loop :: site.contexts }

def inFunction (site : Site) : Site :=
  ⟨.function :: site.contexts, []⟩

end Site

inductive Numeral (text : String) : Token.Kind → Node → Prop where
  | integer {value : Int64} : Parser.readInt64? text = some value →
    Numeral text .integer (.integer value)
  | float {value : Float} : Decimal.readFloat? text = some value →
    Numeral text .float (.float value)
  | time {value : Float} : Decimal.readFloat? text = some value →
    Numeral text .time (.time value Node.seconds)

/-- Phrases inside expressions, with the trees they stand for. -/
inductive Term where
  | expression (level : Nat) (node : Node)
  | primary (node : Node)
  | call (node : Node)
  | items (nodes : List Node)

/-- The tokens before `follow` make up a phrase of an expression. -/
inductive Term.Derives : List Token → (follow : Token) → Term → Prop where
  | number {token follow : Token} {node : Node} :
    Numeral token.text token.kind node → Derives [token] follow (.primary node)
  | negative {sign token follow : Token} {node : Node} :
    sign.isOperator "-" → Numeral ("-" ++ token.text) token.kind node →
    Derives [sign, token] follow (.primary node)
  | string {token follow : Token} :
    token.kind = .string → Derives [token] follow (.primary (.string token.text))
  | true {token follow : Token} :
    token.isKeyword "TRUE" → Derives [token] follow (.primary (.boolean true))
  | false {token follow : Token} :
    token.isKeyword "FALSE" → Derives [token] follow (.primary (.boolean false))
  | variable {token follow : Token} :
    token.kind = .identifier → follow.isOperator "(" = false →
    (follow.isStep && follow.line == token.line) = false →
    Derives [token] follow (.primary (.identifier token.text))
  | updateAfter {token step follow : Token} :
    token.kind = .identifier → step.isStep → step.line = token.line →
    Derives [token, step] follow (.primary (.update token.text step.text false))
  | updateBefore {step token follow : Token} :
    step.isStep → token.kind = .identifier →
    Derives [step, token] follow (.primary (.update token.text step.text true))
  | called {tokens : List Token} {follow : Token} {node : Node} :
    Derives tokens follow (.call node) → Derives tokens follow (.primary node)
  | enclosed {opening closing follow : Token} {tokens : List Token} {node : Node} :
    opening.isOperator "(" → Derives tokens closing (.expression 1 node) →
    closing.isOperator ")" → Derives (opening :: tokens ++ [closing]) follow (.primary node)
  | callEmpty {name opening closing follow : Token} :
    name.kind = .identifier → opening.isOperator "(" → closing.isOperator ")" →
    Derives [name, opening, closing] follow (.call (.functionCall name.text []))
  | call {name opening closing follow : Token} {tokens : List Token} {arguments : List Node} :
    name.kind = .identifier → opening.isOperator "(" → Derives tokens closing (.items arguments) →
    closing.isOperator ")" →
    Derives (name :: opening :: tokens ++ [closing]) follow
      (.call (.functionCall name.text arguments))
  | item {tokens : List Token} {follow : Token} {node : Node} :
    Derives tokens follow (.expression 1 node) → Derives tokens follow (.items [node])
  | items {first rest : List Token} {comma follow : Token} {node : Node} {nodes : List Node} :
    Derives first comma (.expression 1 node) → comma.isOperator "," →
    Derives rest follow (.items nodes) →
    Derives (first ++ comma :: rest) follow (.items (node :: nodes))
  /-- What binds tightest is a primary; there are six levels of operators below. -/
  | operand {tokens : List Token} {follow : Token} {node : Node} :
    Derives tokens follow (.primary node) → Derives tokens follow (.expression 7 node)
  | tighter {level : Nat} {tokens : List Token} {follow : Token} {node : Node} :
    Derives tokens follow (.expression (level + 1) node) →
    Derives tokens follow (.expression level node)
  /-- Operators group to the left: only the left operand may be of the operator's own level. -/
  | binary {level : Nat} {left right : List Token} {operator follow : Token} {l r : Node} :
    Derives left operator (.expression level l) → operator.precedence? = some level →
    Derives right follow (.expression (level + 1) r) →
    Derives (left ++ operator :: right) follow
      (.expression level (.binaryOperation operator.operatorName l r))

inductive Key : Token → String → Prop where
  | named {token : Token} :
    token.category? = some .keyboardKey → Key token (Text.upper token.text)
  | single {token : Token} :
    token.kind = .identifier ∨ token.kind = .integer → token.text.length = 1 →
    Key token token.text
  | quoted {token : Token} : token.kind = .string → Key token token.text

inductive Annotation : List Token → Option String → Prop where
  | missing : Annotation [] none
  | stated {colon token : Token} :
    colon.isOperator ":" → token.kind = .identifier ∨ token.kind = .keyword →
    Text.upper token.text ∈ typeNames → Annotation [colon, token] (some (Text.upper token.text))

inductive Parameters : List Token → List String → Prop where
  | one {token : Token} : token.kind = .identifier → Parameters [token] [token.text]
  | more {token comma : Token} {rest : List Token} {names : List String} :
    token.kind = .identifier → comma.isOperator "," → Parameters rest names →
    Parameters (token :: comma :: rest) (token.text :: names)

inductive Then : List Token → Prop where
  | missing : Then []
  | stated {word : Token} : word.isKeyword "THEN" → Then [word]

inductive ElseIf : List Token → Prop where
  | one {word : Token} : word.isKeyword "ELSEIF" → ElseIf [word]
  | two {first second : Token} :
    first.isKeyword "ELSE" → second.isKeyword "IF" → second.line = first.line →
    ElseIf [first, second]

/-- Phrases outside expressions, with the trees they stand for. -/
inductive Phrase where
  | statement (node : Node)
  | simple (node : Node)
  | statements (nodes : List Node)
  | body (braced : Bool) (nodes : List Node)
  | closedBody (closer : String) (nodes : List Node)
  | branch (braced : Bool) (condition : Node) (nodes : List Node)
  | elseIfs (braced : Bool) (branches : List (Node × List Node))
  | elseBranch (braced : Bool) (body : Option (List Node))

/-- The tokens before `follow` make up a phrase at a place in a script. -/
inductive Phrase.Derives : Site → List Token → (follow : Token) → Phrase → Prop where
  | empty {site : Site} {semicolon follow : Token} :
    semicolon.isOperator ";" → Derives site [semicolon] follow (.statement .emptyStatement)
  | ended {site : Site} {tokens : List Token} {semicolon follow : Token} {node : Node} :
    Derives site tokens semicolon (.simple node) → semicolon.isOperator ";" →
    Derives site (tokens ++ [semicolon]) follow (.statement node)
  | unended {site : Site} {tokens : List Token} {follow : Token} {node : Node} :
    Derives site tokens follow (.simple node) → follow.isOperator ";" = false →
    Derives site tokens follow (.statement node)
  | pass {site : Site} {word follow : Token} :
    word.isKeyword "PASS" → Derives site [word] follow (.simple .emptyStatement)
  | assignment {site : Site} {word name equals follow : Token}
      {before tokens after : List Token} {value : Node} {early late type : Option String} :
    word.isKeyword "SET" → name.kind = .identifier → Annotation before early →
    equals.isOperator "=" →
    Term.Derives tokens (after.headD follow) (.expression 1 value) → Annotation after late →
    early = none ∨ late = none →
    type = (late.or early).or (latestType site.earlier name.text) →
    (∀ expected, type = some expected → Parser.fits expected value) →
    Derives site (word :: name :: (before ++ equals :: (tokens ++ after))) follow
      (.simple (.assignment name.text value type))
  | function {site : Site} {word name opening closing follow : Token}
      {tokens inside : List Token} {parameters : List String} {nodes : List Node} :
    word.isKeyword "DEFUN" → name.kind = .identifier → opening.isOperator "(" →
    (tokens = [] ∧ parameters = []) ∨ Parameters tokens parameters → parameters.Nodup →
    closing.isOperator ")" → Derives site.inFunction inside follow (.closedBody "ENDDEFUN" nodes) →
    Derives site (word :: name :: opening :: (tokens ++ closing :: inside)) follow
      (.simple (.functionDefinition name.text parameters nodes))
  | print {site : Site} {word follow : Token} {tokens : List Token} {node : Node} :
    word.kind = .keyword → Text.upper word.text ∈ ["PRINT", "PRINTLN"] →
    Term.Derives tokens follow (.expression 1 node) →
    Derives site (word :: tokens) follow
      (.simple (.printStatement (Text.upper word.text) node))
  | wait {site : Site} {word follow : Token} {tokens : List Token} {node : Node} :
    word.isKeyword "WAIT" → Term.Derives tokens follow (.expression 1 node) →
    Derives site (word :: tokens) follow (.simple (.waitStatement node))
  | move {site : Site} {word mouse target comma follow : Token}
      {first second : List Token} {x y : Node} :
    word.isKeyword "MOVE" → mouse.isKeyword "MOUSE" → target.isKeyword "TO" →
    Term.Derives first comma (.expression 1 x) → comma.isOperator "," →
    Term.Derives second follow (.expression 1 y) →
    Derives site (word :: mouse :: target :: (first ++ comma :: second)) follow
      (.simple (.moveMouse x y))
  | moveEnclosed {site : Site} {word mouse target opening comma closing follow : Token}
      {first second : List Token} {x y : Node} :
    word.isKeyword "MOVE" → mouse.isKeyword "MOUSE" → target.isKeyword "TO" →
    opening.isOperator "(" → Term.Derives first comma (.expression 1 x) →
    comma.isOperator "," → Term.Derives second closing (.expression 1 y) →
    closing.isOperator ")" →
    Derives site
      (word :: mouse :: target :: opening :: (first ++ comma :: (second ++ [closing]))) follow
      (.simple (.moveMouse x y))
  | key {site : Site} {word sort token follow : Token} {key : String} :
    word.kind = .keyword → Text.upper word.text ∈ ["HOLD", "RELEASE", "PRESS"] →
    sort.isKeyword "KEY" → Key token key →
    Derives site [word, sort, token] follow
      (.simple (.keyOperation (Text.upper word.text) key))
  | button {site : Site} {word sort token follow : Token} :
    word.kind = .keyword → Text.upper word.text ∈ ["HOLD", "RELEASE", "PRESS"] →
    sort.isKeyword "BUTTON" → token.category? = some .mouseButton →
    Derives site [word, sort, token] follow
      (.simple (.buttonOperation (Text.upper token.text)))
  | whileLoop {site : Site} {word follow : Token} {tokens inside : List Token}
      {condition : Node} {nodes : List Node} :
    word.isKeyword "WHILE" →
    Term.Derives tokens (inside.headD follow) (.expression 1 condition) →
    Derives site.inLoop inside follow (.closedBody "ENDWHILE" nodes) →
    Derives site (word :: (tokens ++ inside)) follow (.simple (.whileLoop condition nodes))
  | repeatLoop {site : Site} {word times follow : Token} {tokens inside : List Token}
      {count : Node} {nodes : List Node} :
    word.isKeyword "REPEAT" → Term.Derives tokens times (.expression 1 count) →
    times.isKeyword "TIMES" → Derives site.inLoop inside follow (.closedBody "ENDREPEAT" nodes) →
    Derives site (word :: (tokens ++ times :: inside)) follow
      (.simple (.repeatLoop count nodes))
  | ifBraced {site : Site} {word follow : Token} {first further last : List Token}
      {condition : Node} {nodes : List Node} {branches : List (Node × List Node)}
      {elseBody : Option (List Node)} :
    word.isKeyword "IF" →
    Derives site first ((further ++ last).headD follow) (.branch true condition nodes) →
    Derives (site.after (Node.assignmentsOf nodes)) further (last.headD follow)
      (.elseIfs true branches) →
    Derives ((site.after (Node.assignmentsOf nodes)).after
        (Node.assignmentsOfAll (branches.map (·.2)))) last follow (.elseBranch true elseBody) →
    Derives site (word :: (first ++ (further ++ last))) follow
      (.simple (.ifStatement condition nodes (branches.map (·.1)) (branches.map (·.2)) elseBody))
  | ifWorded {site : Site} {word closing follow : Token} {first further last : List Token}
      {condition : Node} {nodes : List Node} {branches : List (Node × List Node)}
      {elseBody : Option (List Node)} {a b c : Bool} :
    word.isKeyword "IF" →
    Derives site first ((further ++ last).headD closing) (.branch a condition nodes) →
    Derives (site.after (Node.assignmentsOf nodes)) further (last.headD closing)
      (.elseIfs b branches) →
    Derives ((site.after (Node.assignmentsOf nodes)).after
        (Node.assignmentsOfAll (branches.map (·.2)))) last closing (.elseBranch c elseBody) →
    (a && b && c) = false → closing.isKeyword "ENDIF" →
    Derives site (word :: (first ++ (further ++ (last ++ [closing])))) follow
      (.simple (.ifStatement condition nodes (branches.map (·.1)) (branches.map (·.2)) elseBody))
  | control {site : Site} {word follow : Token} {control : Control} :
    word.isKeyword control.word → control.context ∈ site.contexts →
    (control.carriesValue && follow.line == word.line && follow.startsExpression) = false →
    Derives site [word] follow (.simple (.controlStatement control none))
  | controlValue {site : Site} {word follow : Token} {control : Control}
      {tokens : List Token} {value : Node} :
    word.isKeyword control.word → control.context ∈ site.contexts → control.carriesValue →
    (tokens.headD follow).line = word.line →
    Term.Derives tokens follow (.expression 1 value) →
    Derives site (word :: tokens) follow (.simple (.controlStatement control (some value)))
  | updateBefore {site : Site} {step name follow : Token} :
    step.isStep → name.kind = .identifier →
    Derives site [step, name] follow (.simple (.update name.text step.text true))
  | updateAfter {site : Site} {name step follow : Token} :
    name.kind = .identifier → step.isStep →
    Derives site [name, step] follow (.simple (.update name.text step.text false))
  | call {site : Site} {tokens : List Token} {follow : Token} {node : Node} :
    Term.Derives tokens follow (.call node) → Derives site tokens follow (.simple node)
  | nil {site : Site} {follow : Token} : Derives site [] follow (.statements [])
  | cons {site : Site} {first rest : List Token} {follow : Token} {node : Node}
      {nodes : List Node} :
    Derives site first (rest.headD follow) (.statement node) →
    Derives (site.after node.assignments) rest follow (.statements nodes) →
    Derives site (first ++ rest) follow (.statements (node :: nodes))
  | braced {site : Site} {opening closing follow : Token} {tokens : List Token}
      {nodes : List Node} :
    opening.isOperator "\x7b" → Derives site tokens closing (.statements nodes) →
    closing.isOperator "\x7d" →
    Derives site (opening :: (tokens ++ [closing])) follow (.body true nodes)
  | unbraced {site : Site} {tokens : List Token} {follow : Token} {nodes : List Node} :
    Derives site tokens follow (.statements nodes) →
    Derives site tokens follow (.body false nodes)
  | closedBraced {site : Site} {tokens : List Token} {follow : Token} {nodes : List Node}
      {closer : String} :
    Derives site tokens follow (.body true nodes) →
    Derives site tokens follow (.closedBody closer nodes)
  | closedWorded {site : Site} {tokens : List Token} {closing follow : Token}
      {nodes : List Node} {closer : String} :
    Derives site tokens closing (.body false nodes) → closing.isKeyword closer →
    Derives site (tokens ++ [closing]) follow (.closedBody closer nodes)
  | branch {site : Site} {tokens words inside : List Token} {follow : Token}
      {condition : Node} {braced : Bool} {nodes : List Node} :
    Term.Derives tokens ((words ++ inside).headD follow) (.expression 1 condition) →
    Then words → Derives site inside follow (.body braced nodes) →
    Derives site (tokens ++ (words ++ inside)) follow (.branch braced condition nodes)
  | noElseIf {site : Site} {follow : Token} :
    follow.isKeyword "ELSEIF" = false → Derives site [] follow (.elseIfs true [])
  | elseIf {site : Site} {words first rest : List Token} {follow : Token}
      {condition : Node} {nodes : List Node} {branches : List (Node × List Node)} {a b : Bool} :
    ElseIf words → Derives site first (rest.headD follow) (.branch a condition nodes) →
    Derives (site.after (Node.assignmentsOf nodes)) rest follow (.elseIfs b branches) →
    Derives site (words ++ (first ++ rest)) follow
      (.elseIfs (a && b) ((condition, nodes) :: branches))
  | noElse {site : Site} {follow : Token} :
    follow.isKeyword "ELSE" = false → Derives site [] follow (.elseBranch true none)
  | elseBranch {site : Site} {word follow : Token} {inside : List Token}
      {nodes : List Node} {braced : Bool} :
    word.isKeyword "ELSE" →
    -- a conditional on the line of the word would be a further condition
    ((inside.headD follow).isKeyword "IF" && (inside.headD follow).line == word.line) = false →
    Derives site inside follow (.body braced nodes) →
    Derives site (word :: inside) follow (.elseBranch braced (some nodes))

end Grammar

end DeskScript
