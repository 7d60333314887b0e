import DeskScript.Parser.Basic

/-!
What the arguments of a run ask for. Options are read in any order, one-letter ones also in groups;
behind `--` everything is a path.
-/

namespace DeskScript.Command

/-- What one argument asks for. -/
inductive Request where
  | tokens
  | pretty
  | resolveNames
  | checkArity
  | verbose
  | output (path : String)
  | script (path : String)
  deriving DecidableEq, Repr

namespace Request

def output? : Request → Option String
  | .output path => some path
  | _ => none

def script? : Request → Option String
  | .script path => some path
  | _ => none

def ofWord? : String → Option Request
  | "--tokens" => some .tokens
  | "--pretty" => some .pretty
  | "--resolve-names" => some .resolveNames
  | "--check-arity" => some .checkArity
  | "--verbose" => some .verbose
  | _ => none

def valueIn? (name argument : String) : Option String :=
  let start := (name ++ "=").toList
  if start.isPrefixOf argument.toList then
    some (String.ofList (argument.toList.drop start.length))
  else none

/-- A group of one-letter options, and whether the next argument has to be a path for it. -/
def ofLetters? : List Char → Option (List Request × Bool)
  | [] => some ([], false)
  | 'v' :: letters => do
    let (requests, awaiting) ← ofLetters? letters
    return (.verbose :: requests, awaiting)
  | ['o'] => some ([], true)
  | 'o' :: '=' :: path => some ([.output (String.ofList path)], false)
  | 'o' :: path => some ([.output (String.ofList path)], false)
  | _ :: _ => none

def ofOption? (argument : String) : Option (List Request × Bool) :=
  if argument == "--output" then some ([], true)
  else
    match ofWord? argument, valueIn? "--output" argument, argument.toList with
    | some request, _, _ => some ([request], false)
    | none, some path, _ => some ([.output path], false)
    | none, none, '-' :: letters => ofLetters? letters
    | none, none, _ => none

def isOption (argument : String) : Bool :=
  match argument.toList with
  -- A hyphen by itself is a path.
  | '-' :: _ :: _ => true
  | _ => false

/-- What arguments ask for, in order. With `awaiting` the first has to be a path for output. -/
def ofArguments? (awaiting : Bool) : List String → Option (List Request)
  | [] => if awaiting then none else some []
  | argument :: rest =>
    if awaiting then
      if isOption argument then none
      else do return .output argument :: (← ofArguments? false rest)
    else if argument == "--" then some (rest.map .script)
    else if isOption argument then do
      let (requests, awaiting) ← ofOption? argument
      return requests ++ (← ofArguments? awaiting rest)
    else do return .script argument :: (← ofArguments? false rest)

end Request

structure Invocation where
  script : String
  tokens : Bool
  pretty : Bool
  output : Option String
  options : Options
  verbosity : Nat
  deriving DecidableEq, Repr

namespace Invocation

/--
What requests come to. Only `--verbose` can be given more than once, there has to be one script,
and no path is empty.
-/
def ofRequests? (requests : List Request) : Option Invocation :=
  let outputs := requests.filterMap Request.output?
  match requests.filterMap Request.script? with
  | [script] =>
    if (requests.filter (· != .verbose)).Nodup ∧ outputs.length ≤ 1 ∧ "" ∉ script :: outputs then
      some {
        script
        tokens := requests.contains .tokens
        pretty := requests.contains .pretty
        output := outputs.head?
        options := ⟨requests.contains .resolveNames, requests.contains .checkArity⟩
        verbosity := requests.count .verbose }
    else none
  | _ => none

def ofArguments? (arguments : List String) : Option Invocation :=
  Request.ofArguments? false arguments >>= ofRequests?

end Invocation

end DeskScript.Command
