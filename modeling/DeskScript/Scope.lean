import DeskScript.Control

/-!
Scopes. A scope records the variables and functions declared in it; a tracker holds the scopes
that are open, the global one at the bottom, and the loops and functions around the statement
being read. Names are looked up from the innermost scope outwards.
-/

namespace DeskScript

/-- A table from names to values in which a later entry for a name replaces the earlier one. -/
structure Table (α : Type) where
  entries : List (String × α)
  deriving DecidableEq, Repr

namespace Table

variable {α : Type}

def empty : Table α := ⟨[]⟩

def get? (table : Table α) (name : String) : Option α :=
  table.entries.lookup name

def contains (table : Table α) (name : String) : Bool :=
  (table.get? name).isSome

def insert (table : Table α) (name : String) (value : α) : Table α :=
  ⟨(name, value) :: table.entries.filter fun entry => entry.1 != name⟩

def sorted (table : Table α) : List (String × α) :=
  table.entries.mergeSort fun a b => decide (a.1 ≤ b.1)

end Table

structure Scope where
  variableTypes : Table (Option String)
  functions : Table (List String)
  deriving DecidableEq, Repr

namespace Scope

def empty : Scope := ⟨.empty, .empty⟩

end Scope

structure Tracker where
  global : Scope
  nested : List Scope
  contexts : List Context
  deriving DecidableEq, Repr

namespace Tracker

def initial : Tracker := ⟨.empty, [], []⟩

def enter (tracker : Tracker) : Tracker :=
  { tracker with nested := .empty :: tracker.nested }

def exit (tracker : Tracker) : Bool × Tracker :=
  match tracker.nested with
  | [] => (false, tracker)
  | _ :: outer => (true, { tracker with nested := outer })

def depth (tracker : Tracker) : Nat :=
  tracker.nested.length

def current (tracker : Tracker) : Scope :=
  tracker.nested.head?.getD tracker.global

def modifyCurrent (tracker : Tracker) (f : Scope → Scope) : Tracker :=
  match tracker.nested with
  | [] => { tracker with global := f tracker.global }
  | inner :: outer => { tracker with nested := f inner :: outer }

def chain (tracker : Tracker) : List Scope :=
  tracker.nested ++ [tracker.global]

def declareVariable (tracker : Tracker) (name : String) (type : Option String) : Tracker :=
  tracker.modifyCurrent fun scope =>
    { scope with variableTypes := scope.variableTypes.insert name type }

def declareFunction (tracker : Tracker) (name : String) (parameters : List String) : Tracker :=
  tracker.modifyCurrent fun scope =>
    { scope with functions := scope.functions.insert name parameters }

def seesVariable (tracker : Tracker) (name : String) : Bool :=
  tracker.chain.any fun scope => scope.variableTypes.contains name

def seesFunction (tracker : Tracker) (name : String) : Bool :=
  tracker.chain.any fun scope => scope.functions.contains name

def typeOf? (tracker : Tracker) (name : String) : Option String :=
  (tracker.chain.findSome? fun scope => scope.variableTypes.get? name).join

def currentTypeOf? (tracker : Tracker) (name : String) : Option String :=
  (tracker.current.variableTypes.get? name).join

def parametersOf? (tracker : Tracker) (name : String) : Option (List String) :=
  tracker.chain.findSome? fun scope => scope.functions.get? name

def push (tracker : Tracker) (context : Context) : Tracker :=
  { tracker with contexts := context :: tracker.contexts }

def pop (tracker : Tracker) (context : Context) : Option Context × Tracker :=
  match tracker.contexts with
  | top :: outer =>
    if top = context then (some top, { tracker with contexts := outer }) else (none, tracker)
  | [] => (none, tracker)

def inside (tracker : Tracker) (context : Context) : Bool :=
  tracker.contexts.contains context

def contextDepth (tracker : Tracker) : Nat :=
  tracker.contexts.length

def outer (tracker : Tracker) : List Scope :=
  tracker.chain.tail

inductive Change where
  | enter
  | exit
  | declareVariable (name : String) (type : Option String)
  | declareFunction (name : String) (parameters : List String)
  | push (context : Context)
  | pop (context : Context)
  deriving DecidableEq, Repr

def Change.apply : Change → Tracker → Tracker
  | .enter, tracker => tracker.enter
  | .exit, tracker => tracker.exit.2
  | .declareVariable name type, tracker => tracker.declareVariable name type
  | .declareFunction name parameters, tracker => tracker.declareFunction name parameters
  | .push context, tracker => tracker.push context
  | .pop context, tracker => (tracker.pop context).2

end Tracker

end DeskScript
