import DeskScript.Text.Cluster.Role

/-!
Clusters: the characters that a reader takes for one, such as a letter with its accents. Whether
a character goes on with a cluster depends on the end of the cluster so far, which `Trail` keeps.
-/

namespace DeskScript.Text

namespace Cluster

inductive Joint where
  | none
  | opened
  | ready
  deriving DecidableEq, Repr

/-- The end of a cluster. -/
structure Trail where
  last : Role
  halfFlag : Bool
  pictograph : Joint
  consonant : Joint
  deriving DecidableEq, Repr

namespace Trail

def start (role : Role) : Trail :=
  { last := role
    halfFlag := role == .regional
    pictograph := if role = .pictograph then .opened else .none
    consonant := if role = .consonant then .opened else .none }

def admits (trail : Trail) (next : Role) : Bool :=
  match trail.last, next with
  | .carriageReturn, .lineFeed => true
  | .carriageReturn, _ | .lineFeed, _ | .control, _ => false
  | _, .carriageReturn | _, .lineFeed | _, .control => false
  | _, .extending | _, .nonJoiner | _, .linker | _, .joiner | _, .spacing => true
  | .preceding, _ => true
  | .initialJamo, .initialJamo | .initialJamo, .medialJamo => true
  | .initialJamo, .openSyllable | .initialJamo, .closedSyllable => true
  | .openSyllable, .medialJamo | .openSyllable, .finalJamo => true
  | .medialJamo, .medialJamo | .medialJamo, .finalJamo => true
  | .closedSyllable, .finalJamo | .finalJamo, .finalJamo => true
  | .regional, .regional => trail.halfFlag
  | _, .pictograph => trail.pictograph == .ready
  | _, .consonant => trail.consonant == .ready
  | _, _ => false

def push (trail : Trail) (next : Role) : Trail :=
  match next with
  | .extending =>
    { trail with
      last := next
      halfFlag := false
      pictograph := if trail.pictograph = .opened then .opened else .none }
  | .nonJoiner =>
    { trail with
      last := next
      halfFlag := false
      pictograph := if trail.pictograph = .opened then .opened else .none
      consonant := .none }
  | .linker =>
    { last := next
      halfFlag := false
      pictograph := if trail.pictograph = .opened then .opened else .none
      consonant := if trail.consonant = .none then .none else .ready }
  | .joiner =>
    { trail with
      last := next
      halfFlag := false
      pictograph := if trail.pictograph = .opened then .ready else .none }
  | .regional => { start next with halfFlag := !trail.halfFlag }
  | _ => start next

end Trail

def splitFrom (current : List Char) (trail : Trail) : List Char → List (List Char)
  | [] => [current.reverse]
  | c :: rest =>
    if trail.admits (role c) then splitFrom (c :: current) (trail.push (role c)) rest
    else current.reverse :: splitFrom [c] (.start (role c)) rest

end Cluster

def clusters : List Char → List (List Char)
  | [] => []
  | c :: rest => Cluster.splitFrom [c] (.start (Cluster.role c)) rest

end DeskScript.Text
