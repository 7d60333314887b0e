import DeskScript.Diagnostic
import DeskScript.Text.Column
import DeskScript.Text.Quoted

/-!
The journal: what the program has to say about its own work. Events are data; the level, the
part of the program they come from and the words follow from the event.
-/

namespace DeskScript.Journal

inductive Level where
  | info
  | debug
  | trace
  deriving DecidableEq, Repr

namespace Level

def label : Level → String
  | .info => "INFO"
  | .debug => "DEBUG"
  | .trace => "TRACE"

def verbosity : Level → Nat
  | .info => 1
  | .debug => 2
  | .trace => 3

end Level

inductive Event where
  | token (token : Token)
  | tokenized (count lines : Nat)
  | parsing (count : Nat)
  | statement (word : String) (line : Nat)
  | assignment (target : String) (type : Option String)
  | function (name : String) (parameters : Nat)
  | escaped (line : Nat)
  | parsed (count : Nat)
  | inspecting (status : String)
  | opened (path : String)
  | finished (count : Nat)
  | wrote (path : String)
  deriving DecidableEq, Repr

namespace Event

def level : Event → Level
  | .token _ => .trace
  | .tokenized .. | .statement .. | .assignment .. | .function .. => .debug
  | .parsing _ | .escaped _ | .parsed _ | .inspecting _ | .opened _ | .finished _ | .wrote _ =>
    .info

def origin : Event → String
  | .token _ | .tokenized .. => "commandpro::parser::lexer"
  | .parsing _ | .escaped _ | .parsed _ => "commandpro::parser::parse"
  | .statement .. => "commandpro::parser::statements"
  | .assignment .. | .function .. => "commandpro::parser::declarations"
  | .inspecting _ => "commandpro::ui::app"
  | .opened _ | .finished _ | .wrote _ => "commandpro"

def message : Event → String
  | .token t => s!"token {t.kind.label} {Text.quoted t.text} at line {t.line}"
  | .tokenized count lines => s!"tokenized {count} tokens over {lines} lines"
  | .parsing count => s!"parsing {count} tokens"
  | .statement word line => s!"statement '{word}' at line {line}"
  | .assignment target none => s!"assignment to '{target}' (type None)"
  | .assignment target (some type) =>
    s!"assignment to '{target}' (type Some({Text.quoted type}))"
  | .function name parameters => s!"function '{name}' with {parameters} parameters"
  | .escaped line => s!"control statement escaped to top level at line {line}"
  | .parsed count | .finished count => s!"parsed {count} top-level statements"
  | .inspecting status => s!"inspector loaded: {status}"
  | .opened path => s!"parsing {path}"
  | .wrote path => s!"wrote AST to {path}"

def entry (event : Event) : String :=
  s!"{event.level.label} {event.message}"

def logLine (event : Event) : String :=
  s!"[{Text.flushLeft 5 event.level.label} {event.origin}] {event.message}"

end Event

end DeskScript.Journal
