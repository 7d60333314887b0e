import DeskScript.Command.Invocation
import DeskScript.Folder
import DeskScript.Script
import DeskScript.Text.Column
import DeskScript.Text.Lines

/-!
Runs of the command line: what a run says and writes. A run is a function of what is asked for and
the text of the script, so that it can be compared with other uses of the same script; reading and
writing files is left to whoever performs it.
-/

namespace DeskScript.Command

open Journal (Event)

/-- What a run says, and the code it ends with. -/
structure Report where
  code : Nat
  output : String
  messages : List String
  deriving DecidableEq, Repr

def Report.messageLines (report : Report) : List String :=
  Text.lines (String.join (report.messages.map (· ++ "\n")))

/-- What is left to do at the end of a run. -/
inductive Plan where
  | report (report : Report)
  | write (path text : String) (messages done : List String)

def log (verbosity : Nat) (events : List Event) : List String :=
  (events.filter fun event => event.level.verbosity ≤ verbosity).map Event.logLine

/-- A token as a row of the list that is printed: its line, its sort and its text. -/
def tokenRow (token : Token) : String :=
  s!"{Text.flushRight 4 (toString token.line)}  {Text.flushLeft 8 token.kind.label} {token.text}"

def missing (path : String) : Report :=
  ⟨1, "", [s!"Error: File '{path}' not found",
    "Usage: commandpro <script> [--pretty] [--tokens] [--tui]"]⟩

def refused (messages : List String) (d : Diagnostic) : Report :=
  ⟨1, "", messages ++ [s!"Parser error: {d.display}"]⟩

def listTokens (verbosity : Nat) (path source : String) : Report :=
  let messages := log verbosity (.opened path :: (Lexer.scan source).journal)
  match Lexer.tokenize source with
  | .ok tokens => ⟨0, String.join (tokens.map fun token => tokenRow token ++ "\n"), messages⟩
  | .error d => refused messages d

def saveTree (invocation : Invocation) (source : String) : Plan :=
  let log := log invocation.verbosity
  let reading := Script.read invocation.options source
  let messages := log (.opened invocation.script :: reading.journal)
  match reading.result with
  | .error d => .report (refused messages d)
  | .ok program =>
    let messages := messages ++ log [.finished program.statements.length]
    let text := if invocation.pretty then program.savePretty else program.save
    match invocation.output with
    | some file => .write file text messages (log [.wrote file])
    | none => .report ⟨0, text ++ "\n", messages⟩

/-- A run on a script with the given text, or with what keeps it from being read. -/
def run (invocation : Invocation) (source : Except Folder.Fault String) : Plan :=
  match source with
  | .error .isDirectory => .report ⟨1, "", [Folder.Fault.isDirectory.message]⟩
  | .error _ => .report (missing invocation.script)
  | .ok source =>
    if invocation.tokens then
      .report (listTokens invocation.verbosity invocation.script source)
    else saveTree invocation source

/-- A run in a folder, with the folder that it leaves. -/
def runIn (folder : Folder) (invocation : Invocation) : Report × Folder :=
  match run invocation (folder.read invocation.script) with
  | .report report => (report, folder)
  | .write file text messages done =>
    match folder.write file text with
    | .ok folder => (⟨0, "", messages ++ done⟩, folder)
    | .error fault => (⟨1, "", messages ++ [fault.message]⟩, folder)

def execute (folder : Folder) (arguments : List String) : Option (Report × Folder) :=
  (Invocation.ofArguments? arguments).map (runIn folder)

end DeskScript.Command
