import DeskScript.Command

/-!
The program itself: it reads the script, prints what a run says and writes the file it leaves.
-/

open DeskScript

def announce (report : Command.Report) : IO UInt32 := do
  for message in report.messages do
    IO.eprintln message
  IO.print report.output
  return report.code.toUInt32

def faultOf : IO.Error → Folder.Fault
  | .inappropriateType _ code _ =>
    if code = 21 then .isDirectory else .notDirectory
  | _ => .missing

def perform : Command.Plan → IO UInt32
  | .report report => announce report
  | .write path text messages done =>
    try
      IO.FS.writeFile path text
      announce ⟨0, "", messages ++ done⟩
    catch error =>
      announce ⟨1, "", messages ++ [(faultOf error).message]⟩

def contents (path : String) : IO (Except Folder.Fault String) := do
  try
    return .ok (← IO.FS.readFile path)
  catch error =>
    return .error (faultOf error)

def main (arguments : List String) : IO UInt32 := do
  match Command.Invocation.ofArguments? arguments with
  | some invocation => perform (Command.run invocation (← contents invocation.script))
  | none => announce ⟨2, "", ["error: unexpected argument"]⟩
