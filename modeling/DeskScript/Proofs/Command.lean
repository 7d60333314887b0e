import Mathlib
import DeskScript.Command
import DeskScript.Inspector.Basic

/-!
Runs of the command line against sessions of the inspector. Both read a script the same way: a run
succeeds where a session has no error, and then writes the tree that the session shows; a run that
fails says what the session says, and leaves all files alone. Main statement: `runIn_agrees`.
-/

namespace DeskScript

namespace Folder

variable {folder after : Folder} {path other text : String}

theorem entryAt_of_find?_eq_none {way : List String}
    (none : (folder.files.find? fun file => names file.1 == way) = none) :
    folder.entryAt way = .ok .directory ∨ ∃ fault, folder.entryAt way = .error fault := by
  rw [entryAt, none]
  dsimp only
  split
  · exact .inl rfl
  · split
    · exact .inr ⟨_, rfl⟩
    · exact .inr ⟨_, rfl⟩

theorem get?_eq (folder : Folder) (path : String) :
    folder.get? path =
      if isInside path ∧ endsInDirectory path = false then
        (folder.files.find? fun file => names file.1 == names path).map (·.2)
      else none := by
  unfold get? read
  by_cases inside : isInside path = true
  · rw [if_pos inside]
    cases found : folder.files.find? fun file => names file.1 == names path with
    | some file =>
      rw [entryAt, found]
      cases ends : endsInDirectory path <;> simp [inside, Except.toOption]
    | none =>
      rw [Option.map_none, ite_self]
      obtain entry | ⟨fault, entry⟩ := entryAt_of_find?_eq_none found
      all_goals
        rw [entry]
        rfl
  · rw [if_neg inside, if_neg fun both => inside both.1]
    rfl

theorem of_write (written : folder.write path text = .ok after) :
    isInside path ∧ endsInDirectory path = false ∧
      after.files = folder.files.filter (fun file => names file.1 != names path) ++
        [(path, text)] := by
  unfold write at written
  split at written
  next inside =>
    split at written
    next =>
      split at written
      next => cases written
      next free =>
        obtain ⟨ends, -⟩ := not_or.1 (mt Bool.or_eq_true_iff.2 free)
        obtain rfl := Except.ok.inj written
        exact ⟨inside, eq_false_of_ne_true ends, rfl⟩
    next => cases written
    next => cases written
  next => cases written

theorem get?_write (written : folder.write path text = .ok after) :
    after.get? path = some text := by
  obtain ⟨inside, ends, files⟩ := of_write written
  have gone : (folder.files.filter fun file => names file.1 != names path).find?
      (fun file => names file.1 == names path) = none := by
    rw [List.find?_eq_none]
    intro file mem
    simpa using (List.mem_filter.1 mem).2
  rw [get?_eq, if_pos ⟨inside, ends⟩, files, List.find?_append, gone, Option.none_or]
  simp

theorem get?_write_of_ne (written : folder.write path text = .ok after)
    (ne : names other ≠ names path) : after.get? other = folder.get? other := by
  obtain ⟨-, -, files⟩ := of_write written
  have kept : (folder.files.filter fun file => names file.1 != names path).find?
        (fun file => names file.1 == names other) =
      folder.files.find? fun file => names file.1 == names other := by
    rw [List.find?_filter]
    congr 1
    funext file
    by_cases same : names file.1 = names other
    · simp [same, ne]
    · simp [same]
  have last : [(path, text)].find? (fun file => names file.1 == names other) = none := by
    simp [Ne.symm ne]
  rw [get?_eq, get?_eq, files, List.find?_append, kept, last, Option.or_none]

end Folder

namespace Command

open Journal (Event)

theorem log_zero (events : List Event) : log 0 events = [] := by
  rw [log, List.map_eq_nil_iff, List.filter_eq_nil_iff]
  intro event _
  -- Even the plainest level needs one `-v`.
  cases event.level <;> decide

variable {invocation : Invocation} {options : Options} {source : String}

theorem load_of_ok {program : Node} (read : (Script.read options source).result = .ok program) :
    (Inspector.load options source).error = none ∧
      (Inspector.load options source).tree = some program.savePretty := by
  rw [Inspector.load, Inspector.ofReading, read]
  exact ⟨rfl, rfl⟩

theorem load_of_error {d : Diagnostic} (refused : (Script.read options source).result = .error d) :
    (Inspector.load options source).error = some d ∧
      (Inspector.load options source).status = d.display := by
  rw [Inspector.load, Inspector.ofReading, refused]
  exact ⟨rfl, rfl⟩

/-- The text that a run saves a tree as. -/
def saved (pretty : Bool) (program : Node) : String :=
  if pretty then program.savePretty else program.save

theorem run_of_ok {program : Node} (tree : invocation.tokens = false)
    (silent : invocation.verbosity = 0)
    (read : (Script.read invocation.options source).result = .ok program) :
    run invocation (.ok source) =
      match invocation.output with
      | some file => .write file (saved invocation.pretty program) [] []
      | none => .report ⟨0, saved invocation.pretty program ++ "\n", []⟩ := by
  rw [run, tree, if_neg Bool.false_ne_true, saveTree]
  simp only [read, silent, log_zero]
  cases invocation.output <;> rfl

theorem run_of_error {d : Diagnostic} (tree : invocation.tokens = false)
    (silent : invocation.verbosity = 0)
    (refused : (Script.read invocation.options source).result = .error d) :
    run invocation (.ok source) = .report ⟨1, "", [s!"Parser error: {d.display}"]⟩ := by
  rw [run, tree, if_neg Bool.false_ne_true, saveTree]
  simp only [refused, silent, log_zero]
  rfl

/--
A run without a log and without `--tokens`, on a script that can be read and with a path to write
to, if any, that can be written to. It ends with code 0 if and only if a session of the inspector
on the same text, with the same options, has no error. Then it saves the tree that the session
shows, with `--pretty` as the session shows it: it prints the text and a line feed and changes no
file, or it prints nothing and writes the text to the file, and no other is changed. If there is an
error, it ends with code 1, prints nothing, says what the status of the session says, and leaves
all files as they were.
-/
theorem runIn_agrees (folder : Folder) (invocation : Invocation) (source : String)
    (tree : invocation.tokens = false) (silent : invocation.verbosity = 0)
    (found : folder.read invocation.script = .ok source)
    (writable : ∀ file ∈ invocation.output, ∀ text,
      ∃ after, folder.write file text = .ok after) :
    ∃ report after, runIn folder invocation = (report, after) ∧
      (report.code = 0 ↔ (Inspector.load invocation.options source).error = none) ∧
      ((Inspector.load invocation.options source).error = none → ∃ program,
        (Inspector.load invocation.options source).tree = some program.savePretty ∧
        (invocation.output = none →
          report = ⟨0, saved invocation.pretty program ++ "\n", []⟩ ∧ after = folder) ∧
        ∀ file, invocation.output = some file → report = ⟨0, "", []⟩ ∧
          after.get? file = some (saved invocation.pretty program) ∧
          ∀ other, Folder.names other ≠ Folder.names file →
            after.get? other = folder.get? other) ∧
      ((Inspector.load invocation.options source).error ≠ none →
        report =
          ⟨1, "", [s!"Parser error: {(Inspector.load invocation.options source).status}"]⟩ ∧
        after = folder) := by
  rw [runIn, found]
  cases read : (Script.read invocation.options source).result with
  | error d =>
    obtain ⟨failed, status⟩ := load_of_error read
    rw [run_of_error tree silent read, failed, status]
    refine ⟨_, _, rfl, ?_, ?_, fun _ => ⟨rfl, rfl⟩⟩
    · simp
    · simp
  | ok program =>
    obtain ⟨error, shown⟩ := load_of_ok read
    rw [run_of_ok tree silent read, error, shown]
    cases output : invocation.output with
    | none =>
      refine ⟨_, _, rfl, by simp, fun _ => ⟨program, rfl, fun _ => ⟨rfl, rfl⟩, ?_⟩, by simp⟩
      simp
    | some file =>
      obtain ⟨after, written⟩ := writable file output (saved invocation.pretty program)
      dsimp only
      rw [written]
      refine ⟨_, _, rfl, by simp, fun _ => ⟨program, rfl, by simp, ?_⟩, by simp⟩
      rintro _ ⟨⟩
      exact ⟨rfl, Folder.get?_write written, fun _ => Folder.get?_write_of_ne written⟩

/-- A script that uses an undeclared name, and a file where its tree could go. -/
def beside : Folder :=
  ⟨[("s", "PRINT 1\nPRINT x"), ("t", "old")]⟩

/-- The file that is there stays if names have to be declared, and else it gets the tree. -/
theorem runIn_agrees_undeclared :
    (∃ report, runIn beside ⟨"s", false, true, some "t", ⟨true, false⟩, 0⟩ = (report, beside) ∧
      report.code = 1) ∧
    ∃ report after, runIn beside ⟨"s", false, true, some "t", .none, 0⟩ = (report, after) ∧
      report.code = 0 ∧ after.get? "t" = (Inspector.load .none "PRINT 1\nPRINT x").tree := by
  have found : beside.read "s" = .ok "PRINT 1\nPRINT x" := by cbv
  have inside : Folder.isInside "t" = true := by cbv
  have above : beside.entryAt (Folder.parent "t") = .ok .directory := by cbv
  have ends : Folder.endsInDirectory "t" = false := by cbv
  have here : beside.entryAt (Folder.names "t") = .ok (.file "old") := by cbv
  have writable : ∀ file ∈ some "t", ∀ text, ∃ after, beside.write file text = .ok after := by
    rintro _ ⟨⟩ text
    rw [Folder.write, if_pos inside, above]
    dsimp only
    rw [ends, here]
    exact ⟨_, rfl⟩
  constructor
  · have error : (Inspector.load ⟨true, false⟩ "PRINT 1\nPRINT x").error.isSome := by
      decide +kernel
    obtain ⟨report, after, ran, -, -, refused⟩ := runIn_agrees beside
      ⟨"s", false, true, some "t", ⟨true, false⟩, 0⟩ _ rfl rfl found writable
    obtain ⟨rfl, rfl⟩ := refused (Option.isSome_iff_ne_none.1 error)
    exact ⟨_, ran, rfl⟩
  · have error : (Inspector.load .none "PRINT 1\nPRINT x").error.isNone := by decide +kernel
    obtain ⟨report, after, ran, -, read, -⟩ := runIn_agrees beside
      ⟨"s", false, true, some "t", .none, 0⟩ _ rfl rfl found writable
    obtain ⟨program, tree, -, written⟩ := read (Option.isNone_iff_eq_none.1 error)
    obtain ⟨rfl, text, -⟩ := written "t" rfl
    exact ⟨_, after, ran, rfl, text.trans tree.symm⟩

end Command

end DeskScript
