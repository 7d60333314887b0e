import DeskScript.Scope

/-!
Tables and declarations: a name has the value it was given last, and a declaration in the
innermost scope is all that a declaration changes.
-/

namespace DeskScript

namespace Table

variable {α : Type}

theorem lookup_filter_ne (entries : List (String × α)) {name other : String} (ne : other ≠ name) :
    (entries.filter fun entry => entry.1 != name).lookup other = entries.lookup other := by
  induction entries with
  | nil => rfl
  | cons entry rest ih =>
    obtain ⟨key, value⟩ := entry
    by_cases same : key = name
    · simp [same, List.lookup_cons, ih, beq_false_of_ne ne]
    · have kept : (key != name) = true := by simpa using same
      simp only [List.filter_cons, kept, if_true, List.lookup_cons, ih]

theorem get?_insert (table : Table α) (name other : String) (value : α) :
    (table.insert name value).get? other =
      if other = name then some value else table.get? other := by
  unfold insert get?
  rw [List.lookup_cons]
  by_cases same : other = name
  · simp [same]
  · simp [same, beq_false_of_ne same, lookup_filter_ne _ same]

end Table

namespace Tracker

theorem current_modifyCurrent (tracker : Tracker) (f : Scope → Scope) :
    (tracker.modifyCurrent f).current = f tracker.current := by
  unfold modifyCurrent
  split <;> simp [current, *]

theorem currentTypeOf?_declareVariable (tracker : Tracker) (target name : String)
    (type : Option String) :
    (tracker.declareVariable target type).currentTypeOf? name =
      if name = target then type else tracker.currentTypeOf? name := by
  rw [currentTypeOf?, declareVariable, current_modifyCurrent, Table.get?_insert]
  split <;> rfl

theorem currentTypeOf?_declareFunction (tracker : Tracker) (function name : String)
    (parameters : List String) :
    (tracker.declareFunction function parameters).currentTypeOf? name =
      tracker.currentTypeOf? name := by
  rw [currentTypeOf?, declareFunction, current_modifyCurrent]
  rfl

theorem currentTypeOf?_pop (tracker : Tracker) (context : Context) (name : String) :
    (tracker.pop context).2.currentTypeOf? name = tracker.currentTypeOf? name := by
  unfold pop
  repeat' split
  all_goals rfl

end Tracker

end DeskScript
