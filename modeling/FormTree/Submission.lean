set_option autoImplicit false

/-!
# Submissions in flight

A submission carries an action that runs once every form has been submitted. Copies of a
submission share the action, and only the first completion of any of them runs it.

## Main definitions

* `FormTree.Submission` — the submission that a group of copies share.
* `FormTree.Submission.complete` — completing one of the copies.
-/

namespace FormTree

/-- A submission shared by its copies. -/
structure Submission where
  /-- Identifier of the button that asked for it. -/
  button : Option String := none
  /-- The number of copies, the first one included. -/
  copies : Nat := 1
  /-- The action has been taken. -/
  isCompleted : Bool := false
  /-- How often the action ran. -/
  runs : Nat := 0
  deriving DecidableEq, Inhabited

namespace Submission

/-- One more copy. -/
def clone (submission : Submission) : Submission :=
  { submission with copies := submission.copies + 1 }

/-- Complete a copy: the action runs unless it has been taken before. -/
def complete (submission : Submission) : Submission :=
  if submission.isCompleted then submission
  else { submission with isCompleted := true, runs := submission.runs + 1 }

end Submission

end FormTree
