import Reindex.Cluster.Basic

/-!
# A scripted cluster

A cluster that answers bulk calls from a list and keeps what it was asked, so that the sending of
batches can be watched. All other calls succeed and do nothing.
-/

namespace Reindex

/-- How a scripted bulk call ends. -/
inductive CueAnswer where
  /-- The same status for each operation. -/
  | each (status : Nat)
  /-- Exactly these statuses and errors. -/
  | statuses (results : List (Nat × Option String))
  | failed (failure : BulkFailure)
  | died
deriving DecidableEq, Repr

/-- A scripted bulk call: its answer, and the milliseconds until it comes. -/
structure Cue where
  answer : CueAnswer
  takes : Nat := 0
deriving DecidableEq, Repr

/-- A bulk call that was begun. -/
structure Attempt where
  index : String
  ops : List Operation
  time : Nat
deriving DecidableEq, Repr

structure ScriptedCluster where
  script : List Cue
  /-- In order. -/
  attempts : List Attempt := []
deriving DecidableEq, Repr

namespace ScriptedCluster

/-- The call that follows the end of the script: every operation is carried out. -/
def lastCue : Cue := { answer := .each 200 }

def begin (now : Nat) (index : String) (ops : List Operation) (c : ScriptedCluster) :
    (Nat × Cue) × ScriptedCluster :=
  let cue := c.script.head?.getD lastCue
  ((cue.takes, cue), { script := c.script.tail, attempts := c.attempts ++ [⟨index, ops, now⟩] })

/-- The answer of a cue. Results are named after the operations in turn. -/
def CueAnswer.resolve (ops : List Operation) : CueAnswer → BulkAnswer
  | .each status => .items (ops.map (.done · status))
  | .statuses results =>
    .items (results.zipIdx.map fun ((status, error), i) =>
      let op := ops[i]?.getD ⟨.index, "", none⟩
      ⟨op.kind, op.id, status, error⟩)
  | .failed failure => .failed failure
  | .died => .died

def cluster : Cluster ScriptedCluster Cue where
  indexExists _ := return true
  createIndex _ _ _ := return ()
  deleteIndex _ := return ()
  refreshIndex _ := return ()
  waitForHealth _ _ := return ⟨false, .green⟩
  aliases _ := return ∅
  updateAliases _ := return ()
  updateSettings _ _ := return ()
  beginBulk := begin
  finishBulk cue _ ops c := (CueAnswer.resolve ops cue.answer, c)
  getDocument _ _ := return none
  putDocument _ _ _ := return ()

end ScriptedCluster

end Reindex
