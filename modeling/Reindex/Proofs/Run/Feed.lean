import Reindex.Proofs.Session.Course
import Reindex.Run

/-!
# Writing the records of a file

A record file is written line by line. What its lines ask for up to the first one that cannot be
read is what a session is called with, one call for each record; the first line that cannot be read
ends the feed.

Main statements: `keeps_feed` for what no added operation destroys, and `feed_of_broken` for a file
with a line that cannot be read.
-/

namespace Reindex

variable {σ τ : Type}

/-! ## Lines -/

namespace RecordSource

/-- What one line comes to: a record, nothing if it is blank, or why it is no record. What is no
text has no reason. -/
def readLine : Option String → Except (Option LineFault) (Option Record)
  | none => .error none
  | some text =>
    let trimmed := Text.trim text.toList
    if trimmed.isEmpty then .ok none
    else
      match Record.parse (String.ofList trimmed) with
      | .ok record => .ok (some record)
      | .error fault => .error (some fault)

/-- The fault of a line that cannot be read, behind so many that were counted. -/
def faultOf (path : String) (counted : Nat) : Option LineFault → RecordFault
  | none => .unreadable path counted
  | some fault => .badRecord path (counted + 1) fault

/-- Reading on is reading the next line first. A line that is no text is not counted. -/
theorem read_cons (path : String) (line : Option String) (lines : List (Option String)) (n : Nat) :
    read path (line :: lines) n =
      match readLine line with
      | .ok none => read path lines (n + 1)
      | .ok (some r) => (.ok (some r), lines, n + 1)
      | .error reason =>
          (.error (faultOf path n reason), lines, if reason.isNone then n else n + 1) := by
  cases line with
  | none => rfl
  | some text =>
    simp only [read, readLine]
    by_cases blank : (Text.trim text.toList).isEmpty
    · rw [if_pos blank, if_pos blank]
    · rw [if_neg blank, if_neg blank]
      cases Record.parse (String.ofList (Text.trim text.toList)) <;> rfl

/-- A file is read from its start. -/
theorem start_of_ofFile? {path : String} {entry : FileEntry} {source : RecordSource}
    (opened : ofFile? path entry = some source) : source.path = path ∧ source.line = 0 := by
  unfold ofFile? at opened
  split at opened <;> cases opened <;> exact ⟨rfl, rfl⟩

/-- The line can be read. -/
def Reads (line : Option String) : Prop := ∃ record, readLine line = .ok record

/-- The operations that lines ask for, in order. -/
def operations (lines : List (Option String)) : List Operation :=
  lines.filterMap fun line => match readLine line with
    | .ok (some record) => some record.operation
    | _ => none

end RecordSource

/-! ## What a feed keeps -/

theorem stateAfter_adaptExcept {ε ε' ρ α : Type} (x : EStateM ε ρ α) (f : ε → ε') (s : ρ) :
    stateAfter (x.adaptExcept f s) = stateAfter (x s) := by
  unfold EStateM.adaptExcept
  cases x s <;> rfl

theorem keeps_adaptExcept {ε ε' ρ α : Type} {P : ρ → Prop} {x : EStateM ε ρ α} (f : ε → ε')
    (hx : Keeps P x) :
    Keeps P (x.adaptExcept f) := by
  intro s hs
  rw [stateAfter_adaptExcept]
  exact hx s hs

section Keeping

variable {cluster : Cluster σ τ} {P : Session σ τ → Prop}

theorem keeps_feedLines (adds : ∀ op, Keeps P (Session.add cluster op)) (path : String)
    (lines : List (Option String)) (n : Nat) : Keeps P (feedLines cluster path lines n) := by
  induction lines generalizing n with
  | nil => exact .pure ()
  | cons line lines ih =>
    unfold feedLines
    split
    · exact .throw _
    · exact ih _
    · exact .bind (keeps_adaptExcept _ (adds _)) fun _ => ih _

/-- **A feed keeps** what adding an operation keeps. -/
theorem keeps_feed (adds : ∀ op, Keeps P (Session.add cluster op)) (files : Files)
    (input : Option String) :
    Keeps P (feed cluster files input) := by
  unfold feed
  split
  · exact .pure ()
  · split
    · exact .throw _
    · exact keeps_feedLines adds _ _ _

end Keeping

/-! ## A file with a broken line -/

section Broken

open RecordSource (readLine faultOf Reads operations)

variable {cluster : Cluster σ τ} {s u : Session σ τ} {path : String}

/-- What one line makes of a feed. -/
theorem feedLines_cons (cluster : Cluster σ τ) (path : String) (line : Option String)
    (lines : List (Option String)) (n : Nat) :
    feedLines cluster path (line :: lines) n =
      match readLine line with
      | .ok none => feedLines cluster path lines (n + 1)
      | .ok (some record) => do
        (Session.add cluster record.operation).adaptExcept .index
        feedLines cluster path lines (n + 1)
      | .error reason => throw (.record (faultOf path n reason)) := by
  rw [feedLines, RecordSource.read_cons]
  rcases readLine line with ⟨_ | fault⟩ | ⟨_ | record⟩ <;> rfl

/-- A feed from a file that can be opened goes through its lines. -/
theorem feed_of_opened {files : Files} {source : RecordSource}
    (opened : RecordSource.ofFile? path (files path) = some source) :
    feed cluster files (some path) = feedLines cluster path source.lines 0 := by
  unfold feed
  simp only [opened, (RecordSource.start_of_ofFile? opened).2]

/-- Lines that can all be read are calls of the session. -/
theorem feedLines_append {before : List (Option String)} (reads : ∀ line ∈ before, Reads line)
    (performed : Session.performAll cluster ((operations before).map .add) s = .ok () u)
    (behind : List (Option String)) (n : Nat) :
    feedLines cluster path (before ++ behind) n s = feedLines cluster path behind
      (n + before.length) u := by
  induction before generalizing s n with
  | nil =>
    cases performed
    rfl
  | cons line before ih =>
    rw [List.forall_mem_cons] at reads
    obtain ⟨⟨record, read⟩, reads⟩ := reads
    have counted : n + (line :: before).length = n + 1 + before.length := by
      rw [List.length_cons]
      omega
    have step := congrFun (feedLines_cons cluster path line (before ++ behind) n) s
    rw [read] at step
    rw [List.cons_append, step, counted]
    cases record with
    | none =>
      have rest : operations (line :: before) = operations before := by simp [operations, read]
      rw [rest] at performed
      exact ih reads performed (n + 1)
    | some record =>
      have first : operations (line :: before) = record.operation :: operations before := by
        simp [operations, read]
      rw [first, List.map_cons] at performed
      obtain ⟨⟨⟩, v, added, performed⟩ := bind_eq_ok performed
      have adapted : (Session.add cluster record.operation).adaptExcept RunError.index s = .ok
        () v := by
        unfold EStateM.adaptExcept
        rw [show Session.add cluster record.operation s = .ok () v from added]
      exact (bind_of_ok adapted _).trans (ih reads performed (n + 1))

/-- **The first line that cannot be read ends the feed**, behind the operations of the lines
before. -/
theorem feed_of_broken {files : Files} {source : RecordSource}
    (opened : RecordSource.ofFile? path (files path) = some source)
    {before after : List (Option String)} {line : Option String} {reason : Option LineFault}
    (split : source.lines = before ++ line :: after) (reads : ∀ line ∈ before, Reads line)
    (broken : readLine line = .error reason)
    (performed : Session.performAll cluster ((operations before).map .add) s = .ok () u) :
    feed cluster files (some path) s = .error (.record (faultOf path before.length reason)) u := by
  have step := congrFun (feedLines_cons cluster path line after before.length) u
  rw [broken] at step
  rw [feed_of_opened opened, split, feedLines_append reads performed, Nat.zero_add, step]
  rfl

end Broken

end Reindex
