import Reindex.Proofs.Cluster.Frame
import Reindex.Proofs.Lifecycle.Cutover
import Reindex.Proofs.Lifecycle.InMemory
import Reindex.Proofs.Session.Regime
import Reindex.Proofs.Writer.Confined

/-!
# The other indices

A session on the cluster in memory writes into the index of its run and into no other. Whatever its
owner asks for, and whatever of it fails, all other indices are what they were before the session
was started; only the one that a closing reports to have been replaced gives its aliases away, and
nothing else of it.

Main statement: `Session.others_untouched`.
-/

namespace Reindex

/-- All of an index but its aliases. -/
def MemoryIndex.bare (ix : MemoryIndex) : MemoryIndex := { ix with aliases := ∅ }

namespace MemoryCluster

/-- All indices but one are what they are in another cluster. -/
def OthersAre (index : String) (c v : MemoryCluster) : Prop :=
  ∀ key, key ≠ index → v.indices.get? key = c.indices.get? key

variable {index : String} {c : MemoryCluster}

theorem OthersAre.insert {v : MemoryCluster} (others : v.OthersAre index c) (ix : MemoryIndex) :
    OthersAre index v { c with indices := c.indices.insert index ix } := by
  intro key other
  rw [← others key other]
  exact (Dict.get?_insert _ _ _ _).trans (if_neg other.symm)

theorem keeps_others_change (failure : Failure) (f : MemoryIndex → MemoryIndex) :
    Keeps (OthersAre index c) (change index failure f) := by
  intro v others
  unfold change
  split
  · exact others.insert _
  · exact others

theorem others_apply (op : Operation) {v : MemoryCluster} (others : OthersAre index c v) :
    OthersAre index c (v.apply index op).2 := by
  unfold apply
  split
  · exact others
  · split
    · exact others
    · split
      · exact others
      · exact others.insert _

theorem others_applyAll (ops : List Operation) {v : MemoryCluster} (others : OthersAre index c v) :
    OthersAre index c (applyAll index ops v).2 := by
  induction ops generalizing v with
  | nil => exact others
  | cons op ops ih => exact ih (others_apply op others)

theorem others_bulk (ops : List Operation) {v : MemoryCluster} (others : OthersAre index c v) :
    OthersAre index c (bulk index ops v).2 := by
  unfold bulk
  dsimp only
  split
  · exact others
  · exact others_applyAll ops (v := { v with bulkBatches := _ }) others

/-- No call to one index destroys another. -/
theorem isolates_others (index : String) (c : MemoryCluster) :
    cluster.Isolates index (OthersAre index c) where
  beginBulk _ _ _ others := others
  finishBulk _ ops _ others := others_bulk ops others
  refresh := keeps_others_change _ _
  settings _ := .bind (keeps_others_change _ _) fun _ _ others => others
  read _ _ others := others
  store _ _ := keeps_others_change _ _

end MemoryCluster

namespace Session

variable {σ τ : Type}

section

variable {cluster : Cluster σ τ} {setup : WriterSetup} {P : σ → Prop}

/-- A session whose writer keeps to the index of its setup. -/
abbrev Confined (setup : WriterSetup) (P : σ → Prop) : Session σ τ → Prop :=
  With setup (Writer.Confined setup.index P)

theorem confined_asking (hP : cluster.Isolates setup.index P) {α : Type}
    {x : Lifecycle → EStateM Failure σ α}
    (hx : ∀ l, l.identity.index = setup.index → Keeps P (x l)) :
    Keeps (Confined setup P) (asking cluster fun l => call (x l)) :=
  fun _ hs => (leads_asking fun l hl => .of_keeps (Writer.keeps_ask hP (hx l hl))).stateAfter hs

theorem confined_flush (hP : cluster.Isolates setup.index P) :
    Keeps (Confined setup P) (flush cluster) :=
  fun _ hs => (leads_flush (.of_keeps (Writer.keeps_flush hP))).stateAfter hs

/-- One call to a session keeps to the index. -/
theorem confined_perform (hP : cluster.Isolates setup.index P) (c : Call) :
    Keeps (Confined setup P) (perform cluster c) := by
  cases c with
  | add op =>
    intro s hs
    exact (leads_writing (x := fun setup => Writer.add cluster setup op)
      (.of_keeps (Writer.keeps_add hP op))).stateAfter hs
  | flush => exact .bind (confined_flush hP) fun _ => .pure ()
  | read id =>
    refine .bind (confined_asking hP fun l hl => ?_) fun _ => .pure ()
    rw [hl]
    exact hP.read id
  | store id body =>
    refine confined_asking hP (x := fun l => cluster.putDocument l.identity.index id body) fun l
      hl => ?_
    rw [hl]
    exact hP.store id body

/-- So do any calls, whether they work or not. -/
theorem confined_carryOut (hP : cluster.Isolates setup.index P) (calls : List Call)
    {s : Session σ τ} (hs : Confined setup P s) : Confined setup P (carryOut cluster calls s) := by
  induction calls generalizing s with
  | nil => exact hs
  | cons c calls ih => exact ih (confined_perform hP c s hs)

theorem confined_settle (hP : cluster.Isolates setup.index P) :
    Keeps (Confined setup P) (settle cluster) := by
  intro s hs
  unfold settle
  split
  · exact Keeps.bind (confined_flush hP) (fun _ => .pure ()) s hs
  · exact hs

end

/-! ## The end -/

/-- What becomes of an index that is not the one of a run: all but its aliases stays, and these
change only where `reported` says so. -/
structure LeftBehind (key : String) (c v : MemoryCluster) (reported : Prop) : Prop where
  contents : MemoryCluster.seen MemoryIndex.bare key v = MemoryCluster.seen MemoryIndex.bare key c
  aliases : v.aliasesOf key ≠ c.aliasesOf key → reported

section

variable {setup : WriterSetup} {c : MemoryCluster} {key : String} {s : Session MemoryCluster Unit}

theorem LeftBehind.of_same {v : MemoryCluster} (same : v.indices.get? key = c.indices.get? key)
    (reported : Prop) :
    LeftBehind key c v reported where
  contents := by
    unfold MemoryCluster.seen
    rw [same]
  aliases changed := by
    unfold MemoryCluster.aliasesOf at changed
    rw [same] at changed
    exact absurd rfl changed

/-- A cutover takes the aliases of the old index. -/
theorem LeftBehind.of_cutOver {u v : MemoryCluster} {aliasName new : String} {old : Option String}
    (same : u.indices.get? key = c.indices.get? key) (other : key ≠ new)
    (cutOver : Lifecycle.CutOver u v aliasName new old) : LeftBehind key c v (old = some key) := by
  by_cases replaced : old = some key
  · refine ⟨(cutOver.contents key).trans ?_, fun _ => replaced⟩
    rw [same]
    rfl
  · exact .of_same ((cutOver.others key other replaced).trans same) _

theorem LeftBehind.mono {v : MemoryCluster} {p q : Prop} (h : LeftBehind key c v p) (hpq : p → q) :
    LeftBehind key c v q :=
  ⟨h.contents, fun changed => hpq (h.aliases changed)⟩

/-- The decision on the alias takes those of an index that it reports, if of any. -/
theorem others_decide (hs : Confined setup (MemoryCluster.OthersAre setup.index c) s)
    (switch : Bool) (other : key ≠ setup.index) :
    let decided := decide MemoryCluster.cluster switch s
    LeftBehind key c (stateAfter decided).writer.cluster (switch = true ∧
      ∃ aliasName aliases,
        answer? decided = some (.switched aliasName (some key) setup.index aliases)) := by
  intro decided
  cases switch with
  | false => exact .of_same (hs.writer.cluster key other) _
  | true =>
    have turned := Writer.confined_takeTurn (MemoryCluster.isolates_others setup.index c) hs.writer
    have same := turned.cluster key other
    have own : s.lifecycle.identity.index = setup.index := congrArg WriterSetup.index hs.setup
    have verdict :=
      Lifecycle.decision_memory s.lifecycle s.tally
        (s.writer.takeTurn MemoryCluster.cluster).cluster
    rw [show decided = _ from decide_true MemoryCluster.cluster s]
    dsimp only
    generalize s.lifecycle.switchIndex MemoryCluster.cluster s.tally _ = r at verdict
    cases verdict with
    | failed e => exact .of_same same _
    | stayed => exact .of_same same _
    | @moved aliasName old v named carried fresh cutOver =>
      rw [own] at cutOver
      refine (LeftBehind.of_cutOver same other cutOver).mono fun replaced => ?_
      subst replaced
      let u := (s.writer.takeTurn MemoryCluster.cluster).cluster
      exact ⟨rfl, aliasName, (Lifecycle.moving u aliasName (some key)).keys, by rw [← own]; rfl⟩

/-- Closing a session takes the aliases of the index that its report names, if of any. -/
theorem others_close (hs : Confined setup (MemoryCluster.OthersAre setup.index c) s) (switch : Bool)
    (other : key ≠ setup.index) :
    let closed := close MemoryCluster.cluster switch s
    LeftBehind key c (stateAfter closed).writer.cluster (switch = true ∧
      ∃ summary aliasName aliases,
      answer? closed = some summary ∧
        summary.outcome = .switched aliasName (some key) setup.index aliases) := by
  intro closed
  have closing : closed = _ := congrFun (close_eq MemoryCluster.cluster switch) s
  have settling := confined_settle (MemoryCluster.isolates_others setup.index c) s hs
  cases settled : settle MemoryCluster.cluster s with
  | error e u =>
    rw [settled] at settling
    rw [closing, bind_of_error settled]
    exact .of_same (settling.writer.cluster key other) _
  | ok a u =>
    rw [settled] at settling
    rw [closing, bind_of_ok settled]
    have left := others_decide (s := u) settling switch other
    dsimp only at left
    cases decided : decide MemoryCluster.cluster switch u with
    | error e v =>
      rw [decided] at left
      rw [bind_of_error decided]
      exact left.mono fun ⟨_, _, _, reported⟩ => by cases reported
    | ok outcome v =>
      rw [decided] at left
      rw [bind_of_ok decided]
      refine left.mono fun ⟨asked, aliasName, aliases, reported⟩ =>
        ⟨asked, v.summary outcome, aliasName, aliases, rfl, ?_⟩
      exact Option.some.inj reported

end

variable {policy : NamingPolicy} {now : Instant} {tuning : Tuning} {payload : IndexPayload}
    {options : SessionOptions} {c : MemoryCluster} {s : Session MemoryCluster Unit}

/-- A start touches the index of its run only. -/
theorem others_start
    (hs : start MemoryCluster.cluster policy now tuning payload options c = .ok s) :
    Confined s.setup (MemoryCluster.OthersAre s.lifecycle.identity.index c) s := by
  obtain ⟨l, v, hl, rfl⟩ := ofLifecycle_of_start hs
  have started := Lifecycle.startedInMemory_of_ok hl
  refine ⟨rfl, .of_closed rfl fun key other => ?_⟩
  show v.indices.get? key = c.indices.get? key
  cases created : l.created with
  | false => rw [(started.left created).1]
  | true =>
    rw [(started.made created).2.2.2 key]
    exact if_neg fun own => other own.symm

/-- **The other indices.** Behind a start and any calls, each index but the one of the run is what
it was before. Behind the end of the session it has at least all that it had but its aliases, and
these too unless a closing reports that the alias went from this index to the one of the run. -/
theorem others_untouched
    (hs : start MemoryCluster.cluster policy now tuning payload options c = .ok s)
    (calls : List Call) (ending : Ending) :
    let index := s.lifecycle.identity.index
    let called := carryOut MemoryCluster.cluster calls s
    let ended := conclude MemoryCluster.cluster ending called
    ∀ key, key ≠ index → called.writer.cluster.indices.get? key = c.indices.get? key ∧
      LeftBehind key c (stateAfter ended).writer.cluster (ending = .close true ∧
        ∃ summary aliasName aliases,
        answer? ended = some (some summary) ∧
          summary.outcome = .switched aliasName (some key) index aliases) := by
  intro index called ended key other
  have isolates := MemoryCluster.isolates_others s.setup.index c
  have confined := confined_carryOut isolates calls (others_start hs)
  refine ⟨confined.writer.cluster key other, ?_⟩
  cases ending with
  | abort =>
    have flushed := confined_flush isolates _ confined
    rw [show stateAfter ended = _ from (conclude_abort MemoryCluster.cluster called).trans
      (stateAfter_abort _ called)]
    exact .of_same (flushed.writer.cluster key other) _
  | close switch =>
    obtain ⟨left, reports⟩ := conclude_close MemoryCluster.cluster switch called
    rw [show stateAfter ended = _ from left]
    refine (others_close confined switch other).mono fun ⟨asked, summary, aliasName, aliases,
      reported, moved⟩ => ?_
    subst asked
    have told : ended = .ok (some summary) _ := (reports summary _).2 (eq_ok_of_answer reported)
    refine ⟨rfl, summary, aliasName, aliases, ?_, moved⟩
    rw [told]
    rfl

/-- A shelf with an index in service and one that has nothing to do with it. Two operations are
pushed back, and answers take a while. -/
def shelfWithJournals : MemoryCluster :=
  { (({} : MemoryCluster).seed "books1" (.ofList [("books", none), ("shelf", some .null)])
    (.ofList [("a", "1")])).seed
      "journals" (.ofList [("read", none)]) (.ofList [("j", "2")]) with
    rejections := 2, latency := 40 }

/-- The index that was replaced gives its aliases away and keeps its documents; the other one keeps
both. -/
theorem others_untouched_shelf :
    let cluster := MemoryCluster.cluster
    let policy : NamingPolicy := ⟨"books", some ⟨"'2'", [.literal ['2']]⟩, false⟩
    let calls : List Call :=
      [.add ⟨.index, "a", some "{}"⟩, .flush, .store "b" "{}", .add ⟨.delete, "j", none⟩, .read "j"]
    ∃ s, start cluster policy ⟨0, 0⟩ {} ⟨.null, .null⟩ {} shelfWithJournals = .ok s ∧
      s.lifecycle.identity.index = "books2" ∧
      let v := (stateAfter
        (conclude cluster (.close true) (carryOut cluster calls s))).writer.cluster
      (v.aliasesOf "books1").entries = [] ∧
      MemoryCluster.seen MemoryIndex.bare "books1" v = MemoryCluster.seen MemoryIndex.bare "books1"
        shelfWithJournals ∧
      v.aliasesOf "journals" = shelfWithJournals.aliasesOf "journals" := by
  intro cluster policy calls
  let l : Lifecycle := ⟨.behind "books" "books2", {}, {}, .ensured, true⟩
  have started : start cluster policy ⟨0, 0⟩ {} ⟨.null, .null⟩ {} shelfWithJournals = .ok
    (ofLifecycle l {} _) :=
    start_of_lifecycle (eq_ok_of_answer (by decide +kernel))
  generalize hs : ofLifecycle l _ _ = s at started
  have index : s.lifecycle.identity.index = "books2" := by rw [← hs]; rfl
  have left := others_untouched started calls (.close true)
  have given :
    ((stateAfter
      (conclude cluster (.close true) (carryOut cluster calls s))).writer.cluster.aliasesOf
      "books1").entries = [] := by
    rw [← hs]
    decide +kernel
  have told : (answer? (conclude cluster (.close true) (carryOut cluster calls s))).map
    (·.map (·.outcome)) =
      some (some (.switched "books" (some "books1") "books2" ["books", "shelf"])) := by
    rw [← hs]
    decide +kernel
  refine ⟨s, started, index, given, (left "books1" (by rw [index]; decide)).2.contents,
    Decidable.byContradiction fun changed => ?_⟩
  obtain ⟨-, summary, aliasName, aliases, reported, moved⟩ :=
    (left "journals" (by rw [index]; decide)).2.aliases changed
  rw [reported] at told
  exact absurd (moved.symm.trans (Option.some.inj (Option.some.inj told))) (by simp)

end Session

end Reindex
