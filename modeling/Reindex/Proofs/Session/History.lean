import Reindex.Proofs.Cluster.Scene
import Reindex.Proofs.Lifecycle.FailedStart
import Reindex.Proofs.Naming.Siblings
import Reindex.Proofs.Session.Aliases
import Reindex.Proofs.Session.Complete

/-!
# Runs one after another

A history is a list of runs against one cluster in memory, each with a policy, a clock, options,
calls and an end of its own; any of them may fail to start, fail on the way, write nothing or be
given up. As long as no run asks for its index to be deleted, the base alias goes from index to
index only where a run goes live: at every point of a history it is on the index that went live
last, and on no other.

Main statement: `Session.service_history`.
-/

namespace Reindex

namespace MemoryCluster

variable {c v : MemoryCluster}

/-- Where no index has changed its aliases, no alias has changed its indices. -/
theorem carriers_perm (same : v.AliasesAre c.aliasesOf) (aliasName : String) :
    (v.carriers aliasName).Perm (c.carriers aliasName) := by
  refine (List.perm_ext_iff_of_nodup (v.nodup_carriers _) (c.nodup_carriers _)).2 fun index => ?_
  rw [mem_carriers, mem_carriers, same]

/-- An alias on one index at most is on the same one then. -/
theorem carriers_of_aliases {aliasName : String} (one : (c.carriers aliasName).length ≤ 1)
    (same : v.AliasesAre c.aliasesOf) : v.carriers aliasName = c.carriers aliasName := by
  have perm := carriers_perm same aliasName
  rcases hc : c.carriers aliasName with _ | ⟨only, _ | ⟨next, rest⟩⟩
  · rw [hc] at perm
    exact perm.eq_nil
  · rw [hc] at perm
    exact List.perm_singleton.1 perm
  · rw [hc] at one
    simp at one

theorem present_of_carriers {aliasName index : String} (h : c.carriers aliasName = [index]) :
    c.Present index := by
  obtain ⟨ix, there, -⟩ := get?_of_mem_carriers (h ▸ List.mem_singleton_self index)
  exact Dict.contains_iff.2 ⟨ix, there⟩

theorem aliasesOf_of_absent {index : String} (absent : ¬ c.Present index) :
    c.aliasesOf index = ∅ := by
  unfold aliasesOf
  cases hi : c.indices.get? index with
  | none => rfl
  | some ix => exact absurd (Dict.contains_iff.2 ⟨ix, hi⟩) absent

end MemoryCluster

namespace Lifecycle

/-! ## A start that deletes nothing -/

variable {policy : NamingPolicy} {now : Instant} {tuning : Tuning} {payload : IndexPayload}
    {options : LifecycleOptions} {c v : MemoryCluster}

/-- A start that deletes nothing changes no alias, for an index that it makes was not there. -/
theorem startingAliases_of_spared {l : Lifecycle} (spared : options.deleteRequested = false)
    (h : StartedInMemory policy now tuning payload options c l v) :
    l.startingAliases c = c.aliasesOf := by
  funext index
  unfold startingAliases
  split
  · rename_i made
    obtain ⟨created, rfl⟩ := made
    refine (MemoryCluster.aliasesOf_of_absent fun present => ?_).symm
    have asked := (h.made created).2.1 present
    rw [spared] at asked
    cases asked
  · rfl

/-- Nor does one that fails. -/
theorem aliases_of_failed_start {e : Error} (spared : options.deleteRequested = false)
    (h : FailedStart policy now tuning payload options c e v) : v.AliasesAre c.aliasesOf := by
  cases h with
  | @unwellMade identity resolved mode asked worse =>
    intro index
    by_cases own : identity.index = index
    · subst own
      have absent : ¬ c.Present identity.index := by
        intro present
        have deleted := asked present
        rw [spared] at deleted
        cases deleted
      rw [MemoryCluster.aliasesOf_of_absent absent]
      unfold MemoryCluster.aliasesOf
      rw [MemoryCluster.get?_withFresh, if_pos rfl]
      rfl
    · unfold MemoryCluster.aliasesOf
      rw [MemoryCluster.get?_withFresh, if_neg own]
  | _ => exact fun _ => rfl

/-- No start changes the scene. -/
theorem scene_of_start {l : Lifecycle}
    (h : StartedInMemory policy now tuning payload options c l v) :
    v.scene = c.scene := by
  rw [indices_of_start h]
  rfl

theorem scene_of_failed_start {e : Error}
    (h : FailedStart policy now tuning payload options c e v) :
    v.scene = c.scene := by
  cases h <;> rfl

end Lifecycle

/-! ## One run -/

/-- The index that a run put into service, if it went live. -/
def RunSummary.published? (summary : RunSummary) : Option String :=
  if summary.outcome.isSwitched then some summary.index else none

namespace Session

variable {s : Session MemoryCluster Unit}

/-- What the end of a session leaves: its report, if it gives one, and the cluster. -/
def left : EStateM.Result Error (Session MemoryCluster Unit) (Option RunSummary) →
    Option RunSummary × MemoryCluster
  | .ok report v => (report, v.writer.cluster)
  | .error _ v => (none, v.writer.cluster)

theorem left_close (switch : Bool) (s : Session MemoryCluster Unit) :
    left (conclude MemoryCluster.cluster (.close switch) s) =
      match close MemoryCluster.cluster switch s with
      | .ok summary v => (some summary, v.writer.cluster)
      | .error _ v => (none, v.writer.cluster) := by
  show left ((some <$> close MemoryCluster.cluster switch) s) = _
  simp only [Functor.map, EStateM.map]
  cases close MemoryCluster.cluster switch s <;> rfl

/-- **The end of a session** is a course of its writer and, where the alias moves, a decision behind
it. -/
theorem concluded (hs : s.writer.window.AtRest) (ending : Ending) :
    let after := left (conclude MemoryCluster.cluster ending s)
    ∃ (g : History) (w : Writer MemoryCluster Unit), Course (Writer.Move MemoryCluster.cluster)
      s.writer g w ∧
      ((after.1.bind RunSummary.published? = none ∧ after.2 = w.cluster) ∨
        ∃ tally decided,
          s.lifecycle.switchIndex MemoryCluster.cluster tally w.cluster = .ok decided after.2 ∧
          decided.1.isSwitched = true ∧
            after.1.bind RunSummary.published? = some s.lifecycle.identity.index) := by
  intro after
  cases ending with
  | abort =>
    obtain ⟨g, course, -⟩ := course_flush MemoryCluster.cluster hs
    refine ⟨g, _, course, .inl ?_⟩
    rw [← stateAfter_abort, ← conclude_abort]
    show (left (conclude MemoryCluster.cluster .abort s)).1.bind RunSummary.published? = none ∧ _
    cases hc : conclude MemoryCluster.cluster .abort s with
    | ok report v =>
      obtain ⟨_, _, -, ended⟩ := bind_eq_ok hc
      cases ended
      exact ⟨rfl, congrArg (fun r => (left r).2) hc⟩
    | error e v => exact ⟨rfl, congrArg (fun r => (left r).2) hc⟩
  | close switch =>
    obtain ⟨g, course, -, window, same, -⟩ := course_settle MemoryCluster.cluster hs
    have closing := congrFun (close_eq MemoryCluster.cluster switch) s
    have ends : after = _ := left_close switch s
    cases settled : settle MemoryCluster.cluster s with
    | error e u =>
      rw [settled] at course
      rw [bind_of_error settled] at closing
      rw [ends, closing]
      exact ⟨g, u.writer, course, .inl ⟨rfl, rfl⟩⟩
    | ok a u =>
      rw [settled] at course window same
      have window : u.writer.window = .closed u.tally := window
      have same : u.lifecycle = s.lifecycle := same
      rw [bind_of_ok settled] at closing
      refine ⟨g, u.writer, course, ?_⟩
      cases switch with
      | false =>
        rw [bind_of_ok (decide_false MemoryCluster.cluster u)] at closing
        rw [ends, closing]
        exact .inl ⟨rfl, rfl⟩
      | true =>
        have decision := decide_true MemoryCluster.cluster u
        dsimp only at decision
        rw [Writer.cluster_takeTurn MemoryCluster.cluster window, same] at decision
        rw [ends]
        have verdict := Lifecycle.decision_memory s.lifecycle u.tally u.writer.cluster
        cases hd : s.lifecycle.switchIndex MemoryCluster.cluster u.tally u.writer.cluster with
        | error e c =>
          rw [hd] at decision verdict
          rw [bind_of_error decision] at closing
          rw [closing]
          cases verdict
          exact .inl ⟨rfl, rfl⟩
        | ok decided c =>
          rw [hd] at decision verdict
          rw [bind_of_ok decision] at closing
          rw [closing]
          cases verdict with
          | stayed unmoved =>
            refine .inl ⟨?_, rfl⟩
            show RunSummary.published? _ = none
            unfold RunSummary.published?
            exact if_neg (Bool.eq_false_iff.1 unmoved)
          | moved => exact .inr ⟨u.tally, _, hd, rfl, rfl⟩

/-- One run of a history: what it starts with, what its owner asks for, and how it ends. -/
structure Episode where
  policy : NamingPolicy
  now : Instant
  tuning : Tuning
  payload : IndexPayload
  options : SessionOptions
  calls : List Call
  ending : Ending

namespace Episode

/-- The report of a run, if it gives one, and the cluster behind it. -/
def play (e : Episode) (c : MemoryCluster) : Option RunSummary × MemoryCluster :=
  match start MemoryCluster.cluster e.policy e.now e.tuning e.payload e.options c with
  | .error (_, v) => (none, v)
  | .ok s => left
    (conclude MemoryCluster.cluster e.ending (carryOut MemoryCluster.cluster e.calls s))

/-- The index that a run put into service. -/
def published? (e : Episode) (c : MemoryCluster) : Option String :=
  (e.play c).1.bind RunSummary.published?

/-- What a run in which no index is deleted does to the aliases and the scene. -/
inductive Played (e : Episode) (c v : MemoryCluster) : Prop
  | unpublished (published : e.published? c = none) (aliases : v.AliasesAre c.aliasesOf)
      (scene : v.scene = c.scene)
  | published {identity : Identity} {u : MemoryCluster} {old : Option String}
      (well : c.health.worse .yellow = false)
      (resolved : e.policy.resolve MemoryCluster.cluster e.now c = .ok identity c)
      (published : e.published? c = some identity.index) (aliases : u.AliasesAre c.aliasesOf)
      (cutOver : Lifecycle.CutOver u v e.policy.base identity.index old) (scene : v.scene = c.scene)

/-- **One run** of a history. -/
theorem played (e : Episode) (spared : e.options.lifecycle.deleteRequested = false)
    (c : MemoryCluster) :
    e.Played c (e.play c).2 := by
  cases hl : Lifecycle.start MemoryCluster.cluster e.policy e.now e.tuning e.payload
    e.options.lifecycle c with
  | error failure v =>
    have failed : e.play c = (none, v) := by
      unfold play start
      rw [hl]
    have start := Lifecycle.failedStart_of_error hl
    refine .unpublished ?_ ?_ ?_
    · unfold published?
      rw [failed]
      rfl
    · rw [failed]
      exact Lifecycle.aliases_of_failed_start spared start
    · rw [failed]
      exact Lifecycle.scene_of_failed_start start
  | ok l v₀ =>
    have started := Lifecycle.startedInMemory_of_ok hl
    have hs : start MemoryCluster.cluster e.policy e.now e.tuning e.payload e.options c = .ok _ :=
      start_of_lifecycle hl
    let s : Session MemoryCluster Unit := ofLifecycle l e.options.writer v₀
    have bare : s.lifecycle.startingAliases c = c.aliasesOf :=
      Lifecycle.startingAliases_of_spared spared started
    obtain ⟨h, course, rest, same⟩ := course_carryOut MemoryCluster.cluster e.calls (s := s) trivial
    have scene : v₀.scene = c.scene := Lifecycle.scene_of_start started
    have playing :
      e.play c = left
        (conclude MemoryCluster.cluster e.ending (carryOut MemoryCluster.cluster e.calls s)) := by
      unfold play
      rw [hs]
    obtain ⟨g, w, course', ended⟩ := concluded rest e.ending
    rw [← playing, same] at ended
    have aliases : w.cluster.AliasesAre c.aliasesOf := by
      rw [← bare]
      exact Writer.steady MemoryCluster.steady_aliases (Lifecycle.aliases_of_start started)
        (course.trans course')
    have kept : w.cluster.scene = c.scene :=
      Writer.steady MemoryCluster.steady_scene scene (course.trans course')
    rcases ended with ⟨unpublished, after⟩ | ⟨tally, decided, moved, switched, published⟩
    · refine .unpublished unpublished ?_ ?_
      · rw [after]
        exact aliases
      · rw [after]
        exact kept
    · obtain ⟨aliasName, old, named, -, -, cutOver⟩ := Lifecycle.cutOver_of_switched moved switched
      obtain rfl := NamingPolicy.aliasName_of_resolve started.identity named
      refine .published started.well started.identity published aliases cutOver ?_
      rw [cutOver.told]
      exact kept

/-- A run for a base alias that deletes no index. -/
structure Of (b : String) (e : Episode) : Prop where
  base : e.policy.base = b
  spared : e.options.lifecycle.deleteRequested = false

variable {b : String} {c : MemoryCluster}

theorem scene_play {e : Episode} (of : e.Of b) : (e.play c).2.scene = c.scene := by
  cases e.played of.spared c with
  | unpublished _ _ scene => exact scene
  | published _ _ _ _ _ scene => exact scene

/-- **One run moves the alias** to the index that it puts into service, if any. -/
theorem carriers_play {e : Episode} (of : e.Of b) (one : (c.carriers b).length ≤ 1) :
    (e.play c).2.carriers b = (c.carriers b ++ (e.published? c).toList).getLast?.toList := by
  cases e.played of.spared c with
  | unpublished published aliases _ =>
    obtain ⟨old, carried⟩ := MemoryCluster.carriers_of_few (Nat.not_le.2 (Nat.lt_succ_of_le one))
    rw [MemoryCluster.carriers_of_aliases one aliases, published, carried]
    cases old <;> rfl
  | published _ _ published _ cutOver _ =>
    rw [← of.base, cutOver.carriers, published]
    simp

end Episode

/-! ## Many runs -/

/-- The cluster behind a history. -/
def playAll (es : List Episode) (c : MemoryCluster) : MemoryCluster :=
  es.foldl (fun c e => (e.play c).2) c

/-- The indices that a history put into service, in order. -/
def publishedBy : List Episode → MemoryCluster → List String
  | [], _ => []
  | e :: es, c => (e.published? c).toList ++ publishedBy es (e.play c).2

variable {b : String} {c : MemoryCluster}

theorem publishedBy_append (before after : List Episode) (c : MemoryCluster) :
    publishedBy (before ++ after) c = publishedBy before c ++ publishedBy after
      (playAll before c) := by
  induction before generalizing c with
  | nil => rfl
  | cons e es ih =>
    rw [List.cons_append, publishedBy, publishedBy, ih, List.append_assoc]
    rfl

theorem scene_playAll {es : List Episode} (of : ∀ e ∈ es, e.Of b) :
    (playAll es c).scene = c.scene := by
  induction es generalizing c with
  | nil => rfl
  | cons e es ih =>
    rw [List.forall_mem_cons] at of
    exact (ih of.2).trans (Episode.scene_play of.1)

/-- **Many runs move the alias** to the index that was put into service last. -/
theorem carriers_playAll {es : List Episode} (of : ∀ e ∈ es, e.Of b)
    (one : (c.carriers b).length ≤ 1) :
    (playAll es c).carriers b = (c.carriers b ++ publishedBy es c).getLast?.toList := by
  induction es generalizing c with
  | nil =>
    obtain ⟨old, carried⟩ := MemoryCluster.carriers_of_few (Nat.not_le.2 (Nat.lt_succ_of_le one))
    unfold publishedBy playAll
    rw [List.append_nil, List.foldl_nil, carried]
    cases old <;> rfl
  | cons e es ih =>
    rw [List.forall_mem_cons] at of
    have step := Episode.carriers_play of.1 one
    have still : ((e.play c).2.carriers b).length ≤ 1 := by
      rw [step]
      cases (c.carriers b ++ (e.published? c).toList).getLast? <;> simp
    rw [show playAll (e :: es) c = playAll es (e.play c).2 from rfl, ih of.2 still, step,
      publishedBy, ← List.append_assoc]
    generalize c.carriers b ++ (e.published? c).toList = served
    rw [List.getLast?_append, List.getLast?_append]
    cases served.getLast? <;> rfl

/-! ## A run that updates the index in service -/

/-- An update of an index that is there starts in a cluster that is well. -/
theorem start_of_update {policy : NamingPolicy} {now : Instant} {tuning : Tuning}
    {payload : IndexPayload} {options : SessionOptions} {identity : Identity}
    (resolved : policy.resolve MemoryCluster.cluster now c = .ok identity c)
    (mode : options.lifecycle.updateMode = true) (present : c.Present identity.index)
    (well : c.health.worse .yellow = false) :
    start MemoryCluster.cluster policy now tuning payload options c =
      .ok (ofLifecycle ⟨identity, tuning, options.lifecycle, .ensured, false⟩ options.writer
        c) := by
  have ensured := Lifecycle.ensureIndex_memory identity.index tuning payload options.lifecycle c
  have present : c.indices.contains identity.index = true := present
  rw [if_pos mode, if_pos present] at ensured
  have awaited := Lifecycle.awaitHealth_memory options.lifecycle c
  rw [if_neg (Bool.eq_false_iff.1 well)] at awaited
  refine start_of_lifecycle ?_
  unfold Lifecycle.start
  rw [bind_of_ok resolved, bind_of_ok ensured, bind_of_ok awaited]
  rfl

/-- A session of the index in service closes, and a clean one leaves the alias where it is. -/
theorem close_current {s : Session MemoryCluster Unit} {index : String}
    (rest : s.writer.window.AtRest) (state : s.lifecycle.state = .ensured)
    (identity : s.lifecycle.identity = .behind b index)
    (current : s.writer.cluster.carriers b = [index]) :
    ∃ summary v, close MemoryCluster.cluster true s = .ok summary v ∧ summary.index = index ∧
      (v.tally.Clean → summary.outcome = .alreadyCurrent) := by
  have own : s.lifecycle.identity.index = index := by
    rw [identity]
    rfl
  have present : s.writer.cluster.Present s.lifecycle.identity.index := by
    rw [own]
    exact MemoryCluster.present_of_carriers current
  obtain ⟨a, settled⟩ : ∃ a, settle MemoryCluster.cluster s = .ok a
    (stateAfter (settle MemoryCluster.cluster s)) := by
    refine eq_ok_of_worked ?_
    unfold settle
    split
    · exact worked_bind (worked_flush (MemoryCluster.reliable _) ⟨present, rest⟩) fun _ => rfl
    · rfl
  obtain ⟨g, course, -, window, same, -⟩ := course_settle MemoryCluster.cluster rest
  generalize stateAfter (settle MemoryCluster.cluster s) = d at settled course window same
  have carried : d.writer.cluster.carriers b = [index] := by
    have aliases := Writer.steady MemoryCluster.steady_aliases (fun _ => rfl) course
    rw [MemoryCluster.carriers_of_aliases (by simp [current]) aliases, current]
  have closing := congrFun (close_eq MemoryCluster.cluster true) s
  rw [bind_of_ok settled] at closing
  have decision := decide_true MemoryCluster.cluster d
  dsimp only at decision
  rw [Writer.cluster_takeTurn MemoryCluster.cluster window, same] at decision
  have named : s.lifecycle.identity.aliasName = some b := by
    rw [identity]
    rfl
  have turned := Writer.window_takeTurn MemoryCluster.cluster window
  cases ht : Lifecycle.skipReason? d.tally with
  | some reason =>
    rw [Lifecycle.switchIndex_of_skipped _ state named ht] at decision
    rw [bind_of_ok decision] at closing
    refine ⟨_, _, closing, own, fun clean => ?_⟩
    have clean : (Writer.takeTurn MemoryCluster.cluster d.writer).window.tally.Clean := clean
    rw [turned] at clean
    cases ht.symm.trans (Lifecycle.skipReason?_eq_none.2 clean)
  | none =>
    have clean := Lifecycle.skipReason?_eq_none.1 ht
    rw [Lifecycle.switchIndex_of_current state named clean (by rw [own]; exact carried)] at decision
    rw [bind_of_ok decision] at closing
    exact ⟨_, _, closing, own, fun _ => rfl⟩

/-! ## The history of an alias -/

/-- A run that minted its name wrote into the base name followed by the window. -/
theorem Episode.published_minted {e : Episode} {window : TimeWindow} {index : String} (of : e.Of b)
    (minting : e.policy.minting? = some window) (published : e.published? c = some index) :
    index = b ++ window.render e.now ∧ c.health.worse .yellow = false := by
  cases e.played of.spared c with
  | unpublished unpublished _ _ =>
    rw [published] at unpublished
    cases unpublished
  | @published identity _ _ well resolved published' _ _ _ =>
    rw [published] at published'
    cases published'
    unfold NamingPolicy.resolve at resolved
    rw [minting] at resolved
    obtain ⟨minted, -⟩ := ofExcept_eq_ok resolved
    rw [NamingPolicy.eq_of_mint minted, of.base]
    exact ⟨rfl, well⟩

/-- **The history of an alias.** Behind any number of runs that delete no index, the base alias is
on the index that went live last, and on the one that carried it at first if none did. If the name
of the one that went live last was minted and its window is digits, then a run that updates finds
this index, starts, and its closing is no cutover. -/
theorem service_history {es : List Episode} (of : ∀ e ∈ es, e.Of b)
    (one : (c.carriers b).length ≤ 1) :
    let v := playAll es c
    v.carriers b = (c.carriers b ++ publishedBy es c).getLast?.toList ∧
    ∀ before e after pattern window, es = before ++ e :: after →
      e.published? (playAll before c) ≠ none → publishedBy after (playAll (before ++ [e]) c) = [] →
      NamingPolicy.make b pattern false = .ok e.policy → e.policy.window = some window →
      (window.render e.now).toList.all Char.isDigit = true →
      let index := b ++ window.render e.now
      ∀ policy : NamingPolicy, policy.base = b → policy.update = true → ∀ now,
        policy.resolve MemoryCluster.cluster now v = .ok (.behind b index) v ∧
        ∀ tuning payload (options : SessionOptions), options.lifecycle.updateMode = true →
          ∃ s, start MemoryCluster.cluster policy now tuning payload options v = .ok s ∧
            ∀ calls, ∃ summary u, close MemoryCluster.cluster true
              (carryOut MemoryCluster.cluster calls s) =
              .ok summary u ∧ summary.index = index ∧
                (u.tally.Clean → summary.outcome = .alreadyCurrent) := by
  intro v
  refine ⟨carriers_playAll of one, ?_⟩
  rintro before e after pattern window rfl live quiet legal windowed digits index policy rfl
    update now
  have mine : e.Of policy.base := of e (by simp)
  obtain ⟨mints, parses⟩ := NamingPolicy.parsed_of_make legal
  obtain ⟨_, parsed⟩ := parses window windowed
  have minting : e.policy.minting? = some window := by
    unfold NamingPolicy.minting?
    rw [mints]
    exact windowed
  obtain ⟨published, put⟩ := Option.ne_none_iff_exists'.1 live
  obtain ⟨rfl, well⟩ := Episode.published_minted mine minting put
  have carried : v.carriers policy.base = [index] := by
    have last : publishedBy (before ++ e :: after) c = publishedBy before c ++ [index] := by
      rw [show before ++ e :: after = (before ++ [e]) ++ after by simp, publishedBy_append, quiet,
        publishedBy_append, publishedBy, put]
      simp [publishedBy, index]
    rw [carriers_playAll of one, last, ← List.append_assoc]
    simp
  have sibling : isNumberedSibling policy.base index = true :=
    isNumberedSibling_append (TimeWindow.render_ne_nil parsed e.now) digits
  have lookup : policy.minting? = none := by
    unfold NamingPolicy.minting?
    rw [update]
    rfl
  have resolved := NamingPolicy.resolve_of_carried lookup carried sibling now
  refine ⟨resolved, fun tuning payload options mode => ?_⟩
  have present : v.Present index := MemoryCluster.present_of_carriers carried
  have well : v.health.worse .yellow = false := by
    have scene : v.scene = (playAll before c).scene :=
      (scene_playAll of).trans (scene_playAll fun e he => of e (by simp [he])).symm
    rw [show v.health = (playAll before c).health from congrArg Prod.fst scene]
    exact well
  refine ⟨_, start_of_update resolved mode present well, fun calls => ?_⟩
  let s : Session MemoryCluster Unit :=
    ofLifecycle ⟨.behind policy.base index, tuning, options.lifecycle, .ensured,
      false⟩ options.writer v
  obtain ⟨h, course, rest, same⟩ := course_carryOut MemoryCluster.cluster calls (s := s) trivial
  have current : (carryOut MemoryCluster.cluster calls s).writer.cluster.carriers policy.base =
    [index] := by
    have aliases : (carryOut MemoryCluster.cluster calls s).writer.cluster.AliasesAre v.aliasesOf :=
      Writer.steady MemoryCluster.steady_aliases (fun _ => rfl) course
    rw [MemoryCluster.carriers_of_aliases (by simp [carried]) aliases, carried]
  exact close_current rest (by rw [same]; rfl) (by rw [same]; rfl) current

/-- A run of the day that writes one document. -/
def daily (now : Instant) (ending : Ending) : Episode where
  policy := ⟨"books",
    some ⟨"yyyyMMdd", [.field (.year 4), .field (.month true), .field (.day true)]⟩, false⟩
  now := now
  tuning := {}
  payload := ⟨.null, .null⟩
  options := {}
  calls := [.add ⟨.index, "a", some "1"⟩]
  ending := ending

/-- One run goes live, the run of the next day is given up, and an update finds the index of the
first. -/
theorem service_history_daily :
    let es := [daily ⟨0, 0⟩ (.close true), daily ⟨86400, 0⟩ .abort]
    let update : NamingPolicy := ⟨"books", none, true⟩
    publishedBy es {} = ["books19700101"] ∧
      (playAll es {}).indices.keys = ["books19700101", "books19700102"] ∧
      (playAll es {}).carriers "books" = ["books19700101"] ∧
      update.resolve MemoryCluster.cluster ⟨0, 0⟩ (playAll es {}) = .ok
        (.behind "books" "books19700101") (playAll es {}) := by
  intro es update
  let first := daily ⟨0, 0⟩ (.close true)
  have of : ∀ e ∈ es, e.Of "books" := by
    intro e he
    rcases List.mem_cons.1 he with rfl | he
    · exact ⟨rfl, rfl⟩
    · rw [List.mem_singleton.1 he]
      exact ⟨rfl, rfl⟩
  have published : publishedBy es {} = ["books19700101"] := by decide +kernel
  have live : first.published? {} = some "books19700101" := by decide +kernel
  have quiet : publishedBy [daily ⟨86400, 0⟩ .abort] (playAll [first] {}) = [] := by decide +kernel
  have rendered :
    TimeWindow.render ⟨"yyyyMMdd", [.field (.year 4), .field (.month true), .field (.day true)]⟩
      ⟨0, 0⟩ =
      "19700101" := by decide +kernel
  obtain ⟨carried, updates⟩ := service_history of (c := {}) (by decide +kernel)
  have legal : NamingPolicy.make "books" (some "yyyyMMdd") false = .ok first.policy :=
    eq_ok_of_toOption (by decide +kernel)
  have digits : "19700101".toList.all Char.isDigit = true := by decide +kernel
  have found := (updates [] first _ _ _ rfl (fun h => by cases live.symm.trans h) quiet legal rfl
    ((congrArg (fun text : String => text.toList.all Char.isDigit) rendered).trans digits) update
      rfl rfl ⟨0, 0⟩).1
  refine ⟨published, by decide +kernel, ?_, ?_⟩
  · rw [carried, published]
    rfl
  · rw [show first.now = ⟨0, 0⟩ from rfl, rendered] at found
    exact found

end Session

end Reindex
