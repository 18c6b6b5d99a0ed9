import Reindex.Proofs.Bulk.Inline
import Reindex.Proofs.Writer.Course

/-!
# Clusters that answer at once

On a cluster that answers every bulk call at once and for good, a batch lands in the turn in which
it is first run. All that is under way is due then, and no wait lasts: the clock of the writer
stands still. So a channel that has any time at all to close is closed in time, however many batches
are under way.

Main statement: `Traffic.close_prompt`, from `Traffic.await_prompt` for a single wait.
-/

namespace Reindex

variable {σ τ : Type}

/-- In states with the property every bulk call is answered at once, and the answer is the end of
its batch. -/
structure Cluster.Prompt (cluster : Cluster σ τ) (P : σ → Prop) : Prop where
  carries : cluster.Carries P
  lands : ∀ index now (f : Flight τ) s, P s → f.phase = .sending →
    ∃ landing d, f.run cluster index now s = (.landed landing, d)

namespace Flight

variable {cluster : Cluster σ τ} {P : σ → Prop}

theorem carried_step (hP : cluster.Carries P) (index : String) (now : Nat) (f : Flight τ) {s : σ}
    (hs : P s) :
    P (f.step cluster index now s).2 := by
  unfold step
  cases f.phase with
  | sending => exact hP.beginBulk now index _ s hs
  | awaiting ticket => exact hP.finishBulk ticket index _ s hs

/-- A run makes bulk calls and no others. -/
theorem carried_run (hP : cluster.Carries P) (index : String) (now : Nat) (f : Flight τ) {s : σ}
    (hs : P s) :
    P (f.run cluster index now s).2 := by
  fun_induction run cluster index now f s with
  | case1 f s landing s' step =>
    have kept := carried_step hP index now f hs
    rwa [step] at kept
  | case2 f s g s' step later =>
    have kept := carried_step hP index now f hs
    rwa [step] at kept
  | case3 f s g s' step due ih =>
    have kept := carried_step hP index now f hs
    rw [step] at kept
    exact ih kept

/-- What is run lands; what has no turn yet stays as it was. -/
theorem runSome_prompt (hp : cluster.Prompt P) (index : String) (now count : Nat)
    {fs : List (Flight τ)} (sending : ∀ f ∈ fs, f.phase = .sending) {s : σ} (hs : P s) :
    let moved := runSome cluster index now count fs s
    moved.1.again = [] ∧ P moved.2 ∧ ∀ f ∈ moved.1.idle, f ∈ fs := by
  induction fs generalizing count s with
  | nil => exact ⟨rfl, hs, fun f hf => by cases hf⟩
  | cons f rest ih =>
    rw [List.forall_mem_cons] at sending
    obtain ⟨first, others⟩ := sending
    dsimp only
    unfold runSome
    split
    · obtain ⟨landing, d, landed⟩ := hp.lands index now f s hs first
      have kept := carried_run hp.carries index now f hs
      rw [landed] at kept ⊢
      obtain ⟨again, still, idle⟩ := ih (count - 1) others kept
      exact ⟨again, still, fun g hg => .tail _ (idle g hg)⟩
    · obtain ⟨again, still, idle⟩ := ih count others hs
      refine ⟨again, still, fun g hg => ?_⟩
      rcases List.mem_cons.1 hg with rfl | hg
      · exact .head _
      · exact .tail _ (idle g hg)

end Flight

namespace Traffic

/-- The cluster is in a state with the property, and all that is under way may be sent by now. -/
structure Due (P : σ → Prop) (t : Traffic σ τ) : Prop where
  cluster : P t.cluster
  flights : ∀ f ∈ t.channel.flights, f.phase = .sending ∧ f.due ≤ t.now

variable {cluster : Cluster σ τ} {P : σ → Prop} {tooLate : Nat → Bool} {t : Traffic σ τ}

/-- The buffer and the ledger are left out of this. -/
theorem Due.onChannel (h : t.Due P) {f : Channel τ → Channel τ}
    (same : (f t.channel).flights = t.channel.flights) :
    (t.onChannel f).Due P := by
  refine ⟨h.cluster, fun g hg => h.flights g ?_⟩
  rw [← same]
  exact hg

/-- A batch that is let go is due from then on. -/
theorem Due.launch (h : t.Due P) : (t.onChannel (Channel.launch t.now)).Due P := by
  refine ⟨h.cluster, fun g hg => ?_⟩
  show g.phase = .sending ∧ g.due ≤ t.now
  simp only [Traffic.onChannel, Channel.launch] at hg
  split at hg
  · exact h.flights g hg
  · rcases List.mem_append.1 hg with hg | hg
    · exact h.flights g hg
    · rw [List.mem_singleton.1 hg]
      exact ⟨rfl, Nat.le_refl _⟩

theorem turn_prompt (hp : cluster.Prompt P) (h : t.Due P) : (t.turn cluster).Due P := by
  obtain ⟨again, kept, idle⟩ :=
    Flight.runSome_prompt hp t.channel.index t.now turnFlights
      (fun f hf => (h.flights f hf).1) h.cluster
  refine ⟨kept, fun f hf => h.flights f (idle f ?_)⟩
  unfold turn at hf
  dsimp only at hf
  rwa [again, List.append_nil] at hf

/-- **A wait on a prompt cluster** takes no time, so it is given up only where it is too late
already. -/
theorem await_prompt (hp : cluster.Prompt P) (ready : Channel τ → Bool) (h : t.Due P)
    (early : tooLate t.now = false) :
    (t.await cluster ready tooLate).1 = true ∧ (t.await cluster ready tooLate).2.now = t.now ∧
      (t.await cluster ready tooLate).2.Due P := by
  -- the earliest of the flights is due by now
  have still {t : Traffic σ τ} (h : t.Due P) {due : Nat} (next : t.channel.nextDue? = some due) :
      max t.now due = t.now := by
    obtain ⟨f, hf, rfl⟩ := List.mem_map.1 (List.min?_mem next)
    exact Nat.max_eq_left (h.flights f hf).2
  fun_induction await cluster ready tooLate t with
  | case1 t is => exact ⟨rfl, rfl, h⟩
  | case2 t is none => exact ⟨rfl, rfl, h⟩
  | case3 t is due next now late =>
    rw [show now = t.now from still h next, early] at late
    cases late
  | case4 t is due next now late ih =>
    have same : now = t.now := still h next
    have turned : ({ t with now } : Traffic σ τ).Due P := by
      rw [same]
      exact h
    obtain ⟨inTime, clock, due⟩ := ih (turn_prompt hp turned) (by rw [← same] at early; exact early)
    exact ⟨inTime, clock.trans same, due⟩

theorem makeReady_prompt (hp : cluster.Prompt P) (h : t.Due P) :
    (t.makeReady cluster).now = t.now ∧ (t.makeReady cluster).Due P := by
  unfold makeReady
  split
  · exact ⟨rfl, turn_prompt hp h⟩
  · exact ⟨rfl, h⟩

theorem release_prompt (hp : cluster.Prompt P) (h : t.Due P) (early : tooLate t.now = false) :
    (t.release cluster tooLate).1 = true ∧ (t.release cluster tooLate).2.now = t.now ∧
      (t.release cluster tooLate).2.Due P := by
  unfold release
  split
  · obtain ⟨inTime, clock, due⟩ := await_prompt hp Channel.isIdle h.launch early
    exact ⟨inTime, clock, due.onChannel rfl⟩
  · obtain ⟨clock, ready⟩ := makeReady_prompt hp h
    obtain ⟨inTime, clock', due⟩ := await_prompt hp Channel.hasRoom ready (by rwa [clock])
    have launched := due.launch
    dsimp only
    rw [if_pos inTime]
    exact ⟨rfl, clock'.trans clock, launched.cluster, launched.flights⟩

theorem dispatch_prompt (hp : cluster.Prompt P) (h : t.Due P) (early : tooLate t.now = false) :
    (t.dispatch cluster tooLate).1 = true ∧ (t.dispatch cluster tooLate).2.now = t.now ∧
      (t.dispatch cluster tooLate).2.Due P := by
  have reaped : t.reap.Due P := ⟨h.cluster, h.flights⟩
  unfold dispatch
  dsimp only
  split
  · exact ⟨rfl, rfl, reaped⟩
  · exact release_prompt hp (reaped.onChannel rfl) early

theorem add_prompt (hp : cluster.Prompt P) (op : Operation) (h : t.Due P) :
    (t.add cluster op).Due P := by
  have pushed : (t.onChannel (·.push op)).Due P := h.onChannel rfl
  unfold add
  dsimp only
  split
  · exact (dispatch_prompt hp pushed rfl).2.2
  · exact pushed

theorem addAll_prompt (hp : cluster.Prompt P) (ops : List Operation) (h : t.Due P) :
    (t.addAll cluster ops).Due P := by
  induction ops generalizing t with
  | nil => exact h
  | cons op ops ih => exact ih (add_prompt hp op h)

/-- **A channel on a prompt cluster is closed in time,** if there is any. -/
theorem close_prompt (hp : cluster.Prompt P) {timeout : Nat} (some : 0 < timeout) (h : t.Due P) :
    (t.close cluster timeout).1 = true := by
  let deadline := t.now + timeout
  let tooLate : Nat → Bool := if t.channel.isInline then (deadline < ·) else (deadline ≤ ·)
  have early : tooLate t.now = false := by
    have after : t.now < deadline := Nat.lt_add_of_pos_right some
    dsimp only [tooLate]
    split
    · exact decide_eq_false (Nat.not_lt.2 (Nat.le_of_lt after))
    · exact decide_eq_false (Nat.not_le.2 after)
  obtain ⟨sent, clock, due⟩ := dispatch_prompt hp h early
  obtain ⟨drained, -, -⟩ := await_prompt hp Channel.isIdle due (by rwa [clock])
  show (finish deadline (if (t.dispatch cluster tooLate).1 then _ else _)).1 = true
  rw [finish_fst, if_pos sent]
  exact drained

end Traffic

end Reindex
