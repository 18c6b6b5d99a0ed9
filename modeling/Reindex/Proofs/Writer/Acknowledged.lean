import Reindex.Proofs.Bulk.Acknowledged
import Reindex.Proofs.Writer.Course

/-!
# What a writer's operations come to

A writer that closes its window under a ledger without failures has had every operation acknowledged
that it took, but for those whose batches were given up.

Main statement: `Writer.acknowledged`, for every course of a writer that began with nothing.
-/

namespace Reindex

variable {σ τ : Type}

namespace BulkWindow

/-- What is acknowledged of the batches under way. -/
def acknowledged : BulkWindow τ → List Operation
  | .closed _ => []
  | .opened channel => channel.acknowledged

def Candid : BulkWindow τ → Prop
  | .closed _ => True
  | .opened channel => channel.Candid

end BulkWindow

namespace Writer

/-- Every acknowledgement so far is about a batch that is under way, ended or was given up. -/
structure Testimony (h : History) (w : Writer σ τ) : Prop where
  acknowledged : h.acknowledged.Perm (w.window.acknowledged ++ (h.confirmed ++ h.forgone))
  window : w.window.Candid
  history : h.Candid

theorem Testimony.of_closed {w : Writer σ τ} (hw : w.window = .closed {}) : Testimony [] w where
  acknowledged := by rw [hw]; exact .refl _
  window := by rw [hw]; trivial
  history := .nil

theorem Testimony.silent {h : History} {w u : Writer σ τ} (ht : Testimony h w)
    (acknowledged : u.window.acknowledged = w.window.acknowledged) (window : u.window.Candid) :
    Testimony (h ++ []) u where
  acknowledged := by rw [List.append_nil, acknowledged]; exact ht.acknowledged
  window := window
  history := by rw [List.append_nil]; exact ht.history

theorem Move.testimony {cluster : Cluster σ τ} (candid : cluster.Candid) (aligned : cluster.Aligned)
    {h g : History} {w u : Writer σ τ} (ht : Testimony h w) (hm : Move cluster w g u) :
    Testimony (h ++ g) u := by
  cases hm with
  | @traffic channel g t hw hm =>
    have window := ht.window
    have acknowledged := ht.acknowledged
    rw [hw] at window acknowledged
    obtain ⟨next, history⟩ := hm.candid candid aligned (t := w.traffic channel) window
    refine ⟨List.perm_iff_count.2 fun op => ?_, next, ht.history.append history⟩
    have step : (channel.acknowledged ++ _).count op = (t.channel.acknowledged ++ _).count op :=
      (hm.acknowledges candid aligned (t := w.traffic channel) window).count_eq op
    have before : _ = (channel.acknowledged ++ _).count op := acknowledged.count_eq op
    show _ = (t.channel.acknowledged ++ _).count op
    simp only [List.count_append, History.acknowledged_append, History.confirmed_append,
      History.forgone_append] at step before ⊢
    omega
  | @openWindow tally hw index limits backoff =>
    refine ht.silent ?_ fun _ hf => (by cases hf)
    rw [hw]
    rfl
  | @closeWindow channel hw he =>
    refine ht.silent ?_ trivial
    rw [hw]
    show [] = channel.flights.flatMap Flight.acknowledged
    rw [he.flights]
    rfl
  | serve hs => exact ht.silent rfl ht.window
  | wait now allowance => exact ht.silent rfl ht.window

/-- **Main result.** Under a ledger without failures, what was taken and not acknowledged was given
up; with that the counters fall short, and without it they do not. -/
theorem acknowledged {cluster : Cluster σ τ} (candid : cluster.Candid) (aligned : cluster.Aligned)
    {w u : Writer σ τ} {h : History} {tally : RunTally} (hw : w.window = .closed {})
    (hc : Course (Move cluster) w h u) (hu : u.window = .closed tally)
    (clean : tally.failed = false) :
    (h.acknowledged ++ h.missing).Perm h.taken ∧ (h.missing = [] ↔ h.dropped = []) ∧
      (h.dropped = [] ↔ tally.counters.total = h.taken.length) := by
  have ht : Testimony h u := hc.invariant (.of_closed hw) fun ht hm =>
    hm.testimony candid aligned ht
  obtain ⟨settles, booked, sound⟩ := settled aligned hw hc hu
  have told := ht.acknowledged
  rw [hu] at told
  refine ⟨History.acknowledged_perm settles booked sound told clean,
    History.missing_eq_nil sound ht.history, ?_⟩
  have conserved := settles.conserved.length_eq
  rw [settles.lost booked clean, List.append_nil, List.length_append, ← settles.total] at conserved
  constructor
  · intro none
    rw [show h.givenUp = [] by simp [History.givenUp, none]] at conserved
    exact conserved.symm
  · intro all
    have none : h.givenUp = [] := List.length_eq_zero_iff.1 (by omega)
    refine List.eq_nil_iff_forall_not_mem.2 fun slots hs => sound.dropped slots hs ?_
    have empty := List.flatMap_eq_nil_iff.1 none slots hs
    rw [List.map_eq_nil_iff.1 empty]
    rfl

end Writer

end Reindex
