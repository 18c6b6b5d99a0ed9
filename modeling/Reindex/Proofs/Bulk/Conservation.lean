import Reindex.Proofs.Bulk.Batch
import Reindex.Proofs.Bulk.Course

/-!
# Conservation

No move of a channel loses an operation or makes two of one: what a channel held and what it took is
what it holds, what came to an end and what was given up. What landed is booked in the order in
which it landed, and the ledger is what was booked. Where the answers fit, every end is about the
operations of its batch.

Main statements: `Traffic.Move.conserves`, `Traffic.Move.books` and `Traffic.Move.sound`, one step
each.
-/

namespace Reindex

/-! ## What a history says of operations -/

namespace History

/-- The operations whose batches came to an end. -/
def ended (h : History) : List Operation := h.landings.flatMap Prod.fst

/-- The operations whose batches were given up. -/
def givenUp (h : History) : List Operation := h.dropped.flatMap fun slots => slots.map (·.op)

@[simp] theorem ended_append (h g : History) : ended (h ++ g) = ended h ++ ended g := by
  unfold ended
  rw [landings_append, List.flatMap_append]

@[simp] theorem givenUp_append (h g : History) : givenUp (h ++ g) = givenUp h ++ givenUp g := by
  unfold givenUp
  rw [dropped_append, List.flatMap_append]

/-- Ends about the operations of their batches, and batches given up with something left to send. -/
structure Sound (h : History) : Prop where
  landings : ∀ e ∈ h.landings, e.2.Fits e.1
  dropped : ∀ slots ∈ h.dropped, Slot.openOperations slots ≠ []

theorem Sound.append {h g : History} (hh : h.Sound) (hg : g.Sound) : Sound (h ++ g) where
  landings e he := by
    rw [landings_append] at he
    exact (List.mem_append.1 he).elim (hh.landings e) (hg.landings e)
  dropped slots hs := by
    rw [dropped_append] at hs
    exact (List.mem_append.1 hs).elim (hh.dropped slots) (hg.dropped slots)

theorem Sound.nil : Sound [] := ⟨fun _ he => (by cases he), fun _ hs => (by cases hs)⟩

end History

/-! ## Channels -/

namespace Channel

variable {τ : Type}

/-- A channel whose batches all have something left to send. -/
structure Sound (c : Channel τ) : Prop where
  waiting : ∀ ops ∈ c.waiting, ops ≠ []
  flights : ∀ f ∈ c.flights, f.submission.Sound

theorem count_held (c : Channel τ) (op : Operation) :
    c.held.count op = c.buffer.toList.count op + (c.waiting.getD []).count op +
      (c.flights.flatMap Flight.operations).count op := by
  unfold held
  rw [List.count_append, List.count_append]

theorem held_launch (now : Nat) (c : Channel τ) : (c.launch now).held.Perm c.held := by
  unfold launch
  cases hw : c.waiting with
  | none => exact .refl _
  | some ops =>
    refine List.perm_iff_count.2 fun op => ?_
    rw [count_held, count_held, hw]
    simp [Flight.operations, Submission.ofOperations_operations]
    omega

theorem launch_sound {c : Channel τ} (now : Nat) (hc : c.Sound) : (c.launch now).Sound := by
  unfold launch
  cases hw : c.waiting with
  | none => exact hc
  | some ops =>
    refine ⟨fun _ h => (by cases h), fun f hf => ?_⟩
    rcases List.mem_append.1 hf with hf | hf
    · exact hc.flights f hf
    · cases List.mem_singleton.1 hf
      exact Submission.ofOperations_sound (hc.waiting ops hw) _

end Channel

/-! ## One move -/

namespace Traffic.Move

variable {σ τ : Type} {cluster : Cluster σ τ} {t u : Traffic σ τ} {h : History}

/-- Each operation is counted in the places where a channel holds it, and in the history. -/
theorem conserves_of_count {c d : Channel τ}
    (hc : ∀ op, c.buffer.toList.count op + (c.waiting.getD []).count op +
        (c.flights.flatMap Flight.operations).count op + h.taken.count op =
      d.buffer.toList.count op + (d.waiting.getD []).count op +
        (d.flights.flatMap Flight.operations).count op +
        (h.ended.count op + h.givenUp.count op)) :
        (c.held ++ h.taken).Perm (d.held ++ (h.ended ++ h.givenUp)) := by
  refine List.perm_iff_count.2 fun op => ?_
  simp only [List.count_append, Channel.count_held]
  exact hc op

/-- **No operation is lost or doubled.** -/
theorem conserves (hm : Move cluster t h u) :
    (t.channel.held ++ h.taken).Perm (u.channel.held ++ (h.ended ++ h.givenUp)) := by
  cases hm with
  | wait now allowance => exact .refl _
  | take op =>
    refine conserves_of_count fun x => ?_
    simp [onChannel, Channel.push, History.taken, History.ended, History.givenUp, History.landings,
      History.dropped]
    omega
  | cut hw hb =>
    refine conserves_of_count fun x => ?_
    rw [hw]
    simp [onChannel, Channel.cut, History.taken, History.ended, History.givenUp, History.landings,
      History.dropped]
  | launch now hr =>
    show (t.channel.held ++ []).Perm ((t.channel.launch now).held ++ [])
    exact ((Channel.held_launch now t.channel).symm).append_right []
  | @reorder fs hp =>
    refine conserves_of_count fun x => ?_
    have same := (hp.flatMap_right Flight.operations).count_eq x
    simp [flown, same, History.taken, History.ended, History.givenUp, History.landings,
      History.dropped]
  | @send f rest wait ticket s now hf hp hb =>
    refine conserves_of_count fun x => ?_
    rw [hf]
    simp [flown, Flight.operations, History.taken, History.ended, History.givenUp, History.landings,
      History.dropped]
  | @resend f g rest ticket answer s now hf hp ha hg =>
    refine conserves_of_count fun x => ?_
    rw [hf]
    simp [flown, Flight.operations, Flight.operations_of_hear hg, History.taken, History.ended,
      History.givenUp, History.landings, History.dropped]
  | @land f rest ticket answer s landing now hf hp ha hl =>
    refine conserves_of_count fun x => ?_
    rw [hf]
    simp [flown, Flight.operations, History.taken, History.ended, History.givenUp, History.landings,
      History.dropped]
    omega
  | book hl => exact .refl _
  | @dropWaiting ops hw =>
    refine conserves_of_count fun x => ?_
    rw [hw]
    simp [onChannel, unsent, Function.comp_def, History.taken, History.ended, History.givenUp,
      History.landings, History.dropped]
    omega
  | @dropFlight f rest hf =>
    refine conserves_of_count fun x => ?_
    rw [hf]
    simp [onChannel, Flight.operations, History.taken, History.ended, History.givenUp,
      History.landings, History.dropped]
    omega

/-- **What lands is booked, in order,** and the ledger is what was booked. -/
theorem books (hm : Move cluster t h u) :
    t.channel.landed ++ h.landings.map Prod.snd = h.booked ++ u.channel.landed ∧
      u.channel.tally = h.booked.foldl RunTally.settle t.channel.tally := by
  cases hm with
  | launch now hr =>
    unfold onChannel Channel.launch
    dsimp only
    cases hw : t.channel.waiting with
    | none => exact ⟨List.append_nil _, rfl⟩
    | some ops => exact ⟨List.append_nil _, rfl⟩
  | book hl => exact ⟨by rw [hl]; exact List.append_nil _, rfl⟩
  | land now hf hp ha hl => exact ⟨rfl, rfl⟩
  | resend now hf hp ha hg => exact ⟨rfl, rfl⟩
  | _ => exact ⟨by
    simp [onChannel, flown, History.landings, History.booked, Channel.push, Channel.cut], rfl⟩

/-- **Every end is about the operations of its batch,** and what is given up had something left to
send. -/
theorem sound (ha : cluster.Aligned) (ht : t.channel.Sound) (hm : Move cluster t h u) :
    u.channel.Sound ∧ h.Sound := by
  cases hm with
  | wait now allowance => exact ⟨ht, .nil⟩
  | take op =>
    exact ⟨⟨ht.waiting, ht.flights⟩, fun _ he => (by cases he), fun _ hs => (by cases hs)⟩
  | cut hw hb =>
    refine ⟨⟨fun ops ho => ?_, ht.flights⟩, .nil⟩
    cases ho
    intro hn
    rw [Array.toList_eq_nil_iff] at hn
    rw [hn] at hb
    cases hb
  | launch now hr => exact ⟨Channel.launch_sound now ht, .nil⟩
  | reorder hp => exact ⟨⟨ht.waiting, fun f hf => ht.flights f (hp.mem_iff.1 hf)⟩, .nil⟩
  | @send f rest wait ticket s now hf hp hb =>
    refine ⟨⟨ht.waiting, fun g hg => ?_⟩, .nil⟩
    rcases List.mem_cons.1 hg with rfl | hg
    · exact ht.flights f (hf ▸ .head _)
    · exact ht.flights g (hf ▸ .tail _ hg)
  | @resend f g rest ticket answer s now hf hp hb hg =>
    have hear := Flight.hear_sound now (ht.flights f (hf ▸ .head _)) (ha.fits hb)
    rw [hg] at hear
    refine ⟨⟨ht.waiting, fun f' hf' => ?_⟩, fun _ he => (by cases he), fun _ hs => (by cases hs)⟩
    rcases List.mem_cons.1 hf' with rfl | hf'
    · exact hear
    · exact ht.flights f' (hf ▸ .tail _ hf')
  | @land f rest ticket answer s landing now hf hp hb hl =>
    have hear := Flight.hear_sound now (ht.flights f (hf ▸ .head _)) (ha.fits hb)
    rw [hl] at hear
    refine ⟨⟨ht.waiting, fun f' hf' => ht.flights f' (hf ▸ .tail _ hf')⟩, fun e he => ?_,
      fun _ hs => (by cases hs)⟩
    cases List.mem_singleton.1 he
    exact hear
  | book hl =>
    exact ⟨⟨ht.waiting, ht.flights⟩, fun _ he => (by cases he), fun _ hs => (by cases hs)⟩
  | @dropWaiting ops hw =>
    refine ⟨⟨fun _ ho => (by cases ho), ht.flights⟩, fun _ he => (by cases he), fun slots hs => ?_⟩
    cases List.mem_singleton.1 hs
    exact (Submission.ofOperations_sound (ht.waiting ops hw) t.channel.backoff).unsettled
  | @dropFlight f rest hf =>
    refine ⟨⟨ht.waiting, fun g hg => ht.flights g (hf ▸ .tail _ hg)⟩, fun _ he => (by cases he),
      fun slots hs => ?_⟩
    cases List.mem_singleton.1 hs
    exact (ht.flights f (hf ▸ .head _)).unsettled

end Traffic.Move

end Reindex
