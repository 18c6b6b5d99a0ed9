/-!
# Calls that change a state

A call takes a state to an answer or an error, and to the next state in either case. `Keeps P x`
says that the call `x` leads from states with the property `P` to states with it, also where it
fails. `Leads P x Q E` tells the two cases apart: where `x` works it leads to states with `Q`, where
it fails to states with `E`.

Main statements: `Keeps.bind`, by which a sequence of calls keeps what each of them keeps, and
`Leads.bind`, by which it leads where its calls lead one after another.
-/

namespace Reindex

variable {ε σ α β : Type}

/-- The state that a call leaves behind, whether it worked or not. -/
def stateAfter : EStateM.Result ε σ α → σ
  | .ok _ s => s
  | .error _ s => s

/-- A call worked. -/
def worked : EStateM.Result ε σ α → Bool
  | .ok _ _ => true
  | .error _ _ => false

/-- The answer of a call that worked. -/
def answer? : EStateM.Result ε σ α → Option α
  | .ok a _ => some a
  | .error _ _ => none

/-- What a call said, whatever state it left. -/
def said : EStateM.Result ε σ α → Except ε α
  | .ok a _ => .ok a
  | .error e _ => .error e

theorem eq_ok_of_answer {r : EStateM.Result ε σ α} {a : α} (h : answer? r = some a) :
    r = .ok a (stateAfter r) := by
  cases r with
  | ok b s =>
    cases h
    rfl
  | error e s => cases h

theorem eq_ok_of_worked {r : EStateM.Result ε σ α} (h : worked r = true) :
    ∃ a, r = .ok a (stateAfter r) := by
  cases r with
  | ok a s => exact ⟨a, rfl⟩
  | error e s => cases h

theorem eq_ok_of_toOption {x : Except ε α} {a : α} (h : x.toOption = some a) : x = .ok a := by
  cases x with
  | ok b =>
    cases h
    rfl
  | error e => cases h

theorem bind_of_ok {x : EStateM ε σ α} {s t : σ} {a : α} (h : x s = .ok a t)
    (f : α → EStateM ε σ β) :
    (x >>= f) s = f a t := by
  simp only [bind, EStateM.bind, h]

theorem bind_of_error {x : EStateM ε σ α} {s t : σ} {e : ε} (h : x s = .error e t)
    (f : α → EStateM ε σ β) :
    (x >>= f) s = .error e t := by
  simp only [bind, EStateM.bind, h]

theorem bind_get (f : σ → EStateM ε σ β) (s : σ) : ((get : EStateM ε σ σ) >>= f) s = f s s := rfl

/-- A sequence of calls that worked is made of calls that worked. -/
theorem bind_eq_ok {x : EStateM ε σ α} {f : α → EStateM ε σ β} {s t : σ} {b : β}
    (h : (x >>= f) s = .ok b t) :
    ∃ a u, x s = .ok a u ∧ f a u = .ok b t := by
  cases hx : x s with
  | ok a u => exact ⟨a, u, rfl, (bind_of_ok hx f).symm.trans h⟩
  | error e u => cases (bind_of_error hx f).symm.trans h

/-- A sequence of calls that failed did so in one of them. -/
theorem bind_eq_error {x : EStateM ε σ α} {f : α → EStateM ε σ β} {s t : σ} {e : ε}
    (h : (x >>= f) s = .error e t) :
    x s = .error e t ∨ ∃ a u, x s = .ok a u ∧ f a u = .error e t := by
  cases hx : x s with
  | ok a u => exact .inr ⟨a, u, rfl, (bind_of_ok hx f).symm.trans h⟩
  | error e' u =>
    cases (bind_of_error hx f).symm.trans h
    exact .inl rfl

theorem map_eq_ok {x : EStateM ε σ α} {f : α → β} {s t : σ} {b : β} (h : (f <$> x) s = .ok b t) :
    ∃ a, x s = .ok a t ∧ f a = b := by
  simp only [Functor.map, EStateM.map] at h
  split at h
  · rename_i a u hx
    cases h
    exact ⟨a, hx, rfl⟩
  · cases h

/-- A sequence of calls works if each of them does. -/
theorem worked_bind {x : EStateM ε σ α} {f : α → EStateM ε σ β} {s : σ} (hx : worked (x s) = true)
    (hf : ∀ a, worked (f a (stateAfter (x s))) = true) : worked ((x >>= f) s) = true := by
  obtain ⟨a, hx⟩ := eq_ok_of_worked hx
  rw [bind_of_ok hx]
  exact hf a

theorem ofExcept_eq_ok {x : Except ε α} {s t : σ} {a : α}
    (h : (ofExcept x : EStateM ε σ α) s = .ok a t) :
    x = .ok a ∧ t = s := by
  cases x with
  | ok b =>
    cases h
    exact ⟨rfl, rfl⟩
  | error e => cases h

/-- A property of states that a call does not destroy. -/
def Keeps (P : σ → Prop) (x : EStateM ε σ α) : Prop := ∀ s, P s → P (stateAfter (x s))

theorem stateAfter_bind {P : σ → Prop} {x : EStateM ε σ α} {f : α → EStateM ε σ β} {s : σ}
    (hx : P (stateAfter (x s))) (hf : ∀ a, Keeps P (f a)) : P (stateAfter ((x >>= f) s)) := by
  simp only [bind, EStateM.bind]
  cases h : x s with
  | ok a s' => exact hf a s' (by simpa [h, stateAfter] using hx)
  | error e s' => simpa [h, stateAfter] using hx

theorem Keeps.bind {P : σ → Prop} {x : EStateM ε σ α} {f : α → EStateM ε σ β}
    (hx : Keeps P x) (hf : ∀ a, Keeps P (f a)) : Keeps P (x >>= f) :=
  fun s hs => stateAfter_bind (hx s hs) hf

theorem Keeps.pure {P : σ → Prop} (a : α) : Keeps P (Pure.pure a : EStateM ε σ α) := fun _ hs => hs

theorem Keeps.throw {P : σ → Prop} (e : ε) : Keeps P (MonadExcept.throw e : EStateM ε σ α) :=
  fun _ hs => hs

theorem Keeps.ofExcept {P : σ → Prop} (x : Except ε α) : Keeps P (ofExcept x : EStateM ε σ α) := by
  cases x with
  | ok a => exact .pure a
  | error e => exact .throw e

theorem Keeps.of_ok {P : σ → Prop} {x : EStateM ε σ α} {s t : σ} {a : α} (hx : Keeps P x) (hs : P s)
    (h : x s = .ok a t) : P t := by
  have kept := hx s hs
  rw [h] at kept
  exact kept

theorem Keeps.of_error {P : σ → Prop} {x : EStateM ε σ α} {s t : σ} {e : ε} (hx : Keeps P x)
    (hs : P s) (h : x s = .error e t) : P t := by
  have kept := hx s hs
  rw [h] at kept
  exact kept

/-! ## Where a call leads -/

/-- From states with `P` a call leads to states with `Q` where it works, and to states with `E`
where it fails. -/
def Leads (P : σ → Prop) (x : EStateM ε σ α) (Q E : σ → Prop) : Prop :=
  ∀ s, P s → match x s with
    | .ok _ t => Q t
    | .error _ t => E t

namespace Leads

variable {P Q R E : σ → Prop} {x : EStateM ε σ α} {f : α → EStateM ε σ β} {s t : σ}

theorem of_ok {a : α} (hx : Leads P x Q E) (hs : P s) (h : x s = .ok a t) : Q t := by
  have led := hx s hs
  rw [h] at led
  exact led

theorem of_error {e : ε} (hx : Leads P x Q E) (hs : P s) (h : x s = .error e t) : E t := by
  have led := hx s hs
  rw [h] at led
  exact led

/-- Where a call leads is known from its two cases. -/
theorem intro (ok : ∀ s a t, P s → x s = .ok a t → Q t)
    (error : ∀ s e t, P s → x s = .error e t → E t) :
    Leads P x Q E := by
  intro s hs
  cases h : x s with
  | ok a t => exact ok s a t hs h
  | error e t => exact error s e t hs h

theorem bind (hx : Leads P x Q E) (hf : ∀ a, Leads Q (f a) R E) : Leads P (x >>= f) R E := by
  intro s hs
  cases h : x s with
  | ok a t =>
    rw [bind_of_ok h]
    exact hf a t (hx.of_ok hs h)
  | error e t =>
    rw [bind_of_error h]
    exact hx.of_error hs h

theorem pure (a : α) (h : ∀ s, P s → Q s) : Leads P (Pure.pure a : EStateM ε σ α) Q E :=
  fun s hs => h s hs

theorem throw (e : ε) (h : ∀ s, P s → E s) : Leads P (MonadExcept.throw e : EStateM ε σ α) Q E :=
  fun s hs => h s hs

/-- A property that a call does not destroy. -/
theorem of_keeps (hx : Keeps P x) : Leads P x P P :=
  .intro (fun _ _ _ hs h => hx.of_ok hs h) fun _ _ _ hs h => hx.of_error hs h

/-- Weaker properties are led to as well. -/
theorem weaken {Q' E' : σ → Prop} (hx : Leads P x Q E) (hQ : ∀ s, Q s → Q' s)
    (hE : ∀ s, E s → E' s) :
    Leads P x Q' E' :=
  .intro (fun _ _ t hs h => hQ t (hx.of_ok hs h)) fun _ _ t hs h => hE t (hx.of_error hs h)

/-- What a call leads to in either case. -/
theorem stateAfter (hx : Leads P x Q Q) (hs : P s) : Q (stateAfter (x s)) := by
  cases h : x s with
  | ok a t => exact hx.of_ok hs h
  | error e t => exact hx.of_error hs h

end Leads

end Reindex
