/-
Operations: work that may have to wait. An operation is started for a request
within a scope and given a turn whenever it can go on; between turns its state
is a value, so it can be dropped. All work happens in a setting: which tokens
were cancelled, the journal, and the site that the work acts on.
-/
import CallGuard.Scope
import CallGuard.Journal

namespace CallGuard

/-- What work sees and changes. -/
structure Setting (S : Type) where
  signals : Signals
  journal : Journal
  site : S

namespace Setting

variable {S T β : Type}

/-- Writes an entry into the journal. -/
def log (w : Setting S) (entry : Entry) : Setting S := { w with journal := entry :: w.journal }

/-- Works on a part of the site. -/
def zoom (get : S → T) (put : T → S → S) (f : Setting T → Setting T × β) (w : Setting S) :
    Setting S × β :=
  let (inner, b) := f ⟨w.signals, w.journal, get w.site⟩
  (⟨inner.signals, inner.journal, put inner.site w.site⟩, b)

end Setting

/-- Work has to wait, in some state, or has finished. -/
inductive Progress (σ ρ : Type) where
  | waiting (s : σ)
  | finished (r : ρ)

/-- The same progress, in other terms. -/
def Progress.map {σ σ' ρ ρ' : Type} (f : σ → σ') (g : ρ → ρ') : Progress σ ρ → Progress σ' ρ'
  | .waiting s => .waiting (f s)
  | .finished r => .finished (g r)

/-- Work for requests of type `ι` at a site of type `S`, ending in an `α`; it
waits in states of type `σ`. -/
structure Operation (S ι σ α : Type) where
  /-- Starts the `n`-th try of a request, counted from one, and goes on until
  it has to wait. -/
  start : ι → Nat → Scope → Nat → Setting S → Setting S × Progress σ (Outcome α)
  /-- Goes on at an instant; `none` if there is still nothing to do but wait. -/
  resume : Nat → σ → Setting S → Option (Setting S × Progress σ (Outcome α))
  /-- Abandons the work where it is. -/
  drop : σ → Setting S → Setting S
  /-- The instants at which waiting may end by itself. -/
  dues : σ → List Nat

namespace Operation

variable {S T ι κ σ α : Type}

/-- The same work, for requests that hold its own. -/
def comap (f : κ → ι) (op : Operation S ι σ α) : Operation S κ σ α where
  start request := op.start (f request)
  resume := op.resume
  drop := op.drop
  dues := op.dues

/-- The same work, at a site that holds its own. -/
def within (get : T → S) (put : S → T → T) (op : Operation S ι σ α) : Operation T ι σ α where
  start request n scope now := Setting.zoom get put (op.start request n scope now)
  resume now s w :=
    (op.resume now s ⟨w.signals, w.journal, get w.site⟩).map fun (inner, p) =>
      (⟨inner.signals, inner.journal, put inner.site w.site⟩, p)
  drop s w := (Setting.zoom get put (fun w => (op.drop s w, ())) w).1
  dues := op.dues

end Operation

end CallGuard
