/-
A tracker among its callers, as a system of single steps: they make requests,
side by side and in any order, and may go away; the tracker serves them, its
fetches go on, time passes, and things change around it. A run is any list of
these events, in any order.
-/
import CallGuard.Behaviour
import CallGuard.Proofs.Sequence.History
import Mathlib.Data.List.Induction

namespace CallGuard.Sequence

variable {S σ : Type}

/-- What happens at a tracker. -/
inductive Event (S : Type) where
  | request (r : Request)
  /-- The oldest request is served, if the tracker is not busy. -/
  | grant
  /-- A fetch makes a step, if one can. -/
  | fetch
  /-- The refetch under way ends, if it is over. -/
  | conclude
  /-- The caller with a ticket goes away. -/
  | abandon (ticket : Nat)
  | pass (d : Nat)
  /-- Everything around the tracker may change: tokens, the journal, the site of
  the source. -/
  | around (setting : Setting S)

/-- A tracker among its callers. -/
structure World (S σ : Type) where
  now : Nat
  setting : Setting S
  tracker : Tracker σ
  /-- The requests so far, in the order of their tickets. -/
  asked : List Request
  /-- The tickets of the callers that went away. -/
  gone : List Nat

namespace World

/-- A new tracker, of which nothing was asked yet. -/
def initial (pacing : Pacing) (setting : Setting S) : World S σ := ⟨0, setting, .new pacing, [], []⟩

/-- The tracker makes a step, if it can. -/
def put (w : World S σ) : Option (Tracker σ × Setting S) → World S σ
  | some (tracker, setting) => { w with tracker := tracker, setting := setting }
  | none => w

/-- What comes of an event. Nothing comes of one that is impossible. -/
def apply (source : Operation S Unit σ Record) (w : World S σ) : Event S → World S σ
  | .request r => { w with tracker := (w.tracker.request r).2, asked := w.asked ++ [r] }
  | .grant => w.put (w.tracker.grant? w.now w.setting)
  | .fetch => w.put (w.tracker.fetchStep? source w.now w.setting)
  | .conclude => w.put (w.tracker.conclude? source w.now w.setting)
  | .abandon ticket => { w with tracker := w.tracker.abandon ticket, gone := ticket :: w.gone }
  | .pass d => { w with now := w.now + d }
  | .around setting => { w with setting := setting }

/-- What comes of a run: events one after the other, from a new tracker on. -/
def play (source : Operation S Unit σ Record) (pacing : Pacing) (setting : Setting S)
    (events : List (Event S)) : World S σ :=
  events.foldl (apply source) (initial pacing setting)

theorem play_concat (source : Operation S Unit σ Record) (pacing : Pacing) (setting : Setting S)
    (events : List (Event S)) (e : Event S) :
    play source pacing setting (events ++ [e]) = (play source pacing setting events).apply source e := by
  simp only [play, List.foldl_append, List.foldl_cons, List.foldl_nil]

/-- What holds after some events, and is kept by each event from then on, holds ever
after. -/
theorem play_since {P : World S σ → Prop} {source : Operation S Unit σ Record} {pacing : Pacing}
    {setting : Setting S} {before : List (Event S)} (start : P (play source pacing setting before))
    (step : ∀ mid e, P (play source pacing setting (before ++ mid)) →
      P ((play source pacing setting (before ++ mid)).apply source e))
    (after : List (Event S)) : P (play source pacing setting (before ++ after)) := by
  induction after using List.reverseRecOn with
  | nil =>
    rw [List.append_nil]
    exact start
  | append_singleton mid e ih =>
    rw [← List.append_assoc, play_concat]
    exact step mid e ih

/-- What the tracker did for the request with a ticket. -/
def deed (w : World S σ) (r : Reply) : Deed := .of w.asked[r.ticket]? r.answer

/-- What the tracker did so far, the latest first. -/
def history (w : World S σ) : History := w.tracker.replies.map w.deed

end World

/-! ## A run with two refetches -/

/-- Fetches that take 30 ms each, whatever becomes of their scopes. The `n`th ends with ten
times `n`. -/
def tens : Operation Unit Unit (Scope × Activity Record) Record :=
  .scripted (fun _ n => .sleep 30000000 (.finish (.value ⟨10 * n, 7⟩))) (fun _ _ s => s) (fun _ s => s)

/-- At most one refetch a second, of at most half a second. -/
def Pacing.eachSecond : Pacing := ⟨1000000000, 500000000, by decide⟩

/-- A refetch succeeds while somebody waits for a number. The next one comes a second later,
which is too soon, and the third one a millisecond after that. -/
def renewed : List (Event Unit) :=
  let refetch : Event Unit := .request (.refetch ⟨⟨0, []⟩, none⟩)
  [.request .next, .grant,
    refetch, .grant, .request .next, .grant, .fetch, .pass 30000000, .fetch, .conclude, .grant,
    .pass 1000000000, refetch, .grant, .request .next, .grant,
    .pass 1000000, refetch, .grant, .fetch, .pass 30000000, .fetch, .conclude, .request .next, .grant]

end CallGuard.Sequence
