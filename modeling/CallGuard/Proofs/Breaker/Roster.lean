/-
A breaker and the calls through it, each told from the others: which of them was admitted
when, which are in flight, and whose success or failure each use of the breaker was. Calls
begin and end in any order, and calls that hooks or operations make are calls like others.
-/
import CallGuard.Proofs.Breaker.Counts

namespace CallGuard.Breaker

/-- What a call does with a breaker. Calls are numbered in the order in which they begin. -/
inductive CallEvent where
  | begin (now : Nat)
  | succeed (call : Nat)
  | fail (call : Nat) (now : Nat)

/-- A use of a breaker by a call. -/
structure Use where
  call : Nat
  record : Record

namespace Use

/-- Whether a call asked to be let through. -/
def isAsk (u : Use) : Bool :=
  match u.record.touch with
  | .ask _ => true
  | .succeed | .fail _ => false

/-- Whether the breaker stayed in its state. -/
def stayed (u : Use) : Bool := u.record.stayed

/-- Whether a call reported its success. -/
def isSuccess (u : Use) : Bool := u.record.isSuccess

end Use

/-- A breaker with the calls that use it, each of which has a number. -/
structure Roster where
  breaker : Breaker
  /-- How many calls have begun, the rejected ones included. -/
  begun : Nat
  /-- The calls that were admitted and have not ended. One that is abandoned stays. -/
  inFlight : List Nat
  /-- How the breaker was used so far, the latest use first. -/
  log : List Use

namespace Roster

/-- A breaker that no call has used yet. -/
def initial (b : Breaker) : Roster := ⟨b, 0, [], []⟩

/-- A call uses the breaker. -/
def use (r : Roster) (call : Nat) (t : Touch) : Roster :=
  { r with
    breaker := r.breaker.touch t
    log := ⟨call, ⟨t, r.breaker.state, (r.breaker.touch t).state⟩⟩ :: r.log }

/-- A call in flight ends. -/
def conclude (r : Roster) (call : Nat) (t : Touch) : Roster :=
  if call ∈ r.inFlight then { r.use call t with inFlight := r.inFlight.erase call } else r

/-- What comes of an event. Nothing comes of one that is impossible. -/
def apply (r : Roster) : CallEvent → Roster
  | .begin now =>
    { r.use r.begun (.ask now) with
      begun := r.begun + 1
      inFlight := if (r.breaker.ask now).1 then r.begun :: r.inFlight else r.inFlight }
  | .succeed call => r.conclude call .succeed
  | .fail call now => r.conclude call (.fail now)

/-- What comes of a run: events one after the other, from a breaker not used yet. -/
def play (b : Breaker) (events : List CallEvent) : Roster := events.foldl apply (initial b)

theorem play_concat (b : Breaker) (events : List CallEvent) (e : CallEvent) :
    play b (events ++ [e]) = (play b events).apply e := by
  simp only [play, List.foldl_append, List.foldl_cons, List.foldl_nil]

/-- How the breaker was used, whoever it was by. -/
def history (r : Roster) : History := r.log.map (·.record)

/-! ## Since the breaker entered its state -/

/-- The uses since the breaker entered its state. -/
def period (r : Roster) : List Use := r.log.takeWhile (·.stayed)

/-- The use that brought the breaker to its state. -/
def entry (r : Roster) : Option Use := (r.log.dropWhile (·.stayed)).head?

/-- The uses before that. -/
def earlier (r : Roster) : List Use := (r.log.dropWhile (·.stayed)).tail

/-- The calls that began since the breaker entered its state, with the one that brought it
there. -/
def probes (r : Roster) : List Nat := ((r.period ++ r.entry.toList).filter (·.isAsk)).map (·.call)

/-- The calls that began before. -/
def stale (r : Roster) : List Nat := (r.earlier.filter (·.isAsk)).map (·.call)

/-- The calls that succeeded since the breaker entered its state, the latest first. -/
def successes (r : Roster) : List Nat := (r.period.filter (·.isSuccess)).map (·.call)

/-- All calls that succeeded. -/
def succeeded (r : Roster) : List Nat := (r.log.filter (·.isSuccess)).map (·.call)

theorem log_eq (r : Roster) : r.log = r.period ++ (r.entry.toList ++ r.earlier) := by
  have cut : r.entry.toList ++ r.earlier = r.log.dropWhile (·.stayed) := by
    unfold entry earlier
    cases r.log.dropWhile (·.stayed) <;> rfl
  rw [cut]
  exact List.takeWhile_append_dropWhile.symm

end Roster

end CallGuard.Breaker
