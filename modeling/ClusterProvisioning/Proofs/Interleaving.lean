import ClusterProvisioning.Gateway.Program

/-!
# Interleaved programs

Several programs on one gateway take turns: in a turn one of them makes its next call, or records
its next event. Which program has which turn is arbitrary, so what holds after every list of turns
holds however the programs run at the same time.
-/

namespace ClusterProvisioning.Proofs
open Program

variable {α σ : Type}

/-- What a program does in one turn; a program that has ended does nothing. -/
def stepOn (g : Gateway σ) : Program α → σ → Program α × σ
  | .done value, s => (.done value, s)
  | .call c next, s =>
    let (result, s) := g.answer c s
    (next result, s)
  | .audit _ next, s => (next, s)

/-- The stop of a program in its next turn, which only a call can be. -/
def haltOn (g : Gateway σ) : Program α → σ → Option (Halt σ)
  | .call c _, s => g.halt? c s
  | .done _, _ | .audit _ _, _ => none

/-- The programs and the state after some turns. A turn is the position of the program that has it;
a position beyond the last program is a turn of none. -/
def interleave (g : Gateway σ) : List Nat → List (Program α) → σ → List (Program α) × σ
  | [], runs, s => (runs, s)
  | i :: turns, runs, s =>
    match runs[i]? with
    | none => interleave g turns runs s
    | some p =>
      let (p, s) := stepOn g p s
      interleave g turns (runs.set i p) s

theorem length_interleave (g : Gateway σ) (turns : List Nat) (runs : List (Program α)) (s : σ) :
    (interleave g turns runs s).1.length = runs.length := by
  induction turns generalizing runs s with
  | nil => rfl
  | cons i turns ih =>
    unfold interleave
    split
    · exact ih runs s
    · rw [ih, List.length_set]

/-- A turn is a part of the run of its program. -/
theorem run_stepOn (g : Gateway σ) (p : Program α) (s : σ) :
    ((stepOn g p s).1.run g (stepOn g p s).2).1 = (p.run g s).1 ∧
      ((stepOn g p s).1.run g (stepOn g p s).2).2.1 = (p.run g s).2.1 := by
  cases p with
  | done value => exact ⟨rfl, rfl⟩
  | call c next => exact ⟨rfl, rfl⟩
  | audit event next => exact ⟨rfl, rfl⟩

/-- A program that has all turns and ends does what its run does. -/
theorem interleave_alone (g : Gateway σ) {turns : List Nat} {p : Program α} {s t : σ} {a : α}
    (ended : interleave g turns [p] s = ([.done a], t)) :
    (p.run g s).1 = a ∧ (p.run g s).2.1 = t := by
  induction turns generalizing p s with
  | nil =>
    cases ended
    exact ⟨rfl, rfl⟩
  | cons i turns ih =>
    cases i with
    | zero =>
      obtain ⟨hvalue, hstate⟩ := run_stepOn g p s
      rw [← hvalue, ← hstate]
      exact ih ended
    | succ i => exact ih ended

end ClusterProvisioning.Proofs
