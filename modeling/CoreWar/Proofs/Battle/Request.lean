import CoreWar.Proofs.Battle.Load
import CoreWar.Proofs.Battle.Tick

/-!
# Requests to a match

Everything that can be asked of a match between its creation and its report, and the matches that
come of any sequence of such requests. A load is there twice: with what the generator of the match
draws, and with any draws at all.
-/

namespace CoreWar

variable {size : CoreSize}

/-- What can be asked of a match. -/
inductive Request (size : CoreSize) where
  | reset
  /-- A load, placed by the generator of the match. -/
  | load (first second : List Cell)
  /-- A load, placed by draws from elsewhere. -/
  | place (first second : List Cell) (start : Address size) (gap : Nat)
  | tick
  | run
  /-- A turn of a player outside of the cycles. -/
  | step (p : Player)

def Request.restarts : Request size → Bool
  | reset => true
  | load first second | place first second _ _ => first.length + second.length ≤ size.count
  | tick | run | step _ => false

namespace Battle

def serve (b : Battle size) : Request size → Battle size
  | .reset => b.reset
  | .load first second => (b.load first second).1
  | .place first second start gap =>
    if size.count < first.length + second.length then b else b.place first second start gap
  | .tick => b.tick
  | .run => b.run
  | .step p => { b with machine := (b.machine.step p).1 }

/-- The match after requests, one after the other. -/
def serveAll (b : Battle size) (requests : List (Request size)) : Battle size :=
  requests.foldl serve b

@[simp] lemma serveAll_nil (b : Battle size) : b.serveAll [] = b := rfl

@[simp] lemma serveAll_cons (b : Battle size) (r : Request size) (rs : List (Request size)) :
    b.serveAll (r :: rs) = (b.serve r).serveAll rs := rfl

lemma serveAll_append (b : Battle size) (rs rs' : List (Request size)) :
    b.serveAll (rs ++ rs') = (b.serveAll rs).serveAll rs' :=
  List.foldl_append

/-- A match that is over stays as it is, however often it is asked to go on. -/
lemma serveAll_of_over {b : Battle size} (hover : b.status ≠ .running)
    (rs : List (Request size)) (hrs : ∀ r ∈ rs, r = .tick ∨ r = .run) : b.serveAll rs = b := by
  induction rs with
  | nil => rfl
  | cons r rs ih =>
    have hserve : b.serve r = b := by
      rcases hrs r List.mem_cons_self with rfl | rfl
      · exact tick_of_over hover
      · exact run_of_over hover
    rw [serveAll_cons, hserve]
    exact ih fun r' hr' => hrs r' (List.mem_cons_of_mem r hr')

/-- What a reset, a load at any place, every cycle and every turn keep, all requests keep. -/
lemma serve_induction {P : Battle size → Prop} (hreset : ∀ b, P b → P b.reset)
    (hplace : ∀ b first second start gap generator, P b →
      P { b.place first second start gap with generator := generator })
    (htick : ∀ b, P b → P b.tick)
    (hstep : ∀ b p, P b → P { b with machine := (b.machine.step p).1 })
    {b : Battle size} (h : P b) (r : Request size) : P (b.serve r) := by
  cases r with
  | reset => exact hreset b h
  | load first second =>
    by_cases hfit : first.length + second.length ≤ size.count
    · obtain ⟨loaded, hload⟩ := b.exists_load_of_fits hfit
      obtain ⟨-, start, gap, generator, -, rfl⟩ := loadsTo_of_load hload
      rw [serve, hload]
      exact hplace b first second start gap generator h
    · rw [serve, load_of_not_fits b (Nat.not_le.mp hfit)]
      exact h
  | place first second start gap =>
    simp only [serve]
    split_ifs
    · exact h
    · exact hplace b first second start gap _ h
  | tick => exact htick b h
  | run => exact run_induction htick h
  | step p => exact hstep b p h

/-- What every request keeps, all of them keep. -/
lemma serveAll_induction {P : Battle size → Prop} (hserve : ∀ b r, P b → P (b.serve r))
    {b : Battle size} (h : P b) (rs : List (Request size)) : P (b.serveAll rs) := by
  induction rs generalizing b with
  | nil => exact h
  | cons r rs ih => exact ih (hserve b r h)

/-! ### Restarts -/

lemma status_serve_of_restarts (b : Battle size) {r : Request size} (hr : r.restarts = true) :
    (b.serve r).status = .running := by
  cases r with
  | reset => rfl
  | load first second =>
    obtain ⟨loaded, hload⟩ := b.exists_load_of_fits (of_decide_eq_true hr)
    obtain ⟨-, start, gap, generator, -, rfl⟩ := loadsTo_of_load hload
    simp only [serve, hload]
    rfl
  | place first second start gap =>
    rw [serve, if_neg (Nat.not_lt.mpr (of_decide_eq_true hr))]
    rfl
  | tick | run | step p => cases hr

/-- A match that is over takes the same course after any request that does not restart it. -/
lemma toCourse_serve_of_over {b : Battle size} (hover : b.status ≠ .running) {r : Request size}
    (hr : r.restarts = false) : (b.serve r).toCourse = b.toCourse := by
  cases r with
  | reset => cases hr
  | load first second =>
    rw [serve, load_of_not_fits b (Nat.not_le.mp (of_decide_eq_false hr))]
  | place first second start gap =>
    rw [serve, if_pos (Nat.not_le.mp (of_decide_eq_false hr))]
  | tick => rw [serve, tick_of_over hover]
  | run => rw [serve, run_of_over hover]
  | step p => rfl

lemma toCourse_serveAll_of_over {b : Battle size} (hover : b.status ≠ .running)
    {rs : List (Request size)} (hrs : ∀ r ∈ rs, r.restarts = false) :
    (b.serveAll rs).toCourse = b.toCourse := by
  induction rs generalizing b with
  | nil => rfl
  | cons r rs ih =>
    have hserve := toCourse_serve_of_over hover (hrs r List.mem_cons_self)
    have hover' : (b.serve r).status ≠ .running := by
      rw [hserve]
      exact hover
    rw [serveAll_cons, ih hover' fun r' hr' => hrs r' (List.mem_cons_of_mem r hr'), hserve]

end Battle

end CoreWar
