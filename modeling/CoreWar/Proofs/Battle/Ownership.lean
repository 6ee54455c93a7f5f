import Mathlib.Data.List.Induction
import Mathlib.Order.Fin.Basic
import CoreWar.Proofs.Battle.Legality
import CoreWar.Proofs.Battle.Placement
import CoreWar.Proofs.Machine.Footprint

/-!
# The owner of a cell

A cell records who wrote it last. The writes of a match are those of the load and those of the
turns: a turn writes where its operand B leads, if it does not fail and its operation is one that
writes. In the history of all these writes the last one to a cell is that of its owner, and a cell
without an owner has not been written at all (`owner_eq_lastWriter`). A copied cell does not bring
its owner along.
-/

namespace CoreWar

variable {size : CoreSize}

lemma Owner.ofPlayer_ne_nobody (p : Player) : ofPlayer p ≠ nobody := by
  cases p <;> decide

/-! ### Histories of writes -/

structure Write (size : CoreSize) where
  player : Player
  address : Address size

/-- The last write to a cell in a history of writes, the oldest of which comes first. -/
def lastWrite? (history : List (Write size)) (z : Address size) : Option (Write size) :=
  history.reverse.find? fun w => w.address = z

/-- Who has written a cell last. -/
def lastWriter (history : List (Write size)) (z : Address size) : Owner :=
  match lastWrite? history z with
  | some w => .ofPlayer w.player
  | none => .nobody

lemma lastWrite?_append (older newer : List (Write size)) (z : Address size) :
    lastWrite? (older ++ newer) z = (lastWrite? newer z).or (lastWrite? older z) := by
  simp only [lastWrite?, List.reverse_append, List.find?_append]

lemma lastWriter_append_singleton (history : List (Write size)) (w : Write size)
    (z : Address size) :
    lastWriter (history ++ [w]) z =
      if w.address = z then .ofPlayer w.player else lastWriter history z := by
  have hsingle : lastWrite? [w] z = if w.address = z then some w else none := by
    simp [lastWrite?, List.find?_singleton]
  rw [lastWriter, lastWrite?_append, hsingle]
  split_ifs
  · rfl
  · rfl

/-- The last one of writes that are all a player's is the player's. -/
lemma lastWrite?_map (p : Player) (xs : List (Address size)) (z : Address size) :
    lastWrite? (xs.map (Write.mk p)) z = if z ∈ xs then some ⟨p, z⟩ else none := by
  induction xs using List.reverseRecOn with
  | nil => rfl
  | append_singleton xs x ih =>
    rw [List.map_append, lastWrite?_append, ih]
    by_cases hx : x = z
    · simp [lastWrite?, hx]
    · simp [lastWrite?, hx, Ne.symm hx]

/-! ### Writes of turns -/

namespace Machine

def writes (m : Machine size) : List Player → List (Write size)
  | [] => []
  | p :: ps => (m.written? p).toList.map (Write.mk p) ++ (m.step p).1.writes ps

lemma stepAll_cons (m : Machine size) (p : Player) (ps : List Player) :
    m.stepAll (p :: ps) = (m.step p).1.stepAll ps := rfl

lemma stepAll_append (m : Machine size) (ps qs : List Player) :
    m.stepAll (ps ++ qs) = (m.stepAll ps).stepAll qs :=
  List.foldl_append

/-- Every cell belongs to whoever has written it last in a history. -/
def Owned (m : Machine size) (history : List (Write size)) : Prop :=
  ∀ z, (m.core.get z).owner = lastWriter history z

/-- A turn makes the history longer by its write, if there is one. -/
lemma Owned.step {m : Machine size} {history : List (Write size)} (h : m.Owned history)
    (p : Player) :
    (m.step p).1.Owned (history ++ (m.written? p).toList.map (Write.mk p)) := by
  intro z
  rcases get_step m p z with ⟨hwritten, howner⟩ | ⟨hwritten, hget⟩
  · rw [howner, hwritten]
    exact ((lastWriter_append_singleton history ⟨p, z⟩ z).trans (if_pos rfl)).symm
  · rw [hget, h z]
    cases hw : m.written? p with
    | none => simp
    | some y =>
      have hy : y ≠ z := by
        rintro rfl
        exact hwritten hw
      exact ((lastWriter_append_singleton history ⟨p, y⟩ z).trans (if_neg hy)).symm

lemma Owned.stepAll {m : Machine size} {history : List (Write size)} (h : m.Owned history)
    (ps : List Player) : (m.stepAll ps).Owned (history ++ m.writes ps) := by
  induction ps generalizing m history with
  | nil =>
    rw [writes, List.append_nil]
    exact h
  | cons p ps ih =>
    rw [stepAll_cons, writes, ← List.append_assoc]
    exact ih (h.step p)

/-- A cell without an owner after a turn has not been touched by it. -/
lemma get_step_of_unowned {m : Machine size} {p : Player} {z : Address size}
    (h : ((m.step p).1.core.get z).owner = .nobody) :
    (m.step p).1.core.get z = m.core.get z := by
  rcases get_step m p z with ⟨-, howner⟩ | ⟨-, hget⟩
  · exact absurd (howner.symm.trans h) (Owner.ofPlayer_ne_nobody p)
  · exact hget

lemma get_stepAll_of_unowned {m : Machine size} {ps : List Player} {z : Address size}
    (h : ((m.stepAll ps).core.get z).owner = .nobody) :
    (m.stepAll ps).core.get z = m.core.get z := by
  induction ps generalizing m with
  | nil => rfl
  | cons p ps ih =>
    rw [stepAll_cons] at h ⊢
    have hrest := ih h
    rw [hrest] at h ⊢
    exact get_step_of_unowned h

end Machine

/-! ### Matches -/

namespace Battle

/-- The writes of a load: the cells of the first warrior, and then those of the second one. -/
def loadWrites (first second : List Cell) (start : Address size) (gap : Nat) :
    List (Write size) :=
  (start.span first.length).map (Write.mk .a) ++
    ((secondStart first start gap).span second.length).map (Write.mk .b)

lemma lastWriter_loadWrites (first second : List Cell) (start : Address size) (gap : Nat)
    (z : Address size) :
    lastWriter (loadWrites first second start gap) z =
      if z ∈ (secondStart first start gap).span second.length then .ofPlayer .b
      else if z ∈ start.span first.length then .ofPlayer .a
      else .nobody := by
  simp only [lastWriter, loadWrites, lastWrite?_append, lastWrite?_map]
  split_ifs <;> rfl

section Loads

variable {b loaded : Battle size} {first second : List Cell} {start : Address size} {gap : Nat}
  (h : b.Loaded first second start gap loaded)
  (hfirst : ∀ c ∈ first, c.owner = .ofPlayer .a) (hsecond : ∀ c ∈ second, c.owner = .ofPlayer .b)

include h hfirst hsecond

lemma Loaded.owned : loaded.machine.Owned (loadWrites first second start gap) := by
  intro z
  rw [lastWriter_loadWrites]
  split_ifs with hb ha
  · obtain ⟨k, hk, rfl⟩ := Address.mem_span.mp hb
    rw [h.secondCells k hk]
    exact hsecond _ (List.getElem_mem hk)
  · obtain ⟨k, hk, rfl⟩ := Address.mem_span.mp ha
    rw [h.firstCells k hk]
    exact hfirst _ (List.getElem_mem hk)
  · rw [h.elsewhere z ha hb]
    rfl

/-- A cell without an owner in a loaded match is unused. -/
lemma Loaded.get_of_unowned {z : Address size}
    (hz : (loaded.machine.core.get z).owner = .nobody) : loaded.machine.core.get z = .empty := by
  have howned := h.owned hfirst hsecond z
  rw [hz, lastWriter_loadWrites] at howned
  split_ifs at howned with hb ha
  · exact absurd howned.symm (Owner.ofPlayer_ne_nobody .b)
  · exact absurd howned.symm (Owner.ofPlayer_ne_nobody .a)
  · exact h.elsewhere z ha hb

end Loads

/-- The machine of a match after cycles is the machine after turns. -/
lemma exists_stepAll_eq_iterate_tick (b : Battle size) (n : Nat) :
    ∃ ps, (tick^[n] b).machine = b.machine.stepAll ps := by
  induction n with
  | zero => exact ⟨[], rfl⟩
  | succ n ih =>
    rw [Function.iterate_succ_apply']
    refine (ticked_tick _).machine_induction (P := fun m => ∃ ps, m = b.machine.stepAll ps) ?_ ih
    rintro m p ⟨ps, rfl⟩
    exact ⟨ps ++ [p], by rw [Machine.stepAll_append]; rfl⟩

/-- The owner of a cell is whoever has written it last since the load, and nobody if there was no
such write. A cell of nobody is unused, and no turn makes a cell one of nobody. -/
theorem owner_eq_lastWriter (b : Battle size) {first second : List Cell}
    (hfit : first.length + second.length ≤ size.count) (start : Address size) {gap : Nat}
    (hgap : gap < gapCount size first second) (generator : Pcg)
    (hfirst : ∀ c ∈ first, c.owner = .ofPlayer .a)
    (hsecond : ∀ c ∈ second, c.owner = .ofPlayer .b) :
    let loaded : Battle size := { b.place first second start gap with generator := generator }
    (∀ ps z, ((loaded.machine.stepAll ps).core.get z).owner =
      lastWriter (loadWrites first second start gap ++ loaded.machine.writes ps) z) ∧
    (∀ ps z, ((loaded.machine.stepAll ps).core.get z).owner = .nobody →
      (loaded.machine.stepAll ps).core.get z = .empty) ∧
    (∀ ps qs z, ((loaded.machine.stepAll (ps ++ qs)).core.get z).owner = .nobody →
      ((loaded.machine.stepAll ps).core.get z).owner = .nobody) ∧
    ∀ n, ∃ ps, (tick^[n] loaded).machine = loaded.machine.stepAll ps := by
  intro loaded
  have hloaded : b.Loaded first second start gap loaded := b.loaded_place hfit start hgap generator
  refine ⟨?_, ?_, ?_, exists_stepAll_eq_iterate_tick loaded⟩
  · intro ps z
    exact (hloaded.owned hfirst hsecond).stepAll ps z
  · intro ps z hz
    have hget := Machine.get_stepAll_of_unowned hz
    rw [hget] at hz ⊢
    exact hloaded.get_of_unowned hfirst hsecond hz
  · intro ps qs z hz
    rw [Machine.stepAll_append] at hz
    rw [← Machine.get_stepAll_of_unowned hz]
    exact hz

/-- Player A copies a cell of player B to an unused one and becomes the owner of the copy. -/
theorem owner_eq_lastWriter_copy :
    let copy : Cell :=
      ⟨.ofOperation .mov, ⟨.ofAddressing .relative, 1⟩, ⟨.ofAddressing .relative, 2⟩, .ofPlayer .a⟩
    let prey : Cell := .data (.ofPlayer .b)
    let placed : Battle ⟨3, by decide, by decide⟩ := (blank ⟨0⟩).place [copy] [prey] 0 0
    [copy].length + [prey].length ≤ 3 ∧ (∀ c ∈ [copy], c.owner = .ofPlayer .a) ∧
      (∀ c ∈ [prey], c.owner = .ofPlayer .b) ∧
      ((placed.machine.stepAll [.a]).core.get 2).owner =
        lastWriter (loadWrites [copy] [prey] 0 0 ++ placed.machine.writes [.a]) 2 ∧
      (placed.machine.stepAll [.a]).core.get 2 = { prey with owner := .ofPlayer .a } := by
  intro copy prey placed
  have hfit : [copy].length + [prey].length ≤ 3 := by decide
  have hfirst : ∀ c ∈ [copy], c.owner = .ofPlayer .a := by decide
  have hsecond : ∀ c ∈ [prey], c.owner = .ofPlayer .b := by decide
  have hgap : 0 < gapCount ⟨3, by decide, by decide⟩ [copy] [prey] := by decide
  obtain ⟨howner, -⟩ := owner_eq_lastWriter (blank ⟨0⟩ : Battle ⟨3, by decide, by decide⟩) hfit 0
    hgap ⟨0⟩ hfirst hsecond
  exact ⟨hfit, hfirst, hsecond, howner [.a] 2, by decide⟩

end Battle

end CoreWar
