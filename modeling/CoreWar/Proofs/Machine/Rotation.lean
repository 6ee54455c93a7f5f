import CoreWar.Proofs.Core.Span
import CoreWar.Proofs.Machine.Step

/-!
# Turning the core

The core has neither a first nor a last cell. If the content of every cell and both pointers move on
by the same distance, nothing happens but that every address a turn computes moves on with them: a
turn commutes with the rotation (`step_rotate`), through every mode and every operation.

The core has to be small enough for the sum of an address and a field to fit a word.
-/

namespace CoreWar

variable {size : CoreSize} {k : Nat}

/-! ### Addresses -/

namespace Address

/-- The place of a pointer turned by `k` cells. -/
def rotateWord (size : CoreSize) (k : Nat) (w : Int64) : Int64 :=
  ((wrap w : Address size).advance k).word

/-- A turned pointer is the pointer plus the distance, modulo the number of cells. -/
lemma toInt_rotateWord (k : Nat) (w : Int64) :
    (rotateWord size k w).toInt = (w.toInt + k) % size.count := by
  rw [rotateWord, toInt_word, advance_eq_ofInt, val_ofInt, wrap, val_ofInt, Int.emod_add_emod]

@[simp] lemma wrap_rotateWord (k : Nat) (w : Int64) :
    (wrap (rotateWord size k w) : Address size) = (wrap w).advance k := by
  rw [rotateWord, wrap_word]

@[simp] lemma rotateWord_word (k : Nat) (x : Address size) :
    rotateWord size k x.word = (x.advance k).word := by
  rw [rotateWord, wrap_word]

lemma advance_ofInt (i : Int) (k : Nat) : (ofInt i : Address size).advance k = ofInt (i + k) := by
  rw [advance_eq_ofInt, ofInt_eq_ofInt_iff, val_ofInt, Int.emod_add_emod]

lemma ofInt_val_advance_add (x : Address size) (k : Nat) (i : Int) :
    (ofInt ((x.advance k).val + i) : Address size) = (ofInt (x.val + i)).advance k := by
  rw [advance_ofInt, advance_eq_ofInt, ofInt_eq_ofInt_iff, val_ofInt, Int.emod_add_emod]
  congr 1
  omega

/-- The place that turns to a given one. -/
def back (k : Nat) (z : Address size) : Address size :=
  ofInt (z.val - k)

@[simp] lemma advance_back (k : Nat) (z : Address size) : (back k z).advance k = z := by
  rw [back, advance_ofInt, Int.sub_add_cancel, ofInt_val]

@[simp] lemma back_advance (k : Nat) (x : Address size) : back k (x.advance k) = x := by
  rw [back, advance_eq_ofInt, val_ofInt]
  nth_rewrite 2 [← ofInt_val x]
  rw [ofInt_eq_ofInt_iff, Int.emod_sub_emod]
  congr 1
  omega

lemma advance_left_inj {x y : Address size} : x.advance k = y.advance k ↔ x = y := by
  constructor
  · intro h
    rw [← back_advance k x, h, back_advance]
  · rintro rfl
    rfl

lemma advance_right_comm (x : Address size) (i k : Nat) :
    (x.advance k).advance i = (x.advance i).advance k := by
  rw [advance_advance, advance_advance, Nat.add_comm]

lemma advance_mem_span_advance {x z : Address size} {n : Nat} :
    z.advance k ∈ (x.advance k).span n ↔ z ∈ x.span n := by
  have hcomm : ∀ i, (x.advance k).advance i = z.advance k ↔ x.advance i = z := by
    intro i
    rw [advance_right_comm, advance_left_inj]
  simp only [mem_span, hcomm]

end Address

/-! ### Cores -/

namespace Core

/-- The core turned by `k` cells: what was at an address is `k` cells further on. -/
def rotate (core : Core size) (k : Nat) : Core size :=
  ⟨Vector.ofFn fun z => core.get (Address.back k z)⟩

lemma get_rotate (core : Core size) (k : Nat) (z : Address size) :
    (core.rotate k).get z = core.get (Address.back k z) := by
  simp [rotate, get_eq_getElem]

@[simp] lemma get_rotate_advance (core : Core size) (k : Nat) (x : Address size) :
    (core.rotate k).get (x.advance k) = core.get x := by
  rw [get_rotate, Address.back_advance]

lemma rotate_set (core : Core size) (k : Nat) (x : Address size) (c : Cell) :
    (core.set x c).rotate k = (core.rotate k).set (x.advance k) c := by
  apply ext_get
  intro z
  rw [← Address.advance_back k z]
  simp only [get_rotate_advance, get_set, Address.advance_left_inj]

end Core

namespace Sides

variable {α β : Type}

def map (f : α → β) (s : Sides α) : Sides β := ⟨f s.a, f s.b⟩

@[simp] lemma get_map (f : α → β) (s : Sides α) (p : Player) : (s.map f).get p = f (s.get p) := by
  cases p <;> rfl

@[simp] lemma map_set (f : α → β) (s : Sides α) (p : Player) (x : α) :
    (s.set p x).map f = (s.map f).set p (f x) := by
  cases p <;> rfl

end Sides

/-! ### Effects -/

/-- The effect turned by `k` cells. -/
def Effect.rotate (e : Effect size) (k : Nat) : Effect size :=
  ⟨e.write.map fun (x, c) => (x.advance k, c), e.next.advance k⟩

lemma Effect.next_rotate (e : Effect size) (k : Nat) :
    (e.rotate k).next = e.next.advance k := rfl

lemma Effect.apply_rotate (e : Effect size) (core : Core size) (k : Nat) :
    (e.rotate k).apply (core.rotate k) = (e.apply core).rotate k := by
  obtain ⟨_ | ⟨x, c⟩, next⟩ := e
  · rfl
  · exact (Core.rotate_set core k x c).symm

namespace Machine

section Turns

variable (hsize : size.count + 0x80000000 < 0x8000000000000000)

include hsize

lemma wrap_advance_add_field (x : Address size) (f : Int32) :
    Address.wrap ((x.advance k).word + f.toInt64) =
      (Address.wrap (x.word + f.toInt64) : Address size).advance k := by
  rw [Address.wrap_word_add_field hsize, Address.wrap_word_add_field hsize,
    Address.ofInt_val_advance_add]

lemma wrap_advance_add (x : Address size) {w : Int64} (hw : w.toInt ≤ 2) :
    Address.wrap ((x.advance k).word + w) =
      (Address.wrap (x.word + w) : Address size).advance k := by
  rw [Address.wrap_word_add _ (by omega), Address.wrap_word_add _ (by omega),
    Address.ofInt_val_advance_add]

lemma resolve_rotate (core : Core size) (ip : Address size) (o : Operand) :
    resolve (core.rotate k) (ip.advance k).word o =
      (resolve core ip.word o).map (Address.advance · k) := by
  unfold resolve
  cases o.mode.addressing? with
  | none => rfl
  | some α =>
    cases α with
    | immediate => simp
    | relative => simp [wrap_advance_add_field hsize]
    | indirect => simp [wrap_advance_add_field hsize]

lemma jumpTarget_rotate (core : Core size) (ins : Cell) (ip x : Address size) :
    jumpTarget (core.rotate k) ins (ip.advance k) (x.advance k) =
      (jumpTarget core ins ip x).advance k := by
  unfold jumpTarget
  rw [Core.get_rotate_advance, wrap_advance_add_field hsize]
  split_ifs <;> rfl

/-- The effect of an instruction turns with the addresses that it is given. -/
lemma effect_rotate (core : Core size) (p : Player) (ins : Cell) (ip x y : Address size) :
    effect (core.rotate k) p ins (ip.advance k) (x.advance k) (y.advance k) =
      (effect core p ins ip x y).map (Effect.rotate · k) := by
  have hone := wrap_advance_add (k := k) hsize ip (w := 1) (by decide)
  have htwo := wrap_advance_add (k := k) hsize ip (w := 2) (by decide)
  have hjump := jumpTarget_rotate (k := k) hsize core ins ip x
  unfold effect
  cases ins.opcode.operation? with
  | none => rfl
  | some op =>
    simp only [moved, operandA, differs, Core.get_rotate_advance, hone, htwo, hjump]
    cases op with
    | dat => rfl
    | mov | add | sub | jmp => rfl
    | jmz | djz | cmp =>
      simp only [Except.map, Effect.rotate]
      split_ifs <;> rfl

lemma turn_rotate (core : Core size) (p : Player) (ip : Address size) :
    turn (core.rotate k) p (ip.advance k) = (turn core p ip).map (Effect.rotate · k) := by
  simp only [turn, Core.get_rotate_advance, resolve_rotate hsize]
  cases resolve core ip.word (core.get ip).a with
  | none => rfl
  | some x =>
    cases resolve core ip.word (core.get ip).b with
    | none => rfl
    | some y => exact effect_rotate hsize core p (core.get ip) ip x y

end Turns

/-! ### Machines -/

/-- The machine turned by `k` cells: the core and both pointers. -/
def rotate (m : Machine size) (k : Nat) : Machine size :=
  ⟨m.core.rotate k, m.ip.map (Address.rotateWord size k), m.last⟩

lemma fetchAddress_rotate (m : Machine size) (k : Nat) (p : Player) :
    (m.rotate k).fetchAddress p = (m.fetchAddress p).advance k := by
  simp [fetchAddress, rotate]

lemma fetched_rotate (m : Machine size) (k : Nat) (p : Player) :
    (m.rotate k).fetched p = m.fetched p := by
  rw [fetched, fetchAddress_rotate]
  exact Core.get_rotate_advance m.core k (m.fetchAddress p)

/-- A turn of a turned machine is the turn of the machine, turned. -/
lemma step_rotate (hsize : size.count + 0x80000000 < 0x8000000000000000) (m : Machine size)
    (k : Nat) (p : Player) :
    (m.rotate k).step p = ((m.step p).1.rotate k, (m.step p).2) := by
  have hturn : turn (m.rotate k).core p ((m.rotate k).fetchAddress p) =
      (turn m.core p (m.fetchAddress p)).map (Effect.rotate · k) := by
    rw [fetchAddress_rotate]
    exact turn_rotate hsize m.core p (m.fetchAddress p)
  rcases step_cases m p with ⟨f, h, hstep⟩ | ⟨e, h, hstep⟩
  · rw [h] at hturn
    rw [step_of_error hturn, hstep, fetched_rotate, fetchAddress_rotate]
    simp [rotate]
  · rw [h] at hturn
    rw [step_of_ok hturn, hstep, fetched_rotate]
    simp only [rotate, Effect.apply_rotate, Effect.next_rotate, Sides.map_set,
      Address.rotateWord_word]

end Machine

end CoreWar
