import CoreWar.Machine.Step
import CoreWar.Proofs.Cell.Legal
import CoreWar.Proofs.Core.Address

/-!
# What a turn can do

A turn either fails, and then only notes where and what has been fetched, or it has an effect. The
equations `step_of_error` and `step_of_ok` say what each leaves of the machine, `step_cases` that
there is nothing else, and `effect_cases` what an effect may write.
-/

namespace CoreWar

namespace Sides

variable {α : Type}

@[simp] lemma get_set_self (s : Sides α) (p : Player) (x : α) : (s.set p x).get p = x := by
  cases p <;> rfl

@[simp] lemma get_set_other (s : Sides α) (p : Player) (x : α) :
    (s.set p x).get p.other = s.get p.other := by
  cases p <;> rfl

lemma set_set_self (s : Sides α) (p : Player) (x y : α) : (s.set p x).set p y = s.set p y := by
  cases p <;> rfl

/-- A property of both values survives the replacement of one by a value that has it. -/
lemma forall_get_set {P : α → Prop} {s : Sides α} (p : Player) {x : α} (hs : ∀ q, P (s.get q))
    (hx : P x) (q : Player) : P ((s.set p x).get q) := by
  cases p <;> cases q
  · exact hx
  · exact hs .b
  · exact hs .a
  · exact hx

end Sides

def Operation.writers : List Operation := [.mov, .add, .sub, .djz]

namespace Effect

variable {size : CoreSize} {e : Effect size}

lemma apply_of_none (h : e.write = none) (core : Core size) : e.apply core = core := by
  simp only [apply, h]

lemma apply_of_some {x : Address size} {c : Cell} (h : e.write = some (x, c)) (core : Core size) :
    e.apply core = core.set x c := by
  simp only [apply, h]

end Effect

namespace Machine

variable {size : CoreSize} {m : Machine size} {p : Player}

/-! ### Steps -/

/-- The cell that the next turn of a player fetches. -/
def fetched (m : Machine size) (p : Player) : Cell :=
  m.core.get (m.fetchAddress p)

lemma step_of_error {f : Fault} (h : turn m.core p (m.fetchAddress p) = .error f) :
    m.step p =
      (⟨m.core, m.ip.set p (m.fetchAddress p).word, m.last.set p (m.fetched p)⟩, some f) := by
  obtain ⟨core, ips, last⟩ := m
  simp only [step, h, fetched]

lemma step_of_ok {e : Effect size} (h : turn m.core p (m.fetchAddress p) = .ok e) :
    m.step p = (⟨e.apply m.core, m.ip.set p e.next.word, m.last.set p (m.fetched p)⟩, none) := by
  obtain ⟨core, ips, last⟩ := m
  simp only [step, h, fetched]

/-- Every step is that of a turn that fails or of one that has an effect. -/
lemma step_cases (m : Machine size) (p : Player) :
    (∃ f, turn m.core p (m.fetchAddress p) = .error f ∧ m.step p =
      (⟨m.core, m.ip.set p (m.fetchAddress p).word, m.last.set p (m.fetched p)⟩, some f)) ∨
    (∃ e, turn m.core p (m.fetchAddress p) = .ok e ∧ m.step p =
      (⟨e.apply m.core, m.ip.set p e.next.word, m.last.set p (m.fetched p)⟩, none)) := by
  cases h : turn m.core p (m.fetchAddress p) with
  | error f => exact Or.inl ⟨f, rfl, step_of_error h⟩
  | ok e => exact Or.inr ⟨e, rfl, step_of_ok h⟩

/-- A step leaves the pointer of its player on an address of the core. -/
lemma step_ip (m : Machine size) (p : Player) :
    ∃ x : Address size, (m.step p).1.ip = m.ip.set p x.word := by
  rcases step_cases m p with ⟨f, -, h⟩ | ⟨e, -, h⟩
  · exact ⟨m.fetchAddress p, by rw [h]⟩
  · exact ⟨e.next, by rw [h]⟩

/-! ### Operands -/

/-- An operand of a legal mode leads somewhere. -/
lemma exists_resolve (core : Core size) (ip : Int64) {o : Operand} (ho : o.mode.isLegal = true) :
    ∃ x, resolve core ip o = some x := by
  obtain ⟨α, hα⟩ := Mode.isLegal_iff.mp ho
  cases α <;> simp [resolve, hα]

/-! ### Effects -/

lemma turn_of_resolve {core : Core size} {ip x y : Address size}
    (hx : resolve core ip.word (core.get ip).a = some x)
    (hy : resolve core ip.word (core.get ip).b = some y) :
    turn core p ip = effect core p (core.get ip) ip x y := by
  simp only [turn, hx, hy]

/-- A turn fails if one of its operands leads nowhere. -/
lemma turn_of_unresolved {core : Core size} {ip : Address size}
    (h : resolve core ip.word (core.get ip).a = none ∨
      resolve core ip.word (core.get ip).b = none) : turn core p ip = .error .illegalMode := by
  rcases h with ha | hb
  · simp only [turn, ha]
  · -- operand A may have been resolved by then
    simp only [turn, hb]
    cases resolve core ip.word (core.get ip).a <;> rfl

/-- A turn with legal modes is the effect of its instruction. -/
lemma exists_turn_of_modes {core : Core size} (p : Player) {ip : Address size}
    (ha : (core.get ip).a.mode.isLegal = true) (hb : (core.get ip).b.mode.isLegal = true) :
    ∃ x y, turn core p ip = effect core p (core.get ip) ip x y := by
  obtain ⟨x, hx⟩ := exists_resolve core ip.word ha
  obtain ⟨y, hy⟩ := exists_resolve core ip.word hb
  exact ⟨x, y, turn_of_resolve hx hy⟩

/-- An effect is that of one of the operations but data. -/
lemma exists_operation_of_effect {core : Core size} {ins : Cell} {ip x y : Address size}
    {e : Effect size} (h : effect core p ins ip x y = .ok e) :
    ∃ op, ins.opcode = .ofOperation op ∧ op ≠ .dat := by
  unfold effect at h
  cases hop : ins.opcode.operation? with
  | none =>
    simp only [hop] at h
    cases h
  | some op =>
    refine ⟨op, Opcode.eq_ofOperation hop, ?_⟩
    rintro rfl
    simp only [hop] at h
    cases h

/-- An effect writes nothing, or at the address of operand B another B field, or there a copy of the
cell of operand A. -/
lemma effect_cases {core : Core size} {ins : Cell} {op : Operation}
    (hop : ins.opcode = .ofOperation op) {ip x y : Address size} {e : Effect size}
    (h : effect core p ins ip x y = .ok e) :
    (op ∉ Operation.writers ∧ e.write = none) ∨
    (op ∈ Operation.writers ∧ ∃ f, e.write = some (y, withB (core.get y) p f)) ∨
    (op = .mov ∧ ins.a.mode.isImmediate = false ∧ ins.b.mode.isImmediate = false ∧
      e.write = some (y, { core.get x with owner := .ofPlayer p })) := by
  unfold effect at h
  simp only [hop, Opcode.operation?_ofOperation] at h
  cases op with
  | dat => cases h
  | mov =>
    cases h
    unfold moved
    split_ifs with ha hb
    · exact Or.inr (Or.inl ⟨by decide, _, rfl⟩)
    · exact Or.inr (Or.inl ⟨by decide, _, rfl⟩)
    · exact Or.inr (Or.inr ⟨rfl, eq_false_of_ne_true ha, eq_false_of_ne_true hb, rfl⟩)
  | add | sub | djz =>
    cases h
    exact Or.inr (Or.inl ⟨by decide, _, rfl⟩)
  | jmp | jmz | cmp =>
    cases h
    exact Or.inl ⟨by decide, rfl⟩

end Machine

end CoreWar
