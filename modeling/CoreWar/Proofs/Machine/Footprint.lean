import CoreWar.Proofs.Machine.Fault

/-!
# What a turn reads and writes

A turn touches the cell under its pointer, the pointer cells of its indirect operands and the cells
that its operands lead to. It reads nothing else (`turn_eq_of_agree`), and if it writes, it writes
the cell of operand B and nothing else (`get_step`). So two turns can be taken in either order if
neither of them writes what the other one touches (`step_comm_of_independent`).
-/

namespace CoreWar

variable {size : CoreSize}

namespace Sides

variable {α : Type} {p q : Player}

lemma get_set_of_ne (s : Sides α) (h : p ≠ q) (x : α) : (s.set p x).get q = s.get q := by
  cases p <;> cases q
  · exact absurd rfl h
  · rfl
  · rfl
  · exact absurd rfl h

lemma set_set_of_ne (s : Sides α) (h : p ≠ q) (x y : α) :
    (s.set p x).set q y = (s.set q y).set p x := by
  cases p <;> cases q
  · exact absurd rfl h
  · rfl
  · rfl
  · exact absurd rfl h

end Sides

lemma Core.set_set_of_ne (core : Core size) {x y : Address size} (h : x ≠ y) (c d : Cell) :
    (core.set x c).set y d = (core.set y d).set x c := by
  apply ext_get
  intro z
  simp only [get_set]
  split_ifs with hy hx
  · exact absurd (hx.symm.trans hy) h
  · rfl
  · rfl
  · rfl

/-- Effects that write different cells, or one of which writes none, can be applied in either
order. -/
lemma Effect.apply_comm {e f : Effect size} (h : ∀ x c y d, e.write = some (x, c) →
    f.write = some (y, d) → x ≠ y) (core : Core size) :
    f.apply (e.apply core) = e.apply (f.apply core) := by
  cases he : e.write with
  | none => rw [apply_of_none he, apply_of_none he]
  | some w =>
    cases hf : f.write with
    | none => rw [apply_of_none hf, apply_of_none hf]
    | some v =>
      rw [apply_of_some he, apply_of_some hf, apply_of_some hf, apply_of_some he]
      exact core.set_set_of_ne (h w.1 w.2 v.1 v.2 he hf) w.2 v.2

namespace Machine

/-! ### Turns as effects -/

/-- The effect of the next turn of a player. A turn that fails writes nothing and stays where it
is. -/
def taken (m : Machine size) (p : Player) : Effect size :=
  match turn m.core p (m.fetchAddress p) with
  | .ok e => e
  | .error _ => ⟨none, m.fetchAddress p⟩

lemma step_eq_taken (m : Machine size) (p : Player) :
    m.step p = (⟨(m.taken p).apply m.core, m.ip.set p (m.taken p).next.word,
      m.last.set p (m.fetched p)⟩, (m.fetched p).fault?) := by
  rw [← fault_step]
  rcases step_cases m p with ⟨f, hturn, hstep⟩ | ⟨e, hturn, hstep⟩
  · rw [hstep, taken, hturn]
    rfl
  · rw [hstep, taken, hturn]

/-! ### Writes -/

/-- The cell that the next turn of a player writes, if it does not fail and its operation writes. -/
def written? (m : Machine size) (p : Player) : Option (Address size) :=
  match (m.step p).2, (m.fetched p).opcode.operation? with
  | none, some op =>
    if op ∈ Operation.writers then resolve m.core (m.fetchAddress p).word (m.fetched p).b else none
  | _, _ => none

/-- A turn that has an effect resolves both operands and executes its instruction. -/
lemma exists_effect_of_turn {core : Core size} {p : Player} {ip : Address size} {e : Effect size}
    (h : turn core p ip = .ok e) :
    ∃ x y, resolve core ip.word (core.get ip).a = some x ∧
      resolve core ip.word (core.get ip).b = some y ∧
      effect core p (core.get ip) ip x y = .ok e := by
  simp only [turn] at h
  split at h
  · rename_i x y hx hy
    exact ⟨x, y, hx, hy, h⟩
  · cases h

/-- Whatever a turn writes stands where operand B leads and belongs to the player. -/
lemma write_taken (m : Machine size) (p : Player) :
    ((m.taken p).write = none ∧ m.written? p = none) ∨
      ∃ y c, (m.taken p).write = some (y, c) ∧ m.written? p = some y ∧ c.owner = .ofPlayer p := by
  rcases step_cases m p with ⟨f, hturn, hstep⟩ | ⟨e, hturn, hstep⟩
  · refine Or.inl ⟨?_, ?_⟩
    · simp only [taken, hturn]
    · simp only [written?, hstep]
  · obtain ⟨x, y, -, hy, heffect⟩ := exists_effect_of_turn hturn
    obtain ⟨op, hop, -⟩ := exists_operation_of_effect heffect
    have htaken : m.taken p = e := by simp only [taken, hturn]
    have hwritten : m.written? p = if op ∈ Operation.writers then some y else none := by
      rw [← hy]
      simp only [written?, hstep, fetched, hop, Opcode.operation?_ofOperation]
    rw [htaken, hwritten]
    rcases effect_cases hop heffect with ⟨hread, hw⟩ | ⟨hwrite, f, hw⟩ | ⟨rfl, -, -, hw⟩
    · exact Or.inl ⟨hw, if_neg hread⟩
    · exact Or.inr ⟨y, _, hw, if_pos hwrite, rfl⟩
    · exact Or.inr ⟨y, _, hw, rfl, rfl⟩

lemma written?_of_write {m : Machine size} {p : Player} {y : Address size} {c : Cell}
    (h : (m.taken p).write = some (y, c)) : m.written? p = some y := by
  rcases write_taken m p with ⟨hwrite, -⟩ | ⟨y', c', hwrite, hwritten, -⟩
  · cases h.symm.trans hwrite
  · cases h.symm.trans hwrite
    exact hwritten

/-- A turn leaves every cell alone but the one it writes, and that one is the player's. -/
lemma get_step (m : Machine size) (p : Player) (z : Address size) :
    (m.written? p = some z ∧ ((m.step p).1.core.get z).owner = .ofPlayer p) ∨
      (m.written? p ≠ some z ∧ (m.step p).1.core.get z = m.core.get z) := by
  rw [step_eq_taken]
  rcases write_taken m p with ⟨hwrite, hwritten⟩ | ⟨y, c, hwrite, hwritten, howner⟩
  · exact Or.inr ⟨by simp [hwritten], by rw [Effect.apply_of_none hwrite]⟩
  · simp only [hwritten, Effect.apply_of_some hwrite, ne_eq, Option.some.injEq, Core.get_set]
    by_cases hz : y = z
    · exact Or.inl ⟨hz, by rw [if_pos hz.symm, howner]⟩
    · exact Or.inr ⟨hz, if_neg (Ne.symm hz)⟩

/-! ### Reads -/

/-- The addresses that are touched on the way to an operand: the pointer cell of an indirect one,
and the cell that the operand leads to. -/
def operandFootprint (core : Core size) (ip : Address size) (o : Operand) : List (Address size) :=
  (if o.mode = .ofAddressing .indirect then [.wrap (ip.word + o.field.toInt64)] else []) ++
    (resolve core ip.word o).toList

/-- The addresses that a turn at `ip` touches. Operand B is looked at only if operand A leads
somewhere. -/
def footprint (core : Core size) (ip : Address size) : List (Address size) :=
  ip :: (operandFootprint core ip (core.get ip).a ++
    if (resolve core ip.word (core.get ip).a).isSome then
      operandFootprint core ip (core.get ip).b
    else [])

/-- The addresses that the next turn of a player touches. -/
def touched (m : Machine size) (p : Player) : List (Address size) :=
  footprint m.core (m.fetchAddress p)

section

variable {core core' : Core size} {ip : Address size}

lemma mem_operandFootprint_of_resolve {o : Operand} {x : Address size}
    (h : resolve core ip.word o = some x) : x ∈ operandFootprint core ip o := by
  simp [operandFootprint, h]

lemma mem_footprint_of_resolve {x y : Address size}
    (hx : resolve core ip.word (core.get ip).a = some x)
    (hy : resolve core ip.word (core.get ip).b = some y) :
    x ∈ footprint core ip ∧ y ∈ footprint core ip := by
  have hxa := mem_operandFootprint_of_resolve hx
  have hyb := mem_operandFootprint_of_resolve hy
  simp [footprint, hx, hxa, hyb]

/-- An operand leads to the same address in two cores that agree on the way to it. -/
lemma resolve_eq_of_agree {o : Operand}
    (h : ∀ z ∈ operandFootprint core ip o, core'.get z = core.get z) :
    resolve core' ip.word o = resolve core ip.word o := by
  unfold resolve
  cases hα : o.mode.addressing? with
  | none => rfl
  | some α =>
    cases α with
    | immediate | relative => rfl
    | indirect =>
      have hpointer : .wrap (ip.word + o.field.toInt64) ∈ operandFootprint core ip o := by
        simp [operandFootprint, Mode.eq_ofAddressing hα]
      simp only [h _ hpointer]

/-- An effect reads only the cells of its two operands. -/
lemma effect_eq_of_agree (p : Player) (ins : Cell) {x y : Address size}
    (hx : core'.get x = core.get x) (hy : core'.get y = core.get y) :
    effect core' p ins ip x y = effect core p ins ip x y := by
  unfold effect moved operandA jumpTarget differs
  rw [hx, hy]

/-- A turn reads only what it touches. -/
lemma turn_eq_of_agree (p : Player) (h : ∀ z ∈ footprint core ip, core'.get z = core.get z) :
    turn core' p ip = turn core p ip := by
  have hip : core'.get ip = core.get ip := h ip List.mem_cons_self
  have ha : resolve core' ip.word (core.get ip).a = resolve core ip.word (core.get ip).a :=
    resolve_eq_of_agree fun z hz => h z (by simp [footprint, hz])
  simp only [turn, hip, ha]
  cases hx : resolve core ip.word (core.get ip).a with
  | none => rfl
  | some x =>
    have hb : resolve core' ip.word (core.get ip).b = resolve core ip.word (core.get ip).b :=
      resolve_eq_of_agree fun z hz => h z (by simp [footprint, hx, hz])
    rw [hb]
    cases hy : resolve core ip.word (core.get ip).b with
    | none => rfl
    | some y =>
      obtain ⟨hxmem, hymem⟩ := mem_footprint_of_resolve hx hy
      exact effect_eq_of_agree p (core.get ip) (h x hxmem) (h y hymem)

end

/-- A turn touches what it writes. -/
lemma mem_touched_of_written {m : Machine size} {p : Player} {z : Address size}
    (h : m.written? p = some z) : z ∈ m.touched p := by
  rcases step_cases m p with ⟨f, -, hstep⟩ | ⟨e, hturn, hstep⟩
  · simp [written?, hstep] at h
  · obtain ⟨x, y, hx, hy, -⟩ := exists_effect_of_turn hturn
    have hz : resolve m.core (m.fetchAddress p).word (m.fetched p).b = some z := by
      simp only [written?, hstep] at h
      split at h
      · split_ifs at h
        exact h
      · cases h
    cases hy.symm.trans hz
    exact (mem_footprint_of_resolve hx hy).2

/-! ### Turns in either order -/

section

variable {m : Machine size} {p q : Player} (hpq : p ≠ q)
  (h : ∀ z ∈ m.written? p, z ∉ m.touched q)

include hpq in
lemma fetchAddress_step_of_ne (m : Machine size) :
    (m.step p).1.fetchAddress q = m.fetchAddress q := by
  rw [step_eq_taken, fetchAddress, fetchAddress, Sides.get_set_of_ne _ hpq]

include h

lemma get_step_of_touched {z : Address size} (hz : z ∈ m.touched q) :
    (m.step p).1.core.get z = m.core.get z := by
  rcases get_step m p z with ⟨hwritten, -⟩ | ⟨-, hget⟩
  · exact absurd hz (h z hwritten)
  · exact hget

include hpq

/-- A turn leaves the turn of the other player as it was, if it does not write what that one
touches. -/
lemma taken_step_of_ne :
    (m.step p).1.taken q = m.taken q ∧ (m.step p).1.fetched q = m.fetched q := by
  have hturn : turn (m.step p).1.core q (m.fetchAddress q) = turn m.core q (m.fetchAddress q) :=
    turn_eq_of_agree q fun z hz => get_step_of_touched h hz
  constructor
  · rw [taken, taken, fetchAddress_step_of_ne hpq, hturn]
  · rw [fetched, fetchAddress_step_of_ne hpq]
    exact get_step_of_touched h List.mem_cons_self

/-- What comes of a turn and a turn of the other player after it. -/
lemma step_step_of_ne : (m.step p).1.step q =
    (⟨(m.taken q).apply ((m.taken p).apply m.core),
      (m.ip.set p (m.taken p).next.word).set q (m.taken q).next.word,
      (m.last.set p (m.fetched p)).set q (m.fetched q)⟩, (m.fetched q).fault?) := by
  obtain ⟨htaken, hfetched⟩ := taken_step_of_ne hpq h
  rw [step_eq_taken (m.step p).1, htaken, hfetched, step_eq_taken m p]

end

/-- Turns of the two players can be taken in either order if neither of them writes what the other
one touches: each has the same fault or none, and both orders lead to the same machine. -/
theorem step_comm_of_independent (m : Machine size)
    (ha : ∀ z ∈ m.written? .a, z ∉ m.touched .b) (hb : ∀ z ∈ m.written? .b, z ∉ m.touched .a) :
    ((m.step .b).1.step .a).2 = (m.step .a).2 ∧ ((m.step .a).1.step .b).2 = (m.step .b).2 ∧
      ((m.step .a).1.step .b).1 = ((m.step .b).1.step .a).1 := by
  have hne : Player.a ≠ Player.b := by decide
  have hwrites : ∀ x c y d, (m.taken .a).write = some (x, c) → (m.taken .b).write = some (y, d) →
      x ≠ y := by
    rintro x c y d hx hy rfl
    exact hb x (written?_of_write hy) (mem_touched_of_written (written?_of_write hx))
  rw [step_step_of_ne hne ha, step_step_of_ne hne.symm hb, fault_step m .a, fault_step m .b,
    Effect.apply_comm hwrites m.core, Sides.set_set_of_ne _ hne, Sides.set_set_of_ne _ hne]
  exact ⟨rfl, rfl, rfl⟩

/-- An addition through a pointer and a decrement that touch all cells of the core between them. -/
theorem step_comm_of_independent_pointer :
    let add : Cell :=
      ⟨.ofOperation .add, ⟨.ofAddressing .immediate, 4⟩, ⟨.ofAddressing .indirect, 1⟩, .nobody⟩
    let pointer : Cell := { Cell.empty with b.field := 1 }
    let decrement : Cell :=
      ⟨.ofOperation .djz, ⟨.ofAddressing .relative, -1⟩, ⟨.ofAddressing .relative, 1⟩, .nobody⟩
    let m : Machine ⟨6, by decide, by decide⟩ :=
      ⟨Core.blank.setFrom 0 [add, pointer, .empty, .empty, decrement], ⟨0, 10⟩, .both .zero⟩
    m.written? .a = some 2 ∧ m.touched .a = [0, 0, 1, 2] ∧
      m.written? .b = some 5 ∧ m.touched .b = [4, 3, 5] ∧
      ((m.step .a).1.step .b).1 = ((m.step .b).1.step .a).1 := by
  intro add pointer decrement m
  have hwrittenA : m.written? .a = some 2 := by decide
  have hwrittenB : m.written? .b = some 5 := by decide
  have htouchedA : m.touched .a = [0, 0, 1, 2] := by decide
  have htouchedB : m.touched .b = [4, 3, 5] := by decide
  have ha : ∀ z ∈ m.written? .a, z ∉ m.touched .b := by
    rw [hwrittenA, htouchedB]
    decide
  have hb : ∀ z ∈ m.written? .b, z ∉ m.touched .a := by
    rw [hwrittenB, htouchedA]
    decide
  have hcomm := (step_comm_of_independent m ha hb).2.2
  exact ⟨hwrittenA, htouchedA, hwrittenB, htouchedB, hcomm⟩

end Machine

end CoreWar
