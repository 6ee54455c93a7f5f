import CoreWar.Proofs.Machine.Step

/-!
# Addresses stay in the core

An `Address` is the number of a cell by its type. Here the machine runs on bare words instead: an
address is reduced by a remainder that is rounded towards zero and corrected if it is negative, and
a cell is found by counting it off, which fails for every word that is not the number of a cell
(`Core.cellAt?`, `Core.putAt?`). Operations count off the words that they are given without reducing
them again.

No such access fails, and the turn on words is the turn of the machine (`step_within_core`). This
holds for every pointer, every field and every size of the core, also where sums wrap round.
-/

namespace CoreWar

/-! ### Words as addresses -/

namespace CoreSize

def word (size : CoreSize) : Int64 := Int64.ofNat size.count

/-- The word reduced to the number of a cell. -/
def reduce (size : CoreSize) (w : Int64) : Int64 :=
  let r := w % size.word
  if r < 0 then r + size.word else r

lemma toInt_word (size : CoreSize) : size.word.toInt = size.count := by
  have hlt := size.lt
  exact Int64.toInt_ofNat_of_lt (by simpa using hlt)

/-- The remainder is that of the integers, although it is taken towards zero first. -/
lemma toInt_reduce (size : CoreSize) (w : Int64) :
    (size.reduce w).toInt = w.toInt % size.count := by
  have hpos : (0 : Int) < size.count := Int.natCast_pos.mpr size.pos
  have hlt := size.lt
  have hlow := Int.lt_tmod_of_pos w.toInt hpos
  have hhigh := Int.tmod_lt_of_pos w.toInt hpos
  have hr : (w % size.word).toInt = w.toInt.tmod size.count := by
    rw [Int64.toInt_mod, toInt_word]
  -- towards zero or not, the remainder differs from the word by a multiple of the size
  have hcongr : w.toInt % size.count = w.toInt.tmod size.count % size.count := by
    nth_rewrite 1 [← Int.mul_tdiv_add_tmod w.toInt size.count]
    exact Int.mul_add_emod_self_left _ _ _
  rw [hcongr, reduce]
  split_ifs with hneg
  · rw [Int64.lt_iff_toInt_lt, hr, Int64.toInt_zero] at hneg
    rw [Int64.toInt_add, hr, toInt_word, Int.bmod_eq_of_le (by simp; omega) (by simp; omega),
      ← Int.add_emod_right, Int.emod_eq_of_lt (by omega) (by omega)]
  · rw [Int64.lt_iff_toInt_lt, hr, Int64.toInt_zero] at hneg
    rw [hr, Int.emod_eq_of_lt (by omega) hhigh]

end CoreSize

variable {size : CoreSize}

namespace Address

/-- The place with the given number, if there is one. -/
def ofIndex? (i : Int64) : Option (Address size) :=
  if h : 0 ≤ i.toInt ∧ i.toInt < size.count then some ⟨i.toInt.toNat, by omega⟩ else none

lemma ofIndex?_ne_none_iff {i : Int64} :
    (ofIndex? i : Option (Address size)) ≠ none ↔ 0 ≤ i.toInt ∧ i.toInt < size.count := by
  unfold ofIndex?
  split_ifs with h
  · simp [h]
  · simp [h]

@[simp] lemma ofIndex?_word (x : Address size) : ofIndex? x.word = some x := by
  simp [ofIndex?, toInt_word]

lemma reduce_eq_word (w : Int64) : size.reduce w = (wrap w : Address size).word := by
  rw [← Int64.toInt_inj, CoreSize.toInt_reduce, toInt_word_wrap]

end Address

namespace Core

/-- The cell with the given number. -/
def cellAt? (core : Core size) (i : Int64) : Option Cell :=
  (Address.ofIndex? i).map core.get

/-- The core with the cell with the given number replaced. -/
def putAt? (core : Core size) (i : Int64) (c : Cell) : Option (Core size) :=
  (Address.ofIndex? i).map fun x => core.set x c

@[simp] lemma cellAt?_word (core : Core size) (x : Address size) :
    core.cellAt? x.word = some (core.get x) := by
  simp [cellAt?]

@[simp] lemma putAt?_word (core : Core size) (x : Address size) (c : Cell) :
    core.putAt? x.word c = some (core.set x c) := by
  simp [putAt?]

end Core

/-! ### The machine on words -/

namespace Indexed

/-- The address of an operand, or the fault if its mode is illegal. -/
def resolve (core : Core size) (ip : Int64) (o : Operand) : Option (Except Fault Int64) :=
  match o.mode.addressing? with
  | some .immediate => return .ok (size.reduce ip)
  | some .relative => return .ok (size.reduce (ip + o.field.toInt64))
  | some .indirect => do
    let pointer := size.reduce (ip + o.field.toInt64)
    let c ← core.cellAt? pointer
    return .ok (size.reduce (pointer + c.b.field.toInt64))
  | none => return .error .illegalMode

/-- The summand of an addition with operand A at `a`. -/
def summand (core : Core size) (ins : Cell) (a : Int64) : Option Int32 := do
  let c ← core.cellAt? a
  return if ins.a.mode.isImmediate then c.a.field else c.b.field

/-- Where a jump leads. Only an immediate one looks at the cell at `a`. -/
def jump (core : Core size) (ins : Cell) (ip a : Int64) : Option Int64 :=
  if ins.a.mode.isImmediate then do
    let c ← core.cellAt? a
    return size.reduce (ip + c.a.field.toInt64)
  else return a

/-- Where a player goes on who jumps if the B field of the cell at `b` is zero. -/
def jumpIfZero (core : Core size) (ins : Cell) (ip a b : Int64) : Option Int64 := do
  let c ← core.cellAt? b
  if c.b.field = 0 then jump core ins ip a else return size.reduce (ip + 1)

/-- The core with another B field in the cell at `b`, written by a player. -/
def putB (core : Core size) (p : Player) (b : Int64) (f : Int32) : Option (Core size) := do
  let c ← core.cellAt? b
  core.putAt? b (Machine.withB c p f)

/-- What an instruction does with the operands at `a` and `b`: the core afterwards and where the
player goes on. -/
def execute (core : Core size) (p : Player) (ins : Cell) (ip a b : Int64) :
    Option (Except Fault (Core size × Int64)) :=
  match ins.opcode.operation? with
  | none => return .error .illegalOpcode
  | some .dat => return .error .datExecuted
  | some .mov => do
    let source ← core.cellAt? a
    let core ←
      if ins.a.mode.isImmediate then putB core p b source.a.field
      else if ins.b.mode.isImmediate then putB core p b source.b.field
      else core.putAt? b { source with owner := .ofPlayer p }
    return .ok (core, size.reduce (ip + 1))
  | some .add => do
    let target ← core.cellAt? b
    let f ← summand core ins a
    return .ok (← putB core p b (target.b.field + f), size.reduce (ip + 1))
  | some .sub => do
    let target ← core.cellAt? b
    let f ← summand core ins a
    return .ok (← putB core p b (target.b.field - f), size.reduce (ip + 1))
  | some .jmp => do
    return .ok (core, ← jump core ins ip a)
  | some .jmz => do
    return .ok (core, ← jumpIfZero core ins ip a b)
  | some .djz => do
    let target ← core.cellAt? b
    -- the jump is decided in the core that has been written
    let core ← putB core p b (target.b.field - 1)
    return .ok (core, ← jumpIfZero core ins ip a b)
  | some .cmp => do
    let x ← core.cellAt? a
    let y ← core.cellAt? b
    let skip :=
      if ins.a.mode.isImmediate then x.a.field != y.b.field
      else if ins.b.mode.isImmediate then x.b.field != y.b.field
      else x.a.field != y.a.field || x.b.field != y.b.field
    return .ok (core, size.reduce (if skip then ip + 2 else ip + 1))

def step (m : Machine size) (p : Player) : Option (Machine size × Option Fault) := do
  let ip := size.reduce (m.ip.get p)
  let ins ← m.core.cellAt? (size.reduce ip)
  let m : Machine size := ⟨m.core, m.ip.set p ip, m.last.set p ins⟩
  match ← resolve m.core (m.ip.get p) ins.a with
  | .error f => return (m, some f)
  | .ok a =>
    match ← resolve m.core (m.ip.get p) ins.b with
    | .error f => return (m, some f)
    | .ok b =>
      match ← execute m.core p ins ip a b with
      | .error f => return (m, some f)
      | .ok (core, next) => return (⟨core, m.ip.set p next, m.last⟩, none)

/-! ### Agreement with the machine -/

/-- An operand is resolved without failing, and to an address of the core unless its mode is
illegal. -/
lemma resolve_eq (core : Core size) (ip : Int64) (o : Operand) :
    resolve core ip o =
      some ((Machine.resolve core ip o).elim (.error .illegalMode) fun x => .ok x.word) := by
  unfold resolve Machine.resolve
  cases o.mode.addressing? with
  | none => rfl
  | some α => cases α <;> simp [Address.reduce_eq_word]

lemma summand_eq (core : Core size) (ins : Cell) (x : Address size) :
    summand core ins x.word = some (Machine.operandA core ins x) := by
  simp [summand, Machine.operandA]

lemma jump_eq (core : Core size) (ins : Cell) (ip x : Address size) :
    jump core ins ip.word x.word = some (Machine.jumpTarget core ins ip x).word := by
  unfold jump Machine.jumpTarget
  split_ifs
  · simp [Address.reduce_eq_word]
  · rfl

lemma jumpIfZero_eq (core : Core size) (ins : Cell) (ip x y : Address size) :
    jumpIfZero core ins ip.word x.word y.word =
      some (if (core.get y).b.field = 0 then Machine.jumpTarget core ins ip x
        else .wrap (ip.word + 1)).word := by
  simp only [jumpIfZero, Core.cellAt?_word, Option.bind_eq_bind, Option.bind_some]
  split_ifs
  · exact jump_eq core ins ip x
  · exact congrArg some (Address.reduce_eq_word _)

lemma putB_eq (core : Core size) (p : Player) (y : Address size) (f : Int32) :
    putB core p y.word f = some (core.set y (Machine.withB (core.get y) p f)) := by
  simp [putB]

/-- A jump leads to the same place after a B field has been written. -/
lemma jumpTarget_set_withB (core : Core size) (p : Player) (ins : Cell) (ip x y : Address size)
    (f : Int32) :
    Machine.jumpTarget (core.set y (Machine.withB (core.get y) p f)) ins ip x =
      Machine.jumpTarget core ins ip x := by
  have hfield : ((core.set y (Machine.withB (core.get y) p f)).get x).a.field =
      (core.get x).a.field := by
    rw [Core.get_set]
    split_ifs with hxy
    · rw [hxy]
      rfl
    · rfl
  rw [Machine.jumpTarget, Machine.jumpTarget, hfield]

lemma jumpIfZero_set_withB (core : Core size) (p : Player) (ins : Cell) (ip x y : Address size)
    (f : Int32) :
    jumpIfZero (core.set y (Machine.withB (core.get y) p f)) ins ip.word x.word y.word =
      some (if f = 0 then Machine.jumpTarget core ins ip x else .wrap (ip.word + 1)).word := by
  rw [jumpIfZero_eq, jumpTarget_set_withB, Core.get_set_self]
  rfl

/-- An instruction is executed without failing, and does to the core and the pointer what its effect
does. -/
lemma execute_eq (core : Core size) (p : Player) (ins : Cell) (ip x y : Address size) :
    execute core p ins ip.word x.word y.word =
      some ((Machine.effect core p ins ip x y).map fun e => (e.apply core, e.next.word)) := by
  unfold execute Machine.effect
  cases ins.opcode.operation? with
  | none => rfl
  | some op =>
    cases op with
    | dat => rfl
    | mov =>
      simp only [Core.cellAt?_word, Core.putAt?_word, putB_eq, Address.reduce_eq_word,
        Option.bind_eq_bind, Option.bind_some, Machine.moved]
      split_ifs <;> rfl
    | add | sub =>
      simp only [Core.cellAt?_word, summand_eq, putB_eq, Address.reduce_eq_word,
        Option.bind_eq_bind, Option.bind_some]
      rfl
    | jmp =>
      simp only [jump_eq, Option.bind_eq_bind, Option.bind_some]
      rfl
    | jmz =>
      simp only [jumpIfZero_eq, Option.bind_eq_bind, Option.bind_some]
      rfl
    | djz =>
      simp only [Core.cellAt?_word, putB_eq, jumpIfZero_set_withB, Option.bind_eq_bind,
        Option.bind_some]
      rfl
    | cmp =>
      simp only [Core.cellAt?_word, Address.reduce_eq_word, Option.bind_eq_bind, Option.bind_some]
      change some (Except.ok (core, (Address.wrap (if Machine.differs core ins x y = true then
        ip.word + 2 else ip.word + 1)).word)) = _
      rw [apply_ite Address.wrap]
      rfl

/-- A turn on words never fails, and is the turn of the machine. -/
lemma step_eq (m : Machine size) (p : Player) : step m p = some (m.step p) := by
  have hip : size.reduce (m.ip.get p) = (m.fetchAddress p).word := Address.reduce_eq_word _
  have hins : m.core.cellAt? (size.reduce (m.fetchAddress p).word) = some (m.fetched p) := by
    rw [Address.reduce_eq_word, Address.wrap_word, Core.cellAt?_word]
    rfl
  simp only [step, hip, hins, Sides.get_set_self, resolve_eq, Option.bind_eq_bind,
    Option.bind_some]
  cases ha : Machine.resolve m.core (m.fetchAddress p).word (m.fetched p).a with
  | none =>
    rw [Machine.step_of_error (Machine.turn_of_unresolved (.inl ha))]
    rfl
  | some x =>
    cases hb : Machine.resolve m.core (m.fetchAddress p).word (m.fetched p).b with
    | none =>
      rw [Machine.step_of_error (Machine.turn_of_unresolved (.inr hb))]
      rfl
    | some y =>
      have hturn := Machine.turn_of_resolve (p := p) ha hb
      simp only [Option.elim_some, execute_eq, Option.bind_some]
      cases he : Machine.effect m.core p (m.fetched p) (m.fetchAddress p) x y with
      | error f =>
        rw [Machine.step_of_error (hturn.trans he)]
        rfl
      | ok e =>
        rw [Machine.step_of_ok (hturn.trans he)]
        simp only [Except.map, Sides.set_set_self]
        rfl

end Indexed

namespace Machine

/-- No address leaves the core. An access fails exactly for a word that is not the number of a cell,
and on words no operand and no turn ever makes one that fails: an operand leads to the number of a
cell unless its mode is illegal, and a turn, whether it has a fault or not, is the turn of the
machine and leaves the pointer of its player on the number of a cell. -/
theorem step_within_core (m : Machine size) (p : Player) :
    -- accesses
    (∀ i : Int64, m.core.cellAt? i ≠ none ↔ 0 ≤ i.toInt ∧ i.toInt < size.count) ∧
    (∀ (i : Int64) (c : Cell),
      m.core.putAt? i c ≠ none ↔ 0 ≤ i.toInt ∧ i.toInt < size.count) ∧
    -- operands
    (∀ o, (Indexed.resolve m.core (m.ip.get p) o = some (.error .illegalMode) ∧
        resolve m.core (m.ip.get p) o = none) ∨
      ∃ w, Indexed.resolve m.core (m.ip.get p) o = some (.ok w) ∧
        (resolve m.core (m.ip.get p) o).map Address.word = some w ∧
        0 ≤ w.toInt ∧ w.toInt < size.count) ∧
    -- turns
    Indexed.step m p = some (m.step p) ∧
    0 ≤ ((m.step p).1.ip.get p).toInt ∧ ((m.step p).1.ip.get p).toInt < size.count := by
  refine ⟨?cells, ?puts, ?operands, Indexed.step_eq m p, ?pointer⟩
  case cells =>
    intro i
    rw [Core.cellAt?, ne_eq, Option.map_eq_none_iff]
    exact Address.ofIndex?_ne_none_iff
  case puts =>
    intro i c
    rw [Core.putAt?, ne_eq, Option.map_eq_none_iff]
    exact Address.ofIndex?_ne_none_iff
  case operands =>
    intro o
    rw [Indexed.resolve_eq]
    cases resolve m.core (m.ip.get p) o with
    | none => exact .inl ⟨rfl, rfl⟩
    | some x => exact .inr ⟨x.word, rfl, rfl, x.toInt_word_mem⟩
  case pointer =>
    obtain ⟨x, hx⟩ := step_ip m p
    rw [hx, Sides.get_set_self]
    exact x.toInt_word_mem

/-- A decrement with extreme fields under the last of all words for a pointer, to which nothing can
be added without wrapping round. -/
theorem step_within_core_wrapping :
    let decrement : Cell := ⟨.ofOperation .djz, ⟨.ofAddressing .immediate, Int32.minValue⟩,
      ⟨.ofAddressing .indirect, Int32.maxValue⟩, .nobody⟩
    let m : Machine ⟨3, by decide, by decide⟩ :=
      ⟨.fill decrement, ⟨Int64.maxValue, Int64.minValue⟩, .both .zero⟩
    Indexed.resolve m.core (m.ip.get .a) ⟨.ofAddressing .relative, 1⟩ = some (.ok 1) ∧
      m.core.cellAt? 3 = none ∧ m.core.cellAt? (-1) = none ∧ (m.step .a).2 = none ∧
      Indexed.step m .a = some (m.step .a) ∧
      0 ≤ ((m.step .a).1.ip.get .a).toInt ∧ ((m.step .a).1.ip.get .a).toInt < 3 := by
  intro decrement m
  obtain ⟨hcells, -, -, hstep, hpointer⟩ := step_within_core m .a
  refine ⟨by decide, ?_, ?_, by decide, hstep, hpointer⟩
  · exact not_not.mp fun hne => absurd ((hcells 3).mp hne) (by decide)
  · exact not_not.mp fun hne => absurd ((hcells (-1)).mp hne) (by decide)

end Machine

end CoreWar
