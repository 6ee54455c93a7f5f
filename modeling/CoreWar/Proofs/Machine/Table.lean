import CoreWar.Proofs.Machine.Step

/-!
# The table of instructions

The table says over mathematical integers what each operation does: addresses are integers modulo
the number of cells, fields are integers, and only the results of arithmetic are reduced to 32 bits.
It reads operation by operation as a sequence of assignments, so an operation that writes and then
reads on, reads what it has written.

A turn of the machine is what the table says (`step_eq_table`), although the machine computes with
words, reads everything before it writes, and may find its instruction, the pointers of its
operands, its source and its target in one and the same cell.
-/

namespace CoreWar

namespace Table

/-! ### The states of the table -/

structure Entry where
  opcode : Opcode
  modeA : Mode
  fieldA : Int
  modeB : Mode
  fieldB : Int
  owner : Owner

/-- What stands at each integer address. -/
abbrev Memory := Int → Entry

/-- A machine with integers for pointers and fields. -/
structure State where
  memory : Memory
  ip : Sides Int
  last : Sides Entry

/-- An integer reduced to a signed number of 32 bits. -/
def reduce (i : Int) : Int :=
  i.bmod 0x100000000

/-! ### Rows -/

/-- The address of an operand of the instruction at `ip` in a core of `n` cells. -/
def address (n : Nat) (mem : Memory) (ip field : Int) : Addressing → Int
  | .immediate => ip
  | .relative => (ip + field) % n
  | .indirect =>
    let i := (ip + field) % n
    (i + (mem i).fieldB) % n

/-- The memory of `n` cells with the entry at `b` replaced. -/
def write (n : Nat) (mem : Memory) (b : Int) (e : Entry) : Memory :=
  fun i => if i % n = b then e else mem i

/-- The memory with `v` as the B field at `b`, written by a player. -/
def writeB (n : Nat) (mem : Memory) (p : Player) (b v : Int) : Memory :=
  write n mem b { mem b with fieldB := reduce v, owner := .ofPlayer p }

/-- The summand of an addition: the A field of an immediate operand and the B field of any other. -/
def summand (mem : Memory) (α : Addressing) (a : Int) : Int :=
  if α = .immediate then (mem a).fieldA else (mem a).fieldB

def target (mem : Memory) (α : Addressing) (ip a : Int) : Int :=
  if α = .immediate then ip + (mem a).fieldA else a

/-- Whether a comparison finds a difference. -/
def Differ (mem : Memory) (α β : Addressing) (a b : Int) : Prop :=
  if α ≠ .immediate ∧ β = .immediate then (mem a).fieldB ≠ (mem b).fieldB
  else if α = .immediate then (mem a).fieldA ≠ (mem b).fieldB
  else (mem a).fieldA ≠ (mem b).fieldA ∨ (mem a).fieldB ≠ (mem b).fieldB

instance (mem : Memory) (α β : Addressing) (a b : Int) : Decidable (Differ mem α β a b) :=
  inferInstanceAs (Decidable (ite _ _ _))

/-- What the table says of an operation of player `p` at `ip` with operands of the modes `α` and `β`
at `a` and `b`: the memory afterwards and where the player goes on. Data has no row. -/
def row (n : Nat) (p : Player) (α β : Addressing) (ip a b : Int) (mem : Memory) :
    Operation → Option (Memory × Int)
  | .dat => none
  | .mov =>
    if α = .immediate then some (writeB n mem p b (mem a).fieldA, ip + 1)
    else if β = .immediate then some (writeB n mem p b (mem a).fieldB, ip + 1)
    else some (write n mem b { mem a with owner := .ofPlayer p }, ip + 1)
  | .add => some (writeB n mem p b ((mem b).fieldB + summand mem α a), ip + 1)
  | .sub => some (writeB n mem p b ((mem b).fieldB - summand mem α a), ip + 1)
  | .jmp => some (mem, target mem α ip a)
  | .jmz => some (mem, if (mem b).fieldB = 0 then target mem α ip a else ip + 1)
  | .djz =>
    let mem := writeB n mem p b ((mem b).fieldB - 1)
    some (mem, if (mem b).fieldB = 0 then target mem α ip a else ip + 1)
  | .cmp => some (mem, if Differ mem α β a b then ip + 2 else ip + 1)

/-- A turn of player `p` with an operation and the modes of its operands, in a core of `n` cells. -/
def turn (n : Nat) (p : Player) (op : Operation) (α β : Addressing) (s : State) : Option State :=
  let ip := s.ip.get p % n
  let ins := s.memory ip
  let a := address n s.memory ip ins.fieldA α
  let b := address n s.memory ip ins.fieldB β
  (row n p α β ip a b s.memory op).map fun (mem, next) =>
    ⟨mem, s.ip.set p (next % n), s.last.set p ins⟩

/-! ### The machine as a state of the table -/

variable {size : CoreSize}

def Entry.ofCell (c : Cell) : Entry :=
  ⟨c.opcode, c.a.mode, c.a.field.toInt, c.b.mode, c.b.field.toInt, c.owner⟩

/-- The core as a memory, in which every address repeats round the ring. -/
def Memory.ofCore (core : Core size) : Memory :=
  fun i => .ofCell (core.get (.ofInt i))

def State.ofMachine (m : Machine size) : State where
  memory := Memory.ofCore m.core
  ip := ⟨m.ip.a.toInt, m.ip.b.toInt⟩
  last := ⟨.ofCell m.last.a, .ofCell m.last.b⟩

lemma Entry.ofCell_injective : Function.Injective Entry.ofCell := by
  rintro ⟨o, ⟨ma, fa⟩, ⟨mb, fb⟩, w⟩ ⟨o', ⟨ma', fa'⟩, ⟨mb', fb'⟩, w'⟩ h
  simp only [ofCell, Entry.mk.injEq, Int32.toInt_inj] at h
  obtain ⟨rfl, rfl, rfl, rfl, rfl, rfl⟩ := h
  rfl

/-- No two machines are the same state. -/
lemma State.ofMachine_injective :
    Function.Injective (State.ofMachine : Machine size → State) := by
  rintro ⟨c, ⟨i, j⟩, ⟨k, l⟩⟩ ⟨c', ⟨i', j'⟩, ⟨k', l'⟩⟩ h
  simp only [ofMachine, State.mk.injEq, Sides.mk.injEq, Int64.toInt_inj] at h
  obtain ⟨hcore, ⟨rfl, rfl⟩, hk, hl⟩ := h
  obtain rfl := Entry.ofCell_injective hk
  obtain rfl := Entry.ofCell_injective hl
  have hget : ∀ x, c.get x = c'.get x := by
    intro x
    have hx := congrFun hcore x.val
    simp only [Memory.ofCore, Address.ofInt_val] at hx
    exact Entry.ofCell_injective hx
  rw [Core.ext_get hget]

/-! ### Fields -/

lemma reduce_toInt (f : Int32) : reduce f.toInt = f.toInt := by
  have hlow := Int32.le_toInt f
  have hlt := Int32.toInt_lt f
  apply Int.bmod_eq_of_le <;> omega

lemma reduce_add (f g : Int32) : reduce (f.toInt + g.toInt) = (f + g).toInt :=
  (Int32.toInt_add f g).symm

lemma reduce_sub (f g : Int32) : reduce (f.toInt - g.toInt) = (f - g).toInt :=
  (Int32.toInt_sub f g).symm

/-! ### Memories -/

@[simp] lemma ofCore_val (core : Core size) (x : Address size) :
    Memory.ofCore core x.val = .ofCell (core.get x) := by
  rw [Memory.ofCore, Address.ofInt_val]

lemma ofCore_set (core : Core size) (y : Address size) (c : Cell) :
    Memory.ofCore (core.set y c) = write size.count (Memory.ofCore core) y.val (.ofCell c) := by
  funext i
  have hy : i % size.count = y.val ↔ (Address.ofInt i : Address size) = y := by
    rw [← Address.val_ofInt, Int.ofNat_inj, Fin.ext_iff]
  simp only [Memory.ofCore, write, Core.get_set, hy]
  split_ifs <;> rfl

lemma ofCore_set_withB (core : Core size) (p : Player) (y : Address size) {f : Int32} {v : Int}
    (h : reduce v = f.toInt) :
    Memory.ofCore (core.set y (Machine.withB (core.get y) p f)) =
      writeB size.count (Memory.ofCore core) p y.val v := by
  rw [ofCore_set, writeB, h, ofCore_val]
  rfl

/-! ### Addresses -/

/-- An operand of a legal mode is resolved to the address that the table gives. -/
lemma resolve_eq_address (hsize : size.count + 0x80000000 < 0x8000000000000000)
    (core : Core size) (ip : Address size) {o : Operand} {α : Addressing}
    (ho : o.mode = .ofAddressing α) :
    ∃ x : Address size, Machine.resolve core ip.word o = some x ∧
      address size.count (Memory.ofCore core) ip.val o.field.toInt α = x.val := by
  cases α with
  | immediate =>
    refine ⟨ip, ?_, rfl⟩
    simp [Machine.resolve, ho]
  | relative =>
    refine ⟨.ofInt (ip.val + o.field.toInt), ?_, (Address.val_ofInt _).symm⟩
    simp [Machine.resolve, ho, Address.wrap_word_add_field hsize]
  | indirect =>
    obtain ⟨i, hi⟩ : ∃ i : Address size, i = .ofInt (ip.val + o.field.toInt) := ⟨_, rfl⟩
    have hval : (ip.val + o.field.toInt) % size.count = i.val := by
      rw [hi, Address.val_ofInt]
    refine ⟨.ofInt (i.val + (core.get i).b.field.toInt), ?_, ?_⟩
    · simp [Machine.resolve, ho, Address.wrap_word_add_field hsize, hi]
    · simp only [address, hval, ofCore_val, Address.val_ofInt]
      rfl

lemma summand_eq (core : Core size) {ins : Cell} {α : Addressing}
    (ha : ins.a.mode = .ofAddressing α) (x : Address size) :
    summand (Memory.ofCore core) α x.val = (Machine.operandA core ins x).toInt := by
  simp only [summand, Machine.operandA, ha, Mode.isImmediate_ofAddressing, decide_eq_true_eq,
    ofCore_val]
  split_ifs <;> rfl

lemma val_following (ip : Address size)
    (hsize : size.count + 0x80000000 < 0x8000000000000000) {k : Int64} (hk : k.toInt ≤ 2) :
    ((Address.wrap (ip.word + k) : Address size).val : Int) = (ip.val + k.toInt) % size.count := by
  rw [Address.wrap_word_add ip (by omega), Address.val_ofInt]

lemma val_jumpTarget (hsize : size.count + 0x80000000 < 0x8000000000000000)
    (core : Core size) {ins : Cell} {α : Addressing} (ha : ins.a.mode = .ofAddressing α)
    (ip x : Address size) :
    ((Machine.jumpTarget core ins ip x).val : Int) =
      target (Memory.ofCore core) α ip.val x.val % size.count := by
  simp only [Machine.jumpTarget, target, ha, Mode.isImmediate_ofAddressing, decide_eq_true_eq,
    ofCore_val]
  split_ifs
  · rw [Address.wrap_word_add_field hsize, Address.val_ofInt]
    rfl
  · rw [← Address.val_ofInt, Address.ofInt_val]

/-- Where a player goes on who jumps if a field is zero. -/
lemma val_jump_if_zero (hsize : size.count + 0x80000000 < 0x8000000000000000)
    (core : Core size) {ins : Cell} {α : Addressing} (ha : ins.a.mode = .ofAddressing α)
    (ip x : Address size) (f : Int32) :
    ((if f = 0 then Machine.jumpTarget core ins ip x else .wrap (ip.word + 1) :
        Address size).val : Int) =
      (if f.toInt = 0 then target (Memory.ofCore core) α ip.val x.val else ip.val + 1) %
        size.count := by
  have hzero : f.toInt = 0 ↔ f = 0 := by
    rw [← Int32.toInt_zero, Int32.toInt_inj]
  simp only [hzero]
  split_ifs
  · exact val_jumpTarget hsize core ha ip x
  · exact val_following ip hsize (k := 1) (by decide)

/-- A jump leads to the same place after a B field has been written. -/
lemma target_writeB (n : Nat) (mem : Memory) (p : Player) (b v : Int) (α : Addressing)
    (ip : Int) {a : Int} (ha : a % n = a) :
    target (writeB n mem p b v) α ip a = target mem α ip a := by
  simp only [target, writeB, write]
  split_ifs with hα hab
  · rw [← hab, ha]
  · rfl
  · rfl

lemma val_emod (x : Address size) : (x.val : Int) % size.count = x.val := by
  rw [← Address.val_ofInt, Address.ofInt_val]

lemma differ_iff (core : Core size) {ins : Cell} {α β : Addressing}
    (ha : ins.a.mode = .ofAddressing α) (hb : ins.b.mode = .ofAddressing β) (x y : Address size) :
    Differ (Memory.ofCore core) α β x.val y.val ↔ Machine.differs core ins x y = true := by
  simp only [Differ, Machine.differs, ha, hb, Mode.isImmediate_ofAddressing, decide_eq_true_eq,
    ofCore_val, Entry.ofCell, ne_eq, Int32.toInt_inj]
  by_cases hα : α = .immediate
  · simp [hα]
  · by_cases hβ : β = .immediate
    · simp [hα, hβ]
    · simp [hα, hβ]

/-! ### Turns -/

/-- The row of a decrement reads on in the memory that it has written, but finds there the field and
the jump that the core before the write gives. -/
lemma row_djz (core : Core size) (p : Player) (α β : Addressing) (ip x y : Address size) :
    row size.count p α β ip.val x.val y.val (Memory.ofCore core) .djz =
      some (Memory.ofCore (core.set y (Machine.withB (core.get y) p ((core.get y).b.field - 1))),
        if ((core.get y).b.field - 1).toInt = 0 then target (Memory.ofCore core) α ip.val x.val
        else ip.val + 1) := by
  have hwrite := ofCore_set_withB core p y (reduce_sub (core.get y).b.field 1)
  have hfield : (writeB size.count (Memory.ofCore core) p y.val
      ((core.get y).b.field.toInt - (1 : Int32).toInt) y.val).fieldB =
        ((core.get y).b.field - 1).toInt := by
    rw [← hwrite, ofCore_val, Core.get_set_self]
    rfl
  rw [hwrite, ← hfield, ← target_writeB _ _ p _ _ α ip.val (val_emod x)]
  simp only [row, ofCore_val]
  rfl

/-- The effect of an operation other than data is what its row says. -/
lemma effect_eq_row (hsize : size.count + 0x80000000 < 0x8000000000000000)
    (core : Core size) (p : Player) {ins : Cell} {op : Operation} {α β : Addressing}
    (hop : ins.opcode = .ofOperation op) (hdat : op ≠ .dat)
    (ha : ins.a.mode = .ofAddressing α) (hb : ins.b.mode = .ofAddressing β)
    (ip x y : Address size) :
    ∃ e next, Machine.effect core p ins ip x y = .ok e ∧
      row size.count p α β ip.val x.val y.val (Memory.ofCore core) op =
        some (Memory.ofCore (e.apply core), next) ∧
      (e.next.val : Int) = next % size.count := by
  have hfollowing := val_following ip hsize (k := 1) (by decide)
  have hjump := val_jumpTarget hsize core ha ip x
  unfold Machine.effect
  simp only [hop, Opcode.operation?_ofOperation]
  cases op with
  | dat => exact absurd rfl hdat
  | mov =>
    refine ⟨_, ip.val + 1, rfl, ?_, hfollowing⟩
    simp only [row, Machine.moved, ha, hb, Mode.isImmediate_ofAddressing, decide_eq_true_eq,
      Effect.apply]
    split_ifs
    · rw [ofCore_set_withB core p y (reduce_toInt _), ofCore_val]
      rfl
    · rw [ofCore_set_withB core p y (reduce_toInt _), ofCore_val]
      rfl
    · rw [ofCore_set, ofCore_val]
      rfl
  | add =>
    refine ⟨_, ip.val + 1, rfl, ?_, hfollowing⟩
    simp only [row, Effect.apply]
    rw [ofCore_set_withB core p y (reduce_add _ _), summand_eq core ha, ofCore_val]
    rfl
  | sub =>
    refine ⟨_, ip.val + 1, rfl, ?_, hfollowing⟩
    simp only [row, Effect.apply]
    rw [ofCore_set_withB core p y (reduce_sub _ _), summand_eq core ha, ofCore_val]
    rfl
  | jmp => exact ⟨_, _, rfl, rfl, hjump⟩
  | jmz =>
    refine ⟨_, _, rfl, rfl, ?_⟩
    rw [ofCore_val]
    exact val_jump_if_zero hsize core ha ip x _
  | djz => exact ⟨_, _, rfl, row_djz core p α β ip x y, val_jump_if_zero hsize core ha ip x _⟩
  | cmp =>
    refine ⟨_, _, rfl, rfl, ?_⟩
    simp only [← differ_iff core ha hb]
    split_ifs
    · exact val_following ip hsize (k := 2) (by decide)
    · exact hfollowing

/-- The address of operand B of the instruction that a player fetches next. -/
def targetOf (m : Machine size) (p : Player) (β : Addressing) : Address size :=
  .ofInt (address size.count (Memory.ofCore m.core) (m.fetchAddress p).val
    (m.fetched p).b.field.toInt β)

/-- What a turn of player `p` with an operation on operands of the modes `α` and `β` leaves alone,
and the marks that it leaves. -/
structure Confined (p : Player) (op : Operation) (α β : Addressing) (m m' : Machine size) :
    Prop where
  /-- Only the cell of operand B may change. -/
  elsewhere : ∀ x, x ≠ targetOf m p β → m'.core.get x = m.core.get x
  /-- Only some operations change it. -/
  readOnly : op ∉ Operation.writers → m'.core = m.core
  /-- A cell that is written belongs to the player. -/
  owned : op ∈ Operation.writers → (m'.core.get (targetOf m p β)).owner = .ofPlayer p
  /-- Only a `MOV` without an immediate operand writes more than the B field and the owner. -/
  fieldOnly : op ∈ Operation.writers → ¬(op = .mov ∧ α ≠ .immediate ∧ β ≠ .immediate) →
    ∃ f, m'.core.get (targetOf m p β) =
      { m.core.get (targetOf m p β) with b.field := f, owner := .ofPlayer p }
  /-- The player goes on at an address of the core. -/
  next : 0 ≤ (m'.ip.get p).toInt ∧ (m'.ip.get p).toInt < size.count
  /-- The player has fetched the cell under the pointer. -/
  last : m'.last.get p = m.fetched p
  /-- The other player's pointer stays. -/
  otherIp : m'.ip.get p.other = m.ip.get p.other
  /-- The other player's last instruction stays. -/
  otherLast : m'.last.get p.other = m.last.get p.other

lemma ofMachine_memory (m : Machine size) :
    (State.ofMachine m).memory = Memory.ofCore m.core := rfl

lemma ofMachine_ip (m : Machine size) (p : Player) :
    (State.ofMachine m).ip.get p % size.count = (m.fetchAddress p).val := by
  rw [Machine.fetchAddress, Address.wrap, Address.val_ofInt]
  cases p <;> rfl

lemma ofMachine_mk (core : Core size) (m : Machine size) (p : Player) (w : Int64) (c : Cell) :
    State.ofMachine ⟨core, m.ip.set p w, m.last.set p c⟩ =
      ⟨Memory.ofCore core, (State.ofMachine m).ip.set p w.toInt,
        (State.ofMachine m).last.set p (.ofCell c)⟩ := by
  cases p <;> rfl

/-- The turn of the machine and the turn of the table from the same state. -/
lemma exists_effect (hsize : size.count + 0x80000000 < 0x8000000000000000) (m : Machine size)
    (p : Player) {op : Operation} {α β : Addressing}
    (hop : (m.fetched p).opcode = .ofOperation op) (hdat : op ≠ .dat)
    (ha : (m.fetched p).a.mode = .ofAddressing α) (hb : (m.fetched p).b.mode = .ofAddressing β) :
    ∃ x e, Machine.turn m.core p (m.fetchAddress p) = .ok e ∧
      Machine.effect m.core p (m.fetched p) (m.fetchAddress p) x (targetOf m p β) = .ok e ∧
      turn size.count p op α β (.ofMachine m) = some (.ofMachine
        ⟨e.apply m.core, m.ip.set p e.next.word, m.last.set p (m.fetched p)⟩) := by
  obtain ⟨x, hx, hxa⟩ := resolve_eq_address hsize m.core (m.fetchAddress p) ha
  obtain ⟨y, hy, hyb⟩ := resolve_eq_address hsize m.core (m.fetchAddress p) hb
  obtain ⟨e, next, he, hrow, hnext⟩ :=
    effect_eq_row hsize m.core p hop hdat ha hb (m.fetchAddress p) x y
  have htarget : targetOf m p β = y := by
    rw [targetOf, hyb, Address.ofInt_val]
  have hins : Memory.ofCore m.core (m.fetchAddress p).val = .ofCell (m.fetched p) :=
    ofCore_val m.core (m.fetchAddress p)
  refine ⟨x, e, ?_, ?_, ?_⟩
  · rw [Machine.turn_of_resolve hx hy]
    exact he
  · rw [htarget]
    exact he
  · rw [ofMachine_mk, Address.toInt_word, hnext]
    simp only [turn, ofMachine_ip, ofMachine_memory]
    rw [hins]
    simp only [Entry.ofCell, hxa, hyb, hrow, Option.map_some]

/-- The step of an operation other than data writes only where and what it may. -/
lemma step_confined (hsize : size.count + 0x80000000 < 0x8000000000000000) (m : Machine size)
    (p : Player) {op : Operation} {α β : Addressing}
    (hop : (m.fetched p).opcode = .ofOperation op) (hdat : op ≠ .dat)
    (ha : (m.fetched p).a.mode = .ofAddressing α) (hb : (m.fetched p).b.mode = .ofAddressing β) :
    Confined p op α β m (m.step p).1 := by
  obtain ⟨x, e, hturn, heffect, -⟩ := exists_effect hsize m p hop hdat ha hb
  rw [Machine.step_of_ok hturn]
  refine ⟨?_, ?_, ?_, ?_, ?_, ?_, ?_, ?_⟩
  · intro z hz
    rcases Machine.effect_cases hop heffect with ⟨-, hw⟩ | ⟨-, f, hw⟩ | ⟨-, -, -, hw⟩
    · rw [Effect.apply_of_none hw]
    · rw [Effect.apply_of_some hw, Core.get_set_of_ne _ hz]
    · rw [Effect.apply_of_some hw, Core.get_set_of_ne _ hz]
  · intro hread
    rcases Machine.effect_cases hop heffect with ⟨-, hw⟩ | ⟨hwrite, -⟩ | ⟨rfl, -⟩
    · exact Effect.apply_of_none hw m.core
    · exact absurd hwrite hread
    · exact absurd (by decide) hread
  · intro hwrite
    rcases Machine.effect_cases hop heffect with ⟨hread, -⟩ | ⟨-, f, hw⟩ | ⟨-, -, -, hw⟩
    · exact absurd hwrite hread
    · rw [Effect.apply_of_some hw, Core.get_set_self]
      rfl
    · rw [Effect.apply_of_some hw, Core.get_set_self]
  · intro hwrite hwhole
    rcases Machine.effect_cases hop heffect with ⟨hread, -⟩ | ⟨-, f, hw⟩ | ⟨hmov, hα, hβ, -⟩
    · exact absurd hwrite hread
    · exact ⟨f, by rw [Effect.apply_of_some hw, Core.get_set_self]; rfl⟩
    · simp only [ha, hb, Mode.isImmediate_ofAddressing, decide_eq_false_iff_not] at hα hβ
      exact absurd ⟨hmov, hα, hβ⟩ hwhole
  · rw [Sides.get_set_self]
    exact Address.toInt_word_mem e.next
  · exact Sides.get_set_self _ _ _
  · exact Sides.get_set_other _ _ _
  · exact Sides.get_set_other _ _ _

end Table

namespace Machine

variable {size : CoreSize}

/-- A turn with a legal instruction other than data is that of the table of instructions over
mathematical integers, and leaves alone all that the table does not mention. -/
theorem step_eq_table (hsize : size.count + 0x80000000 < 0x8000000000000000) (m : Machine size)
    (p : Player) {op : Operation} {α β : Addressing}
    (hop : (m.fetched p).opcode = .ofOperation op) (hdat : op ≠ .dat)
    (ha : (m.fetched p).a.mode = .ofAddressing α) (hb : (m.fetched p).b.mode = .ofAddressing β) :
    (m.step p).2 = none ∧
      (∀ m' : Machine size,
        Table.turn size.count p op α β (.ofMachine m) = some (.ofMachine m') ↔
          m' = (m.step p).1) ∧
      Table.Confined p op α β m (m.step p).1 := by
  obtain ⟨x, e, hturn, -, htable⟩ := Table.exists_effect hsize m p hop hdat ha hb
  refine ⟨?_, ?_, Table.step_confined hsize m p hop hdat ha hb⟩
  · rw [step_of_ok hturn]
  · intro m'
    rw [htable, step_of_ok hturn, Option.some.injEq, Table.State.ofMachine_injective.eq_iff]
    exact eq_comm

/-- A decrement at the last address of the ring that finds its pointer, its target and itself in one
cell. -/
theorem step_eq_table_self_decrement :
    let m : Machine ⟨3, by decide, by decide⟩ :=
      ⟨.fill ⟨.ofOperation .djz, ⟨.ofAddressing .immediate, -2⟩, ⟨.ofAddressing .indirect, 3⟩,
        .nobody⟩, ⟨-1, 0⟩, .both .zero⟩
    (m.step .a).2 = none ∧
      Table.turn 3 .a .djz .immediate .indirect (.ofMachine m) = some (.ofMachine (m.step .a).1) ∧
      (m.step .a).1.core = m.core.set 2 (withB (m.core.get 2) .a 2) := by
  intro m
  have hop : (m.fetched .a).opcode = .ofOperation .djz := rfl
  have ha : (m.fetched .a).a.mode = .ofAddressing .immediate := rfl
  have hb : (m.fetched .a).b.mode = .ofAddressing .indirect := rfl
  obtain ⟨hfault, htable, -⟩ := step_eq_table (by decide) m .a hop (by decide) ha hb
  exact ⟨hfault, (htable _).mpr rfl, by decide⟩

end Machine

end CoreWar
