import CoreWar.Machine.Basic

/-!
# Turns

A turn of a player fetches the instruction under the player's pointer, resolves both operands in the
core as it is, and then either fails or has an effect: it writes at most one cell and moves the
pointer.

* `Machine.effect` is what an instruction does once its operands are resolved.
* `Machine.turn` is the effect of the instruction at an address.
* `Machine.step` applies it.
-/

namespace CoreWar

/-- What a turn does to the core and to the pointer of the player. -/
structure Effect (size : CoreSize) where
  /-- The cell that is written and its new content. -/
  write : Option (Address size × Cell)
  /-- Where the player goes on. -/
  next : Address size

def Effect.apply {size : CoreSize} (e : Effect size) (core : Core size) : Core size :=
  match e.write with
  | some (x, c) => core.set x c
  | none => core

namespace Machine

variable {size : CoreSize}

/-! ### Effects of instructions -/

/-- The operand A of an arithmetic instruction: the A field of the cell at `x` if the operand is
immediate, and otherwise its B field. -/
def operandA (core : Core size) (ins : Cell) (x : Address size) : Int32 :=
  if ins.a.mode.isImmediate then (core.get x).a.field else (core.get x).b.field

/-- The cell with another B field, written by a player. -/
def withB (c : Cell) (p : Player) (field : Int32) : Cell :=
  { c with b.field := field, owner := .ofPlayer p }

/-- Where a jump from `ip` leads: as far as the A field says if the operand is immediate, and
otherwise to the address of operand A. -/
def jumpTarget (core : Core size) (ins : Cell) (ip x : Address size) : Address size :=
  if ins.a.mode.isImmediate then .wrap (ip.word + (core.get x).a.field.toInt64) else x

/-- What a `MOV` leaves in the cell at `y`: a field of the cell at `x` in place of the B field if
one of the operands is immediate, and otherwise the whole cell. -/
def moved (core : Core size) (p : Player) (ins : Cell) (x y : Address size) : Cell :=
  if ins.a.mode.isImmediate then withB (core.get y) p (core.get x).a.field
  else if ins.b.mode.isImmediate then withB (core.get y) p (core.get x).b.field
  else { core.get x with owner := .ofPlayer p }

/-- Whether a `CMP` finds a difference between the cells at `x` and `y`. -/
def differs (core : Core size) (ins : Cell) (x y : Address size) : Bool :=
  if ins.a.mode.isImmediate then (core.get x).a.field != (core.get y).b.field
  else if ins.b.mode.isImmediate then (core.get x).b.field != (core.get y).b.field
  else (core.get x).a.field != (core.get y).a.field || (core.get x).b.field != (core.get y).b.field

/-- The effect of the instruction `ins` at `ip` with the operands at `x` and `y`. -/
def effect (core : Core size) (p : Player) (ins : Cell) (ip x y : Address size) :
    Except Fault (Effect size) :=
  let following : Address size := .wrap (ip.word + 1)
  match ins.opcode.operation? with
  | none => .error .illegalOpcode
  | some .dat => .error .datExecuted
  | some .mov => .ok ⟨some (y, moved core p ins x y), following⟩
  | some .add =>
    .ok ⟨some (y, withB (core.get y) p ((core.get y).b.field + operandA core ins x)), following⟩
  | some .sub =>
    .ok ⟨some (y, withB (core.get y) p ((core.get y).b.field - operandA core ins x)), following⟩
  | some .jmp => .ok ⟨none, jumpTarget core ins ip x⟩
  | some .jmz =>
    .ok ⟨none, if (core.get y).b.field = 0 then jumpTarget core ins ip x else following⟩
  | some .djz =>
    let field := (core.get y).b.field - 1
    .ok ⟨some (y, withB (core.get y) p field),
      if field = 0 then jumpTarget core ins ip x else following⟩
  | some .cmp => .ok ⟨none, if differs core ins x y then .wrap (ip.word + 2) else following⟩

/-- The effect of a turn of player `p` with the instruction at `ip`. -/
def turn (core : Core size) (p : Player) (ip : Address size) : Except Fault (Effect size) :=
  let ins := core.get ip
  match resolve core ip.word ins.a, resolve core ip.word ins.b with
  | some x, some y => effect core p ins ip x y
  | _, _ => .error .illegalMode

/-! ### Steps -/

/-- Where the turn of a player takes place. -/
def fetchAddress (m : Machine size) (p : Player) : Address size :=
  .wrap (m.ip.get p)

/-- One turn of a player: the machine afterwards, and the fault if the player cannot go on. A fault
leaves the core as it was, and the pointer on the instruction at fault. -/
def step (m : Machine size) (p : Player) : Machine size × Option Fault :=
  let ip := m.fetchAddress p
  -- the core is taken out of the machine, so that nothing else holds it
  let ⟨core, ips, last⟩ := m
  let last := last.set p (core.get ip)
  match turn core p ip with
  | .error f => (⟨core, ips.set p ip.word, last⟩, some f)
  | .ok e => (⟨e.apply core, ips.set p e.next.word, last⟩, none)

/-! ### Logging -/

/-- What is logged about a player and the place of a turn. -/
def logLine (p : Player) (ip : Address size) (what : Text) : Text :=
  "mars: " ++ (Owner.ofPlayer p).letter ++ " [" ++ Text.ofNat ip.val ++ "]: " ++ what

/-- The lines that a logged step writes: the instruction, and the fault if there is one. -/
def stepLog (m : Machine size) (p : Player) : List Text :=
  let ip := m.fetchAddress p
  logLine p ip (m.core.get ip).render ::
    match turn m.core p ip with
    | .error f => [logLine p ip (Reason.ofFault f).message]
    | .ok _ => []

def resetLog : List Text :=
  ["mars: reset"]

end Machine

end CoreWar
