import CoreWar.Proofs.Assembler.Traces
import CoreWar.Proofs.Battle.Rotation

/-!
# From pointers back to source lines

The offset of a player is how far the player's pointer is from the origin of the warrior, counted on
round the ring. It is below the length of the warrior exactly while the pointer is in the span that
the warrior was loaded to, and then it finds the line whose cell was written there
(`instructionAt?_offset`).
-/

namespace CoreWar

variable {size : CoreSize}

/-! ### Spans and programs -/

/-- A span that goes round at most once holds the addresses at distances below its length. -/
lemma Address.advance_mem_span (x : Address size) {k n : Nat} (hk : k < size.count)
    (hn : n ≤ size.count) : x.advance k ∈ x.span n ↔ k < n := by
  rw [mem_span]
  constructor
  · rintro ⟨j, hj, heq⟩
    rw [advance_inj x (by omega) hk] at heq
    omega
  · intro h
    exact ⟨k, h, rfl⟩

namespace Program

lemma length_cells (p : Program) : p.cells.length = p.length :=
  List.length_map _

/-- An offset that is an address finds the instruction at its number. -/
lemma instructionAt?_word (p : Program) (x : Address size) :
    p.instructionAt? x.word = p.instructions[x.val]? := by
  rw [instructionAt?_of_nonneg p x.toInt_word_mem.1, Address.toInt_word, Int.toNat_natCast]

end Program

namespace Battle

/-! ### Offsets -/

/-- The offset is the distance from the origin to the pointer. -/
lemma Consistent.toInt_origin_add_offset {b : Battle size} (h : b.Consistent) (p : Player) :
    ((b.origin.get p).toInt + (b.offset p).val) % size.count = (b.machine.ip.get p).toInt := by
  obtain ⟨hnonneg, hlt⟩ := h.ip p
  have hcancel : (b.origin.get p).toInt + ((b.machine.ip.get p).toInt - (b.origin.get p).toInt) =
      (b.machine.ip.get p).toInt := by
    omega
  rw [offset_eq_ofInt (h.ip p) (h.origin p), Address.val_ofInt, Int.add_emod_emod, hcancel]
  exact Int.emod_eq_of_lt hnonneg hlt

/-- Counting on by the offset leads from the origin to the pointer. -/
lemma Consistent.advance_offset {b : Battle size} (h : b.Consistent) (p : Player) :
    (Address.wrap (b.origin.get p)).advance (b.offset p) = b.machine.fetchAddress p := by
  rw [Address.wrap, Address.advance_ofInt, Machine.fetchAddress, Address.wrap,
    ← h.toInt_origin_add_offset, Address.ofInt_eq_ofInt_iff, Int.emod_emod]

/-! ### Warriors in the core -/

/-- A load writes the cells of each program one after the other from the player's origin on. -/
lemma Loaded.get_advance {b loaded : Battle size} {programs : Sides Program} {start : Address size}
    {gap : Nat} (h : b.Loaded programs.a.cells programs.b.cells start gap loaded) (p : Player)
    {k : Nat} {ins : Instruction} (hins : (programs.get p).instructions[k]? = some ins) :
    loaded.machine.core.get ((Address.wrap (loaded.origin.get p)).advance k) = ins.cell := by
  have horigin : Address.wrap (loaded.origin.get p) =
      (⟨start, secondStart programs.a.cells start gap⟩ : Sides (Address size)).get p := by
    rw [← h.fetchAddress p, Machine.fetchAddress, h.ip]
  have hcell : (programs.get p).cells[k]? = some ins.cell := by
    rw [Program.cells, List.getElem?_map, hins, Option.map_some]
  obtain ⟨hk, hget⟩ := List.getElem?_eq_some_iff.mp hcell
  rw [horigin, ← hget]
  cases p with
  | a => exact h.firstCells k hk
  | b => exact h.secondCells k hk

/-- A loaded match can be followed in the sources of its warriors. After any number of cycles the
offset of a player is in range and leads from the origin of the player's warrior to the pointer. It
finds a line exactly if the pointer is in the span that the warrior was loaded to, and then the line
is the one whose cell the load has written where the pointer is. -/
theorem instructionAt?_offset {b loaded : Battle size} {programs : Sides Program}
    (hload : b.LoadsTo programs.a.cells programs.b.cells loaded) (n : Nat) (p : Player) :
    let current := tick^[n] loaded
    let program := programs.get p
    let start : Address size := .wrap (loaded.origin.get p)
    let ip : Address size := .wrap (current.machine.ip.get p)
    -- offsets
    InRange size (current.offset p).word ∧
    ((current.origin.get p).toInt + (current.offset p).word.toInt) % size.count =
      (current.machine.ip.get p).toInt ∧
    -- where the load has put the warrior
    (∀ k ins, program.instructions[k]? = some ins →
      loaded.machine.core.get (start.advance k) = ins.cell) ∧
    -- lines
    ((program.instructionAt? (current.offset p).word).isSome = true ↔
      ip ∈ start.span program.length) ∧
    ∀ k ins, program.instructions[k]? = some ins → start.advance k = ip →
      program.instructionAt? (current.offset p).word = some ins ∧
        loaded.machine.core.get ip = ins.cell := by
  intro current program start ip
  obtain ⟨place, gap, hloaded⟩ := hload.exists_loaded
  have hconsistent : current.Consistent := hload.consistent.iterate_tick n
  have hip : start.advance (current.offset p) = ip := by
    have hadvance := hconsistent.advance_offset p
    rw [origin_iterate_tick loaded n] at hadvance
    exact hadvance
  have hlength : program.length ≤ size.count := by
    have hfit := hload.1
    rw [Program.length_cells, Program.length_cells] at hfit
    cases p with
    | a => exact Nat.le_of_add_right_le hfit
    | b => exact Nat.le_of_add_left_le hfit
  have hwritten : ∀ k ins, program.instructions[k]? = some ins →
      loaded.machine.core.get (start.advance k) = ins.cell := by
    intro k ins hins
    exact hloaded.get_advance p hins
  refine ⟨inRange_word _, ?_, hwritten, ?_, ?_⟩
  · rw [Address.toInt_word]
    exact hconsistent.toInt_origin_add_offset p
  · rw [Program.instructionAt?_word, Option.isSome_iff_ne_none, ne_eq, List.getElem?_eq_none_iff,
      Nat.not_le, ← hip, Address.advance_mem_span start (current.offset p).isLt hlength]
    rfl
  · intro k ins hins hk
    have hlt : k < program.length := (List.getElem?_eq_some_iff.mp hins).1
    have hoffset : k = (current.offset p).val :=
      (start.advance_inj (by omega) (current.offset p).isLt).mp (hk.trans hip.symm)
    refine ⟨?_, hk ▸ hwritten k ins hins⟩
    rw [Program.instructionAt?_word, ← hoffset, hins]

/-- A warrior across the end of the addresses, in which the pointer has moved on to the second
instruction, and one that has jumped out of its span. -/
theorem instructionAt?_offset_across_end :
    let assembled (p : Player) (t : Text) : Program :=
      (Assembler.new.assemble Script.standard (.ofPlayer p) ⟨t, none⟩).1.program
    let programs : Sides Program := ⟨assembled .a "; loop\nJMP 1\nJMP -1", assembled .b "JMP 1"⟩
    let back : Cell := ⟨.ofOperation .jmp, ⟨⟨1⟩, -1⟩, ⟨⟨1⟩, -1⟩, .ofPlayer .a⟩
    let b : Battle ⟨4, by decide, by decide⟩ := blank ⟨0⟩
    let loaded := b.place programs.a.cells programs.b.cells 3 0
    let current := tick^[1] loaded
    b.LoadsTo programs.a.cells programs.b.cells loaded ∧
      (loaded.origin = ⟨3, 1⟩ ∧ current.machine.ip = ⟨0, 2⟩) ∧
      (programs.get .a).instructionAt? (current.offset .a).word = some ⟨3, "JMP -1", back⟩ ∧
      (programs.get .b).instructionAt? (current.offset .b).word = none := by
  intro assembled programs back b loaded current
  have hload : b.LoadsTo programs.a.cells programs.b.cells loaded :=
    ⟨by decide +kernel, 3, 0, ⟨0⟩, by decide +kernel, rfl⟩
  obtain ⟨-, -, -, -, hline⟩ := instructionAt?_offset hload 1 .a
  obtain ⟨-, -, -, hspan, -⟩ := instructionAt?_offset hload 1 .b
  have houtside : ¬((programs.get .b).instructionAt? (current.offset .b).word).isSome = true :=
    hspan.not.mpr (by decide +kernel)
  refine ⟨hload, by decide +kernel, ?_, Option.not_isSome_iff_eq_none.mp houtside⟩
  exact (hline 1 ⟨3, "JMP -1", back⟩ (by decide +kernel) (by decide +kernel)).1

end Battle

end CoreWar
