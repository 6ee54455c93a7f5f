import CoreWar.Proofs.Battle.Request
import CoreWar.Proofs.Core.Span

/-!
# Where a load puts the warriors

A load succeeds exactly if the warriors fit. It then makes two draws with positive bounds, and
whatever they are, the two spans that the warriors fill do not meet, the rest of the core is unused,
and nothing is left of the match before (`load_places`).

`Loaded` says what a loaded match is, and it says all of it but the generator (`Loaded.unique`).
-/

namespace CoreWar

variable {size : CoreSize}

/-! ### Draws -/

/-- A source of random numbers, of which nothing is known but that a draw is below its bound. A
bound has to be positive. -/
structure Dice (σ : Type) where
  draw : (n : Nat) → 0 < n → σ → Fin n × σ

/-- The generator of a match as a source. -/
def Dice.pcg : Dice Pcg where
  draw n hn g := (⟨(g.below n).1, Pcg.below_lt hn g⟩, (g.below n).2)

namespace Battle

lemma gapCount_pos (first second : List Cell) : 0 < gapCount size first second :=
  Nat.succ_pos _

/-- The distances for the second warrior are all those that leave it in front of the first one. -/
lemma toInt_gapCount {first second : List Cell}
    (hfit : first.length + second.length ≤ size.count) :
    (gapCount size first second : Int) = size.count - first.length - second.length + 1 := by
  unfold gapCount
  omega

/-- The match with both warriors loaded by the draws of a source in the state `s`, and the source
after them, or both as they were and why the warriors could not be loaded. -/
def loadBy {σ : Type} (dice : Dice σ) (s : σ) (b : Battle size) (first second : List Cell) :
    (Battle size × σ) × Option LoadError :=
  if size.count < first.length + second.length then
    ((b, s), some ⟨⟨first.length, second.length⟩, size.count⟩)
  else
    let (start, s) := dice.draw size.count size.pos s
    let (gap, s) := dice.draw (gapCount size first second) (gapCount_pos first second) s
    ((b.place first second start gap, s), none)

/-- A load is one by the draws of the generator of the match. -/
lemma load_eq_loadBy (b : Battle size) (first second : List Cell) :
    b.load first second =
      let ((loaded, generator), error?) := loadBy .pcg b.generator b first second
      ({ loaded with generator := generator }, error?) := by
  unfold load loadBy
  split_ifs
  · rfl
  · let start : Address size := ⟨(b.generator.below size.count).1, Pcg.below_lt size.pos _⟩
    have hstart : Address.ofInt ((b.generator.below size.count).1 : Int) = start :=
      Address.ofInt_val start
    simp only [Dice.pcg, hstart, start]

/-! ### Loaded matches -/

def secondStart (first : List Cell) (start : Address size) (gap : Nat) : Address size :=
  start.advance (first.length + gap)

/-- What comes of the match `b` by a load of two warriors, the first one at `start` and the second
one `gap` cells after its end. -/
structure Loaded (b : Battle size) (first second : List Cell) (start : Address size) (gap : Nat)
    (loaded : Battle size) : Prop where
  originA : loaded.origin.a.toInt = start.val
  originB : loaded.origin.b.toInt = ((start.val + first.length + gap) % size.count : Nat)
  ip : loaded.machine.ip = loaded.origin
  firstCells : ∀ k (hk : k < first.length),
    loaded.machine.core.get (start.advance k) = first[k]
  secondCells : ∀ k (hk : k < second.length),
    loaded.machine.core.get ((secondStart first start gap).advance k) = second[k]
  disjoint : ∀ z ∈ start.span first.length, z ∉ (secondStart first start gap).span second.length
  elsewhere : ∀ z, z ∉ start.span first.length →
    z ∉ (secondStart first start gap).span second.length → loaded.machine.core.get z = .empty
  cycle : loaded.cycle = 0
  status : loaded.status = .running
  reason : loaded.reason = .none
  blamed : loaded.blamed = .nobody
  last : loaded.machine.last = .both .zero
  maxCycle : loaded.maxCycle = b.maxCycle
  verbose : loaded.verbose = b.verbose
  traced : loaded.traced = b.verbose

/-- Warriors that fit are loaded wherever they are placed, and whatever will be drawn later. -/
lemma loaded_place (b : Battle size) {first second : List Cell}
    (hfit : first.length + second.length ≤ size.count) (start : Address size) {gap : Nat}
    (hgap : gap < gapCount size first second) (generator : Pcg) :
    b.Loaded first second start gap
      { b.place first second start gap with generator := generator } := by
  have hround : first.length + gap + second.length ≤ size.count := by
    unfold gapCount at hgap
    omega
  have hdisjoint : ∀ z ∈ start.span first.length,
      z ∉ (secondStart first start gap).span second.length :=
    fun z hz => Address.notMem_span_of_mem_span hround hz
  refine ⟨?_, ?_, rfl, ?_, ?_, hdisjoint, ?_, rfl, rfl, rfl, rfl, rfl, rfl, rfl, rfl⟩
  · exact Address.toInt_word start
  · rw [Nat.add_assoc]
    exact Address.toInt_word (start.advance (first.length + gap))
  · intro k hk
    have hspan : start.advance k ∈ start.span first.length := Address.mem_span.mpr ⟨k, hk, rfl⟩
    exact (Core.get_setFrom_of_notMem _ (hdisjoint _ hspan)).trans
      (Core.get_setFrom_advance _ start (by omega) hk)
  · intro k hk
    exact Core.get_setFrom_advance _ _ (by omega) hk
  · intro z hfirst hsecond
    calc (b.place first second start gap).machine.core.get z
      _ = ((Core.blank : Core size).setFrom start first).get z :=
        Core.get_setFrom_of_notMem _ hsecond
      _ = (Core.blank : Core size).get z := Core.get_setFrom_of_notMem _ hfirst
      _ = .empty := Core.get_blank z

lemma LoadsTo.exists_loaded {b loaded : Battle size} {first second : List Cell}
    (h : b.LoadsTo first second loaded) : ∃ start gap, b.Loaded first second start gap loaded := by
  obtain ⟨hfit, start, gap, generator, hgap, rfl⟩ := h
  exact ⟨start, gap, b.loaded_place hfit start hgap generator⟩

namespace Loaded

variable {b b' loaded loaded' : Battle size} {first second : List Cell} {start : Address size}
  {gap : Nat}

lemma origin_eq (h : b.Loaded first second start gap loaded) :
    loaded.origin = ⟨start.word, (secondStart first start gap).word⟩ := by
  have ha : loaded.origin.a = start.word := by
    rw [← Int64.toInt_inj, h.originA, Address.toInt_word]
  have hb : loaded.origin.b = (secondStart first start gap).word := by
    rw [← Int64.toInt_inj, h.originB, Address.toInt_word, Nat.add_assoc]
    rfl
  rw [← ha, ← hb]

/-- After a load each player is at the start of the player's warrior. -/
lemma fetchAddress (h : b.Loaded first second start gap loaded) (p : Player) :
    loaded.machine.fetchAddress p =
      (⟨start, secondStart first start gap⟩ : Sides (Address size)).get p := by
  rw [Machine.fetchAddress, h.ip, h.origin_eq]
  cases p <;> exact Address.wrap_word _

lemma core_eq (h : b.Loaded first second start gap loaded)
    (h' : b'.Loaded first second start gap loaded') :
    loaded'.machine.core = loaded.machine.core := by
  apply Core.ext_get
  intro z
  by_cases hfirst : z ∈ start.span first.length
  · obtain ⟨k, hk, rfl⟩ := Address.mem_span.mp hfirst
    rw [h.firstCells k hk, h'.firstCells k hk]
  · by_cases hsecond : z ∈ (secondStart first start gap).span second.length
    · obtain ⟨k, hk, rfl⟩ := Address.mem_span.mp hsecond
      rw [h.secondCells k hk, h'.secondCells k hk]
    · rw [h.elsewhere z hfirst hsecond, h'.elsewhere z hfirst hsecond]

/-- A loaded match depends on nothing of the match before but its limit and its verbosity. -/
lemma unique (h : b.Loaded first second start gap loaded)
    (h' : b'.Loaded first second start gap loaded') (hmax : b'.maxCycle = b.maxCycle)
    (hverbose : b'.verbose = b.verbose) :
    loaded' = { loaded with generator := loaded'.generator } := by
  have hcore := h.core_eq h'
  have horigin := h'.origin_eq.trans h.origin_eq.symm
  have hip := h'.ip.trans (horigin.trans h.ip.symm)
  have hlast := h'.last.trans h.last.symm
  have hcycle := h'.cycle.trans h.cycle.symm
  have hmaxCycle := h'.maxCycle.trans (hmax.trans h.maxCycle.symm)
  have hstatus := h'.status.trans h.status.symm
  have hreason := h'.reason.trans h.reason.symm
  have hblamed := h'.blamed.trans h.blamed.symm
  have hverbose' := h'.verbose.trans (hverbose.trans h.verbose.symm)
  have htraced := h'.traced.trans (hverbose.trans h.traced.symm)
  obtain ⟨course', ⟨core', ip', last'⟩⟩ := loaded'
  obtain ⟨course, ⟨core, ip, last⟩⟩ := loaded
  obtain ⟨origin', cycle', maxCycle', status', reason', blamed', g', verbose', traced'⟩ := course'
  obtain ⟨origin, cycle, maxCycle, status, reason, blamed, g, verbose, traced⟩ := course
  subst hcore horigin hip hlast hcycle hmaxCycle hstatus hreason hblamed hverbose' htraced
  rfl

end Loaded

/-! ### Loads -/

lemma loadBy_of_not_fits {σ : Type} (dice : Dice σ) (s : σ) (b : Battle size)
    {first second : List Cell} (hfit : size.count < first.length + second.length) :
    loadBy dice s b first second = ((b, s), some ⟨⟨first.length, second.length⟩, size.count⟩) := by
  rw [loadBy, if_pos hfit]

lemma snd_loadBy_eq_some_iff {σ : Type} (dice : Dice σ) (s : σ) (b : Battle size)
    (first second : List Cell) (e : LoadError) :
    (loadBy dice s b first second).2 = some e ↔
      size.count < first.length + second.length ∧
        e = ⟨⟨first.length, second.length⟩, size.count⟩ := by
  unfold loadBy
  split_ifs with hfit
  · simp [hfit, eq_comm]
  · simp [hfit]

lemma snd_load_eq_some_iff (b : Battle size) (first second : List Cell) (e : LoadError) :
    (b.load first second).2 = some e ↔
      size.count < first.length + second.length ∧
        e = ⟨⟨first.length, second.length⟩, size.count⟩ := by
  rw [← snd_loadBy_eq_some_iff .pcg b.generator b, load_eq_loadBy]

/-- A load of two warriors fails exactly if they have more cells than the core, and then the match
and the source of its draws are as they were. Otherwise it makes two draws with positive bounds, and
whatever they are, both warriors stand whole where the draws put them, in a core that is otherwise
unused and in a match of which nothing else is left. -/
theorem load_places (b : Battle size) (first second : List Cell) :
    -- the load of a match is one by the draws of its own generator
    (b.load first second =
      let ((loaded, generator), error?) := loadBy .pcg b.generator b first second
      ({ loaded with generator := generator }, error?)) ∧
    -- failure
    ((∀ e : LoadError, (b.load first second).2 = some e ↔
        size.count < first.length + second.length ∧
          e = ⟨⟨first.length, second.length⟩, size.count⟩) ∧
      ((b.load first second).2 ≠ none → (b.load first second).1 = b)) ∧
    (∀ (σ : Type) (dice : Dice σ) (s : σ),
      (∀ e : LoadError, (loadBy dice s b first second).2 = some e ↔
        size.count < first.length + second.length ∧
          e = ⟨⟨first.length, second.length⟩, size.count⟩) ∧
      ((loadBy dice s b first second).2 ≠ none → (loadBy dice s b first second).1 = (b, s))) ∧
    -- success
    (first.length + second.length ≤ size.count →
      1 ≤ size.count ∧ 1 ≤ gapCount size first second ∧
      (gapCount size first second : Int) = size.count - first.length - second.length + 1 ∧
      (∀ (σ : Type) (dice : Dice σ) (s : σ),
        let x := dice.draw size.count size.pos s
        let r := dice.draw (gapCount size first second) (gapCount_pos first second) x.2
        loadBy dice s b first second = ((b.place first second x.1 r.1, r.2), none)) ∧
      ∀ (start : Address size) (gap : Nat) (generator : Pcg), gap < gapCount size first second →
        b.Loaded first second start gap
          { b.place first second start gap with generator := generator }) ∧
    -- independence of the match before
    ∀ (b' loaded loaded' : Battle size) (start : Address size) (gap : Nat),
      b.Loaded first second start gap loaded → b'.Loaded first second start gap loaded' →
      b'.maxCycle = b.maxCycle → b'.verbose = b.verbose →
      loaded' = { loaded with generator := loaded'.generator } := by
  refine ⟨load_eq_loadBy b first second, ⟨snd_load_eq_some_iff b first second, ?_⟩, ?_, ?_, ?_⟩
  · intro hfailed
    obtain ⟨e, he⟩ := Option.ne_none_iff_exists'.mp hfailed
    rw [load_of_not_fits b ((snd_load_eq_some_iff b first second e).mp he).1]
  · intro σ dice s
    refine ⟨snd_loadBy_eq_some_iff dice s b first second, fun hfailed => ?_⟩
    obtain ⟨e, he⟩ := Option.ne_none_iff_exists'.mp hfailed
    rw [loadBy_of_not_fits dice s b ((snd_loadBy_eq_some_iff dice s b first second e).mp he).1]
  · intro hfit
    refine ⟨size.pos, gapCount_pos first second, toInt_gapCount hfit, ?_, ?_⟩
    · intro σ dice s x r
      unfold loadBy
      rw [if_neg (Nat.not_lt.mpr hfit)]
    · intro start gap generator hgap
      exact loaded_place b hfit start hgap generator
  · intro b' loaded loaded' start gap h h' hmax hverbose
    exact h.unique h' hmax hverbose

/-- Warriors that fill the whole core, the second one across the end of the addresses. -/
theorem load_places_exact_fit :
    let loop (field : Int32) : Cell :=
      ⟨.ofOperation .jmp, ⟨.ofAddressing .relative, field⟩, ⟨.ofAddressing .relative, 0⟩, .nobody⟩
    let b : Battle ⟨3, by decide, by decide⟩ := blank ⟨0⟩
    let placed := b.place [loop 1] [loop 2, loop 3] 1 0
    [loop 1].length + [loop 2, loop 3].length ≤ 3 ∧
      b.Loaded [loop 1] [loop 2, loop 3] 1 0 placed ∧
      [0, 1, 2].map placed.machine.core.get = [loop 3, loop 1, loop 2] := by
  intro loop b placed
  have hfit : [loop 1].length + [loop 2, loop 3].length ≤ 3 := by decide
  obtain ⟨-, -, -, hplaces, -⟩ := load_places b [loop 1] [loop 2, loop 3]
  obtain ⟨-, -, -, -, hloaded⟩ := hplaces hfit
  exact ⟨hfit, hloaded 1 0 b.generator (by decide), by decide⟩

end Battle

end CoreWar
