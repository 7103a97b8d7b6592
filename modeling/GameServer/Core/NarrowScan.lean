/-
Scans of a list with an index of `w` bits: `for (index = 0; index < size; ++index)`, where the index starts again at
zero after `2 ^ w - 1`, and the size is any number.

The body of a loop goes on to the next entry or stops with a result, or does not end itself. All computations take fuel;
`none` is out of fuel, and `Ends` is the result for some fuel.
- `scan_ends_iff`: a scan ends exactly if one of the first `2 ^ w` entries stops it, or there are less than `2 ^ w`
  entries; every entry before has to go on;
- `scanOk_iff`: when a scan ends and, if it has selected nothing, has seen every entry;
- `scanOk_test_iff`: the same for a body that only tests its entry.
-/
import Mathlib.Tactic

namespace GameServer.Core

/-! ## Computations with fuel -/

section

variable {γ δ : Type*} {run : ℕ → Option γ} {o o' : γ}

/-- some fuel suffices, and the result is `o` -/
def Ends (run : ℕ → Option γ) (o : γ) : Prop := ∃ fuel, run fuel = some o

/-- more fuel does not change a result -/
def FuelMono (run : ℕ → Option γ) : Prop := ∀ fuel o, run fuel = some o → run (fuel + 1) = some o

theorem FuelMono.of_le (h : FuelMono run) {f f' : ℕ} (hle : f ≤ f') (hrun : run f = some o) : run f' = some o := by
  induction hle with
  | refl => exact hrun
  | step _ ih => exact h _ _ ih

theorem FuelMono.unique (h : FuelMono run) (ho : Ends run o) (ho' : Ends run o') : o = o' := by
  obtain ⟨f, hf⟩ := ho
  obtain ⟨f', hf'⟩ := ho'
  have heq := (h.of_le (le_max_left f f') hf).symm.trans (h.of_le (le_max_right f f') hf')
  exact Option.some.inj heq

theorem FuelMono.const (x : Option γ) : FuelMono fun _ => x := fun _ _ h => h

theorem FuelMono.map (h : FuelMono run) (g : γ → δ) : FuelMono fun fuel => (run fuel).map g := by
  intro fuel o ho
  obtain ⟨a, ha, rfl⟩ := Option.map_eq_some_iff.1 ho
  dsimp only
  rw [h fuel a ha, Option.map_some]

theorem ends_const (a : γ) : Ends (fun _ => some a) o ↔ a = o :=
  ⟨fun h => Option.some.inj h.choose_spec, fun h => ⟨0, congrArg some h⟩⟩

theorem ends_map (g : γ → δ) {d : δ} : Ends (fun fuel => (run fuel).map g) d ↔ ∃ o, Ends run o ∧ g o = d := by
  constructor
  · rintro ⟨fuel, h⟩
    obtain ⟨o, ho, hd⟩ := Option.map_eq_some_iff.1 h
    exact ⟨o, ⟨fuel, ho⟩, hd⟩
  · rintro ⟨o, ⟨fuel, ho⟩, rfl⟩
    refine ⟨fuel, ?_⟩
    dsimp only
    rw [ho, Option.map_some]

end

/-! ## Scans -/

/-- what the body of a loop does with an entry -/
inductive Turn (β : Type*) where
  | next
  | stop (r : β)
deriving DecidableEq, Repr

section

variable {α β : Type*} (w : ℕ) (body : ℕ → α → Option (Turn β)) (l : List α)

/-- the result of the entry that stops the loop, and the indices that were visited -/
def scan : ℕ → ℕ → List ℕ → Option (Option β × List ℕ)
  | 0, _, _ => none
  | fuel + 1, index, seen =>
    match l[index]? with
    | none => some (none, seen)
    | some a =>
      match body fuel a with
      | none => none
      | some (.stop r) => some (some r, seen ++ [index])
      | some .next => scan fuel ((index + 1) % 2 ^ w) (seen ++ [index])

/-- the whole loop -/
def scanAll (fuel : ℕ) : Option (Option β × List ℕ) := scan w body l fuel 0 []

/-- one of the first `2 ^ w` entries stops, and every entry before it goes on -/
def ScanStops (next : α → Prop) (stop : ℕ → α → Prop) : Prop :=
  ∃ i < 2 ^ w, ∃ a, l[i]? = some a ∧ stop i a ∧ ∀ j < i, ∀ b, l[j]? = some b → next b

/-- every entry goes on, and the index reaches the end -/
def ScanPasses (next : α → Prop) : Prop := l.length < 2 ^ w ∧ ∀ a ∈ l, next a

/-- the loop ends, and if it has selected nothing it has seen every entry -/
def ScanOk (selects : β → Prop) : Prop :=
  ∃ o, Ends (scanAll w body l) o ∧ ((∀ r, o.1 = some r → ¬selects r) → o.2 = List.range l.length)

variable {w body l} {o : Option β × List ℕ} {seen : List ℕ} {i : ℕ} {a : α}

theorem scan_mono (hbody : ∀ a, FuelMono fun fuel => body fuel a) (index : ℕ) (seen : List ℕ) :
    FuelMono fun fuel => scan w body l fuel index seen := by
  intro fuel
  induction fuel generalizing index seen with
  | zero =>
    intro o h
    cases h
  | succ fuel ih =>
    intro o h
    dsimp only at h ⊢
    rw [scan] at h ⊢
    cases hget : l[index]? with
    | none => simpa [hget] using h
    | some a =>
      simp only [hget] at h ⊢
      cases hturn : body fuel a with
      | none => simp [hturn] at h
      | some turn =>
        have hturn' := hbody a fuel turn hturn
        dsimp only at hturn'
        rw [hturn] at h
        rw [hturn']
        cases turn with
        | stop r => exact h
        | next => exact ih _ _ o h

theorem scanAll_mono (hbody : ∀ a, FuelMono fun fuel => body fuel a) : FuelMono (scanAll w body l) := scan_mono hbody 0 []

theorem scan_end (hget : l[i]? = none) : Ends (fun fuel => scan w body l fuel i seen) (none, seen) :=
  ⟨1, by simp [scan, hget]⟩

theorem scan_stop (hget : l[i]? = some a) {r : β} (h : Ends (fun fuel => body fuel a) (.stop r)) :
    Ends (fun fuel => scan w body l fuel i seen) (some r, seen ++ [i]) := by
  obtain ⟨fuel, h⟩ := h
  refine ⟨fuel + 1, ?_⟩
  dsimp only at h ⊢
  rw [scan, hget]
  dsimp only
  rw [h]

theorem scan_next (hbody : ∀ a, FuelMono fun fuel => body fuel a) (hget : l[i]? = some a)
    (h : Ends (fun fuel => body fuel a) .next)
    (hrest : Ends (fun fuel => scan w body l fuel ((i + 1) % 2 ^ w) (seen ++ [i])) o) :
    Ends (fun fuel => scan w body l fuel i seen) o := by
  obtain ⟨f, hf⟩ := h
  obtain ⟨f', hf'⟩ := hrest
  have hturn : body (max f f') a = some .next := (hbody a).of_le (le_max_left f f') hf
  have hscan : scan w body l (max f f') ((i + 1) % 2 ^ w) (seen ++ [i]) = some o :=
    (scan_mono hbody _ _).of_le (le_max_right f f') hf'
  refine ⟨max f f' + 1, ?_⟩
  dsimp only
  rw [scan, hget]
  dsimp only
  rw [hturn]
  exact hscan

/-- entries that go on lead from index `i` to index `k` -/
theorem scan_forward (hbody : ∀ a, FuelMono fun fuel => body fuel a) {k : ℕ} (hk : k < 2 ^ w)
    (hnext : ∀ j < k, ∃ a, l[j]? = some a ∧ Ends (fun fuel => body fuel a) .next)
    (h : Ends (fun fuel => scan w body l fuel k (List.range k)) o) (hi : i ≤ k) :
    Ends (fun fuel => scan w body l fuel i (List.range i)) o := by
  induction hi using Nat.decreasingInduction with
  | self => exact h
  | of_succ i hi ih =>
    obtain ⟨a, hget, ha⟩ := hnext i hi
    apply scan_next hbody hget ha
    rw [Nat.mod_eq_of_lt (by omega), ← List.range_succ]
    exact ih

/-- a loop whose first `2 ^ w` entries all go on never ends -/
theorem scan_never (hbody : ∀ a, FuelMono fun fuel => body fuel a)
    (hnext : ∀ j < 2 ^ w, ∃ a, l[j]? = some a ∧ Ends (fun fuel => body fuel a) .next) (fuel : ℕ) (hi : i < 2 ^ w) :
    scan w body l fuel i seen = none := by
  induction fuel generalizing i seen with
  | zero => rfl
  | succ fuel ih =>
    obtain ⟨a, hget, ha⟩ := hnext i hi
    rw [scan, hget]
    dsimp only
    cases hturn : body fuel a with
    | none => rfl
    | some turn =>
      obtain rfl := (hbody a).unique ⟨fuel, hturn⟩ ha
      exact ih (Nat.mod_lt _ (by positivity))

/-- an index that is past all entries and has met one at every position before is the length -/
theorem eq_length_of_passed {k : ℕ} (hget : l[k]? = none) (hpassed : ∀ j < k, ∃ b, l[j]? = some b) : k = l.length := by
  refine le_antisymm ?_ (List.getElem?_eq_none_iff.1 hget)
  by_contra hlt
  obtain ⟨b, hb⟩ := hpassed l.length (not_le.1 hlt)
  rw [List.getElem?_eq_none le_rfl] at hb
  cases hb

/-- the ways to end, from an index on -/
theorem scan_cases (hbody : ∀ a, FuelMono fun fuel => body fuel a) {fuel k : ℕ} (hk : k < 2 ^ w)
    (hnext : ∀ j < k, ∃ a, l[j]? = some a ∧ Ends (fun fuel => body fuel a) .next)
    (h : scan w body l fuel k (List.range k) = some o) :
    (∃ i < 2 ^ w, ∃ a r, l[i]? = some a ∧ Ends (fun fuel => body fuel a) (.stop r) ∧
      (∀ j < i, ∃ b, l[j]? = some b ∧ Ends (fun fuel => body fuel b) .next) ∧ o = (some r, List.range (i + 1))) ∨
    (l.length < 2 ^ w ∧ (∀ j < l.length, ∃ b, l[j]? = some b ∧ Ends (fun fuel => body fuel b) .next) ∧
      o = (none, List.range l.length)) := by
  induction fuel generalizing k with
  | zero => cases h
  | succ fuel ih =>
    rw [scan] at h
    cases hget : l[k]? with
    | none =>
      right
      obtain rfl : k = l.length := eq_length_of_passed hget fun j hj => (hnext j hj).imp fun _ hb => hb.1
      rw [hget] at h
      exact ⟨hk, hnext, (Option.some.inj h).symm⟩
    | some a =>
      rw [hget] at h
      dsimp only at h
      cases hturn : body fuel a with
      | none =>
        rw [hturn] at h
        cases h
      | some turn =>
        rw [hturn] at h
        cases turn with
        | stop r =>
          left
          refine ⟨k, hk, a, r, hget, ⟨fuel, hturn⟩, hnext, ?_⟩
          rw [List.range_succ]
          exact (Option.some.inj h).symm
        | next =>
          dsimp only at h
          have hnext' : ∀ j < k + 1, ∃ b, l[j]? = some b ∧ Ends (fun fuel => body fuel b) .next := by
            intro j hj
            rcases Nat.lt_succ_iff_lt_or_eq.1 hj with hj | rfl
            · exact hnext j hj
            · exact ⟨a, hget, fuel, hturn⟩
          rcases Nat.lt_or_ge (k + 1) (2 ^ w) with hlt | hge
          · rw [Nat.mod_eq_of_lt hlt, ← List.range_succ] at h
            exact ih hlt hnext' h
          · -- the index starts again at zero, for ever
            rw [scan_never hbody (fun j hj => hnext' j (by omega)) fuel (Nat.mod_lt _ (by positivity))] at h
            cases h

/-- **How a scan ends**: at the first of the first `2 ^ w` entries that stops it, or at the end of a short list. -/
theorem scan_ends_iff (hbody : ∀ a, FuelMono fun fuel => body fuel a) : Ends (scanAll w body l) o ↔
    (∃ i < 2 ^ w, ∃ a r, l[i]? = some a ∧ Ends (fun fuel => body fuel a) (.stop r) ∧
      (∀ j < i, ∃ b, l[j]? = some b ∧ Ends (fun fuel => body fuel b) .next) ∧ o = (some r, List.range (i + 1))) ∨
    (l.length < 2 ^ w ∧ (∀ j < l.length, ∃ b, l[j]? = some b ∧ Ends (fun fuel => body fuel b) .next) ∧
      o = (none, List.range l.length)) := by
  constructor
  · rintro ⟨fuel, h⟩
    exact scan_cases hbody (by positivity) (by simp) h
  · rintro (⟨i, hi, a, r, hget, hstop, hnext, rfl⟩ | ⟨hlt, hnext, rfl⟩)
    · have hend : Ends (fun fuel => scan w body l fuel i (List.range i)) (some r, List.range i ++ [i]) :=
        scan_stop hget hstop
      rw [← List.range_succ] at hend
      exact scan_forward hbody hi hnext hend (Nat.zero_le i)
    · exact scan_forward hbody hlt hnext (scan_end (List.getElem?_eq_none le_rfl)) (Nat.zero_le _)

/-- a scan that runs past the last entry -/
theorem scan_passes_iff (hbody : ∀ a, FuelMono fun fuel => body fuel a) : Ends (scanAll w body l) (none, seen) ↔
    ScanPasses w l (fun a => Ends (fun fuel => body fuel a) .next) ∧ seen = List.range l.length := by
  rw [scan_ends_iff hbody]
  constructor
  · rintro (⟨i, -, a, r, -, -, -, heq⟩ | ⟨hlt, hnext, heq⟩)
    · simp at heq
    · refine ⟨⟨hlt, fun a ha => ?_⟩, by simpa using heq⟩
      obtain ⟨j, hj, rfl⟩ := List.getElem_of_mem ha
      obtain ⟨b, hget, hb⟩ := hnext j hj
      rw [List.getElem?_eq_getElem hj] at hget
      rwa [Option.some.inj hget]
  · rintro ⟨⟨hlt, hnext⟩, rfl⟩
    right
    exact ⟨hlt, fun j hj => ⟨l[j], List.getElem?_eq_getElem hj, hnext _ (List.getElem_mem hj)⟩, rfl⟩

/-- a scan that an entry stops -/
theorem scan_stops_iff (hbody : ∀ a, FuelMono fun fuel => body fuel a) {r : β} : Ends (scanAll w body l) (some r, seen) ↔
    ScanStops w l (fun a => Ends (fun fuel => body fuel a) .next)
      fun i a => Ends (fun fuel => body fuel a) (.stop r) ∧ seen = List.range (i + 1) := by
  rw [scan_ends_iff hbody]
  constructor
  · rintro (⟨i, hi, a, r', hget, hstop, hnext, heq⟩ | ⟨-, -, heq⟩)
    · obtain ⟨rfl, rfl⟩ : r = r' ∧ seen = List.range (i + 1) := by simpa using heq
      refine ⟨i, hi, a, hget, ⟨hstop, rfl⟩, fun j hj b hb => ?_⟩
      obtain ⟨c, hc, hnext⟩ := hnext j hj
      rw [hb] at hc
      rwa [Option.some.inj hc]
    · simp at heq
  · rintro ⟨i, hi, a, hget, ⟨hstop, rfl⟩, hnext⟩
    left
    refine ⟨i, hi, a, r, hget, hstop, fun j hj => ?_, rfl⟩
    have hlen : i < l.length := (List.getElem?_eq_some_iff.1 hget).1
    have hj' := List.getElem?_eq_getElem (hj.trans hlen)
    exact ⟨_, hj', hnext j hj _ hj'⟩

/-- **When a scan ends and misses nothing**: one of the first `2 ^ w` entries is selected, or stops the loop as the last
entry, or the list is short. -/
theorem scanOk_iff (hbody : ∀ a, FuelMono fun fuel => body fuel a) (selects : β → Prop) : ScanOk w body l selects ↔
    ScanStops w l (fun a => Ends (fun fuel => body fuel a) .next)
      (fun i a => ∃ r, Ends (fun fuel => body fuel a) (.stop r) ∧ (selects r ∨ i + 1 = l.length)) ∨
    ScanPasses w l (fun a => Ends (fun fuel => body fuel a) .next) := by
  constructor
  · rintro ⟨⟨_ | r, seen⟩, hends, hok⟩
    · exact Or.inr ((scan_passes_iff hbody).1 hends).1
    · left
      obtain ⟨i, hi, a, hget, ⟨hstop, rfl⟩, hnext⟩ := (scan_stops_iff hbody).1 hends
      refine ⟨i, hi, a, hget, ⟨r, hstop, ?_⟩, hnext⟩
      by_cases hsel : selects r
      · exact Or.inl hsel
      · right
        have hrange : List.range (i + 1) = List.range l.length := hok fun r' hr' => by rwa [← Option.some.inj hr']
        simpa using congrArg List.length hrange
  · rintro (⟨i, hi, a, hget, ⟨r, hstop, hsel⟩, hnext⟩ | hpass)
    · refine ⟨(some r, List.range (i + 1)), (scan_stops_iff hbody).2 ⟨i, hi, a, hget, ⟨hstop, rfl⟩, hnext⟩, fun hno => ?_⟩
      rcases hsel with hsel | hlast
      · exact absurd hsel (hno r rfl)
      · exact congrArg List.range hlast
    · exact ⟨(none, List.range l.length), (scan_passes_iff hbody).2 ⟨hpass, rfl⟩, fun _ => rfl⟩

end

/-! ## Loops that only test their entries -/

section

variable {α β : Type*} {w : ℕ} {l : List α} {p : α → Prop} {r : α → β}

/-- the first entry with `p`, within the reach of the index -/
theorem scanStops_of_take (h : ∃ a ∈ l.take (2 ^ w), p a) : ScanStops w l (fun a => ¬p a) fun _ a => p a := by
  have hex : ∃ i, ∃ a, i < 2 ^ w ∧ l[i]? = some a ∧ p a := by
    obtain ⟨a, ha, hp⟩ := h
    obtain ⟨i, hget⟩ := List.getElem?_of_mem ha
    rw [List.getElem?_take] at hget
    split at hget
    · exact ⟨i, a, ‹_›, hget, hp⟩
    · cases hget
  classical
  obtain ⟨a, hi, hget, hp⟩ := Nat.find_spec hex
  refine ⟨Nat.find hex, hi, a, hget, hp, fun j hj b hb hpb => ?_⟩
  exact Nat.find_min hex hj ⟨b, hj.trans hi, hb, hpb⟩

variable [DecidablePred p]

/-- stop at an entry with `p`, with the result `r` -/
def testBody (p : α → Prop) [DecidablePred p] (r : α → β) (_fuel : ℕ) (a : α) : Option (Turn β) :=
  some (if p a then .stop (r a) else .next)

theorem testBody_mono (a : α) : FuelMono fun fuel => testBody p r fuel a := FuelMono.const _

theorem testBody_next {a : α} : Ends (fun fuel => testBody p r fuel a) .next ↔ ¬p a := by
  unfold testBody
  rw [ends_const]
  by_cases h : p a <;> simp [h]

theorem testBody_stop {a : α} {b : β} : Ends (fun fuel => testBody p r fuel a) (.stop b) ↔ p a ∧ r a = b := by
  unfold testBody
  rw [ends_const]
  by_cases h : p a <;> simp [h]

/-- a testing loop that stops, with a result that does not depend on the entry -/
theorem test_stops_iff {b c : β} :
    (∃ seen, Ends (scanAll w (testBody p fun _ => c) l) (some b, seen)) ↔ c = b ∧ ∃ a ∈ l.take (2 ^ w), p a := by
  constructor
  · rintro ⟨seen, h⟩
    obtain ⟨i, hi, a, hget, ⟨hstop, -⟩, -⟩ := (scan_stops_iff testBody_mono).1 h
    obtain ⟨hp, heq⟩ := testBody_stop.1 hstop
    refine ⟨heq, a, List.mem_of_getElem? (i := i) ?_, hp⟩
    rw [List.getElem?_take, if_pos hi, hget]
  · rintro ⟨rfl, hex⟩
    obtain ⟨i, hi, a, hget, hp, hnext⟩ := scanStops_of_take hex
    refine ⟨List.range (i + 1), (scan_stops_iff testBody_mono).2 ⟨i, hi, a, hget, ⟨testBody_stop.2 ⟨hp, rfl⟩, rfl⟩, ?_⟩⟩
    exact fun j hj b hb => testBody_next.2 (hnext j hj b hb)

/-- a testing loop that runs past the last entry -/
theorem test_passes_iff {seen : List ℕ} : Ends (scanAll w (testBody p r) l) (none, seen) ↔
    (l.length < 2 ^ w ∧ ∀ a ∈ l, ¬p a) ∧ seen = List.range l.length := by
  rw [scan_passes_iff testBody_mono]
  simp only [ScanPasses, testBody_next]

/-- **When a testing loop ends and misses nothing.** -/
theorem scanOk_test_iff {selects : β → Prop} (hsel : ∀ a, p a → selects (r a)) :
    ScanOk w (testBody p r) l selects ↔ l.length < 2 ^ w ∨ ∃ a ∈ l.take (2 ^ w), p a := by
  rw [scanOk_iff testBody_mono]
  simp only [testBody_next, testBody_stop]
  constructor
  · rintro (⟨i, hi, a, hget, ⟨b, ⟨hp, -⟩, -⟩, -⟩ | ⟨hlt, -⟩)
    · right
      refine ⟨a, List.mem_of_getElem? (i := i) ?_, hp⟩
      rw [List.getElem?_take, if_pos hi, hget]
    · exact Or.inl hlt
  · intro h
    by_cases hex : ∃ a ∈ l.take (2 ^ w), p a
    · left
      obtain ⟨i, hi, a, hget, hp, hnext⟩ := scanStops_of_take hex
      exact ⟨i, hi, a, hget, ⟨r a, ⟨hp, rfl⟩, Or.inl (hsel a hp)⟩, hnext⟩
    · right
      have hlt : l.length < 2 ^ w := h.resolve_right hex
      rw [List.take_of_length_le hlt.le] at hex
      exact ⟨hlt, fun a ha hp => hex ⟨a, ha, hp⟩⟩

end

end GameServer.Core
