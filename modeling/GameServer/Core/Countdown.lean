/-
A counter from which amounts are taken off, and whether nothing was ever exactly left.

- `Hits start ns`: some of the first amounts, at least one, add up to the start;
- `hits_snoc`: one amount more hits if it leaves nothing;
- `hits_mono`: what has been hit stays hit;
- `hits_ones`: with amounts of one in a word of w bits, the start is hit once that many have come.
-/
import Mathlib.Tactic
import Mathlib.Data.BitVec

namespace GameServer.Core

variable {α : Type*} [AddCommGroup α] {start n : α} {ns ms : List α}

/-- at some point the amounts so far added up to the start -/
def Hits (start : α) (ns : List α) : Prop := ∃ k, 0 < k ∧ k ≤ ns.length ∧ (ns.take k).sum = start

theorem not_hits_nil : ¬ Hits start ([] : List α) := by
  rintro ⟨k, hpos, hle, -⟩
  exact absurd hle (Nat.not_le.2 hpos)

theorem hits_mono (h : Hits start ns) : Hits start (ns ++ ms) := by
  obtain ⟨k, hpos, hle, hsum⟩ := h
  refine ⟨k, hpos, ?_, ?_⟩
  · rw [List.length_append]
    exact Nat.le_add_right_of_le hle
  · rw [List.take_append_of_le_length hle]
    exact hsum

theorem hits_snoc : Hits start (ns ++ [n]) ↔ Hits start ns ∨ start - (ns ++ [n]).sum = 0 := by
  constructor
  · rintro ⟨k, hpos, hle, hsum⟩
    rw [List.length_append, List.length_singleton] at hle
    rcases Nat.lt_or_eq_of_le hle with hlt | heq
    · have hk : k ≤ ns.length := Nat.le_of_lt_succ hlt
      rw [List.take_append_of_le_length hk] at hsum
      exact Or.inl ⟨k, hpos, hk, hsum⟩
    · rw [List.take_of_length_le (by simp [heq])] at hsum
      exact Or.inr (sub_eq_zero.2 hsum.symm)
  · rintro (h | hzero)
    · exact hits_mono h
    · refine ⟨(ns ++ [n]).length, by simp, le_rfl, ?_⟩
      rw [List.take_length]
      exact (sub_eq_zero.1 hzero).symm

theorem sum_ones {w : ℕ} {ns : List (BitVec w)} (hones : ∀ n ∈ ns, n = 1) : ns.sum = BitVec.ofNat w ns.length := by
  induction ns with
  | nil => rfl
  | cons n ns ih =>
    have hrest := ih fun n' hn' => hones n' (List.mem_cons_of_mem n hn')
    calc (n :: ns).sum = n + ns.sum := List.sum_cons
      _ = 1 + BitVec.ofNat w ns.length := by rw [hones n List.mem_cons_self, hrest]
      _ = BitVec.ofNat w (ns.length + 1) := by rw [Nat.add_comm, BitVec.ofNat_add]; rfl

theorem hits_ones {w : ℕ} {start : BitVec w} {ns : List (BitVec w)} (hones : ∀ n ∈ ns, n = 1) (hlen : ns.length < 2 ^ w) :
    Hits start ns ↔ 0 < start.toNat ∧ start.toNat ≤ ns.length := by
  have hsum : ∀ k, k ≤ ns.length → ((ns.take k).sum = start ↔ k = start.toNat) := by
    intro k hk
    have htake : (ns.take k).length = k := List.length_take_of_le hk
    have hval : (BitVec.ofNat w k).toNat = k := by
      rw [BitVec.toNat_ofNat]
      exact Nat.mod_eq_of_lt (Nat.lt_of_le_of_lt hk hlen)
    rw [sum_ones fun n hn => hones n (List.mem_of_mem_take hn), htake]
    constructor
    · intro heq
      rw [← heq, hval]
    · intro heq
      exact BitVec.eq_of_toNat_eq (hval.trans heq)
  constructor
  · rintro ⟨k, hpos, hle, heq⟩
    obtain rfl := (hsum k hle).1 heq
    exact ⟨hpos, hle⟩
  · rintro ⟨hpos, hle⟩
    exact ⟨start.toNat, hpos, hle, (hsum _ hle).2 rfl⟩

end GameServer.Core
