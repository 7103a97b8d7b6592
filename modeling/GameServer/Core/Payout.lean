/-
Goods carried out one after another on what is stored, each with the entries that it reports, or not at all.

`carry stored goods` is what is stored and reported in the end. It ties a log of goods to the stored state: two logs carried
out one after the other are their concatenation carried out (`carry_append`), so a run extends its log step by step.

- `gathered`: what the answers of a run report, one answer after the other;
- `run_carries`: if every step carries out what its log grows by and answers with what that reports, so does every run.
-/
import Mathlib.Tactic
import GameServer.Core.Run

namespace GameServer.Core.Payout

open GameServer.Core

section

variable {ρ γ δ : Type*} (pay : ρ → γ → Option (ρ × List δ))

def carry (stored : ρ) : List γ → Option (ρ × List δ)
  | [] => some (stored, [])
  | good :: goods =>
    match pay stored good with
    | none => none
    | some (stored', reported) => (carry stored' goods).map fun p => (p.1, reported ++ p.2)

variable {pay} {stored stored' stored'' : ρ} {goods goods' : List γ} {reported reported' : List δ}

theorem carry_one {good : γ} (h : pay stored good = some (stored', reported)) :
    carry pay stored [good] = some (stored', reported) := by
  simp [carry, h]

theorem carry_append (h : carry pay stored goods = some (stored', reported))
    (h' : carry pay stored' goods' = some (stored'', reported')) :
    carry pay stored (goods ++ goods') = some (stored'', reported ++ reported') := by
  induction goods generalizing stored reported with
  | nil =>
    obtain ⟨rfl, rfl⟩ := Prod.mk.inj (Option.some.inj h)
    exact h'
  | cons good goods ih =>
    rw [carry] at h
    rw [List.cons_append, carry]
    cases hpay : pay stored good with
    | none => simp [hpay] at h
    | some p =>
      simp only [hpay, Option.map_eq_some_iff] at h ⊢
      obtain ⟨q, hq, heq⟩ := h
      obtain ⟨rfl, rfl⟩ := Prod.mk.inj heq
      exact ⟨_, ih hq, by rw [List.append_assoc]⟩

theorem carry_snoc {good : γ} (h : carry pay stored goods = some (stored', reported))
    (h' : pay stored' good = some (stored'', reported')) :
    carry pay stored (goods ++ [good]) = some (stored'', reported ++ reported') := carry_append h (carry_one h')

/-! ## Runs that carry out what they log -/

variable {σ ο β : Type*} (step : σ → ο → σ) (answer : σ → ο → List δ)

/-- what the answers of a run report -/
def gathered (s : σ) : List ο → List δ
  | [] => []
  | o :: ops => answer s o ++ gathered (step s o) ops

variable {step answer} {store : σ → ρ} {log : σ → List β} {pick : γ → Option β} {sentBy : ο → γ → Prop}

/-- **Run rule.** A run carries out what its log has grown by, and answers with what that reports. -/
theorem run_carries (hstep : ∀ s o, ∃ goods, log (step s o) = log s ++ goods.filterMap pick ∧
      (∀ good ∈ goods, sentBy o good) ∧ carry pay (store s) goods = some (store (step s o), answer s o)) (s : σ)
    (ops : List ο) :
    ∃ goods, log (run step s ops) = log s ++ goods.filterMap pick ∧ (∀ good ∈ goods, ∃ o ∈ ops, sentBy o good) ∧
      carry pay (store s) goods = some (store (run step s ops), gathered step answer s ops) := by
  induction ops generalizing s with
  | nil => exact ⟨[], by simp, by simp, rfl⟩
  | cons o ops ih =>
    obtain ⟨goods, hlog, hby, hcarry⟩ := hstep s o
    obtain ⟨goods', hlog', hby', hcarry'⟩ := ih (step s o)
    refine ⟨goods ++ goods', ?_, ?_, carry_append hcarry hcarry'⟩
    · rw [run_cons, hlog', hlog, List.filterMap_append, List.append_assoc]
    · intro good hgood
      rcases List.mem_append.1 hgood with hgood | hgood
      · exact ⟨o, List.mem_cons_self, hby good hgood⟩
      · obtain ⟨o', ho', hgood'⟩ := hby' good hgood
        exact ⟨o', List.mem_cons_of_mem o ho', hgood'⟩

end

end GameServer.Core.Payout
