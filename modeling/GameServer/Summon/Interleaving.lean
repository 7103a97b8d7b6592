/-
Interleaved equipment summons of one user and one summon type. `sp_SummonEquipment` reads the rows in one transaction,
draws without a connection, and writes absolute values in a second transaction; between the two any other request may run.

A run is a list of transactions, each with its day. `read i` is the first one of request i, and keeps what the request
carries over (`pending`). `write i` draws and writes. `WatchAds` is asked in the first one.

`SeenBy` says what a pending request knows: either its row is behind the stored one, or nobody has drawn since. A write on
a row that is still the stored one (`current`) then adds its own draws to everything drawn before (`write_inv`), and the
counts, the level and the daily advertisements of a whole run come out right (`no_summon_lost`). A write on an older row
takes back what was written in between (`summon_lost`).
-/
import Mathlib.Tactic
import Mathlib.Data.Prod.Lex
import GameServer.Core.Run
import GameServer.Core.Quota
import GameServer.Core.Tally
import GameServer.Summon.Ledger

namespace GameServer.Summon

open GameServer.Core GameServer.Core.Ladder

/-! ## Transactions -/

/-- a transaction of request i -/
inductive Tx where
  | read (i : ℕ) (count : ℤ) (cost_type : CostType)
  | write (i : ℕ) (box : Box)

/-- a request between its two transactions: the row it has read, on which day, and what it carries over -/
structure Pending where
  row : SummonRow
  day : ℤ
  cost_type : CostType
  work : Work

/-- the stored rows, the requests under way, the results of all successful requests, and the days of the advertisement
summons among them -/
structure Shared (ρ : Type) where
  db : Db ρ
  pending : ℕ → Option Pending
  drawn : List ResultData
  ads : List ℤ
  today : ℤ

/-- `WatchAds` on a day: a count of another day is forgotten, and a free summon is counted up to the limit -/
structure WatchAdsOk (watchAds : ℤ → ℤ → ℤ → ℤ → Option (ℤ × ℤ)) : Prop where
  counts : ∀ {day ads_count ads_reset_day limit n d}, watchAds day ads_count ads_reset_day limit = some (n, d) →
    d = day ∧ n = used ads_count ads_reset_day day + 1 ∧ used ads_count ads_reset_day day < limit

/-- the last `result_count` of an item -/
def lastCount (results : List ResultData) (idx : ℤ) : Option ℤ :=
  ((results.filter fun d => d.idx = idx).getLast?).map (·.result_count)

/-- `MergeHelperResultData` has one entry an item, with the last `result_count` -/
structure MergeOk (merge : List ResultData → List (ℤ × ℤ)) : Prop where
  keys : ∀ results, ((merge results).map Prod.fst).Nodup
  last : ∀ results idx n, (idx, n) ∈ merge results ↔ lastCount results idx = some n

section

variable {ρ : Type} (E : Env ρ) (watchAds : ℤ → ℤ → ℤ → ℤ → Option (ℤ × ℤ)) (type : ℤ)

/-- the server on a day -/
def Env.onDay (day : ℤ) : Env ρ := { E with watchAds := watchAds day }

def serveTx (h : Shared ρ) (e : ℤ × Tx) : Shared ρ :=
  match e.2 with
  | .read i count cost_type =>
    match h.db.summon, summonRead (E.onDay watchAds e.1) type count cost_type h.db with
    | some row, .ok work =>
      { h with pending := Function.update h.pending i (some ⟨row, e.1, cost_type, work⟩), today := e.1 }
    | _, _ => { h with today := e.1 }
  | .write i box =>
    match h.pending i with
    | none => { h with today := e.1 }
    | some p =>
      match summonDraw E type box p.work.summon_count.toNat 0 p.work with
      | none => { h with pending := Function.update h.pending i none, today := e.1 }
      | some w =>
        let reply := summonWrite E type w h.db
        { db := reply.db
          pending := Function.update h.pending i none
          drawn := h.drawn ++ reply.SummonResults
          ads := if reply.result = .SUCCESS ∧ p.cost_type = .ADS then h.ads ++ [p.day] else h.ads
          today := e.1 }

def startTx (db : Db ρ) (day : ℤ) : Shared ρ := ⟨db, fun _ => none, [], [], day⟩

/-- days never go back -/
def legalTx (h : Shared ρ) (e : ℤ × Tx) : Prop := h.today ≤ e.1

/-- a request that pays its cost finds the row as it has read it -/
def current (h : Shared ρ) (e : ℤ × Tx) : Prop :=
  match e.2 with
  | .read .. => True
  | .write i box =>
    match h.pending i with
    | none => True
    | some p =>
      match summonDraw E type box p.work.summon_count.toNat 0 p.work with
      | none => True
      | some w => consumeCost E w h.db = none ∨ h.db.summon = some p.row

instance (h : Shared ρ) (e : ℤ × Tx) : Decidable (legalTx h e) := inferInstanceAs (Decidable (_ ≤ _))

instance (h : Shared ρ) (e : ℤ × Tx) : Decidable (current E type h e) := by
  unfold current
  split
  · infer_instance
  · split
    · infer_instance
    · split <;> infer_instance

/-! ## The property -/

/-- the count of an item; an item without a row has none -/
def itemCount (db : Db ρ) (idx : ℤ) : ℤ := (db.equipment idx).getD 0

/-- everything drawn for an item -/
def drawnCount (drawn : List ResultData) (idx : ℤ) : ℤ := Tally.sumAt idx (drawn.map fun d => (d.idx, d.add_count))

/-- every draw is in the stored counts, the level is that of one request with all the draws, and no day has more
advertisement summons than the limit -/
structure NoSummonLost (db₀ : Db ρ) (h : Shared ρ) : Prop where
  counts : ∀ idx, itemCount h.db idx = itemCount db₀ idx + drawnCount h.drawn idx
  level : ∀ day count cost_type w₀ box w, summonRead (E.onDay watchAds day) type count cost_type db₀ = .ok w₀ →
    summonDraw E type box h.drawn.length 0 w₀ = some w →
      ∃ row, h.db.summon = some row ∧ row.level = w.level ∧ row.exp = w.exp
  ads : ∀ day ∈ h.ads, (h.ads.count day : ℤ) ≤ E.SUMMON_ADS_LIMIT

/-! ## What the draws do -/

/-- the order in which positions are reached -/
def posKey (p : Pos) : ℤ ×ₗ ℤ := toLex (p.level, p.exp)

/-- a position with its table row -/
def Work.posInfo (w : Work) : Pos × LevelRow := (w.pos, w.info)

/-- one summon on a position with its table row -/
def gainPos (s : Pos × LevelRow) : Pos × LevelRow :=
  if s.2.next_count ≤ s.1.exp + 1 then
    match E.byTypeLevel type (s.1.level + 1) with
    | some next => (⟨s.1.level + 1, s.1.exp + 1 - s.2.next_count⟩, next)
    | none => (⟨s.1.level, s.1.exp + 1⟩, s.2)
  else (⟨s.1.level, s.1.exp + 1⟩, s.2)

variable {E type}

theorem gainExp_posInfo (E : Env ρ) (type : ℤ) (w : Work) : (gainExp E type w).posInfo = gainPos E type w.posInfo := by
  unfold gainExp gainPos Work.posInfo Work.pos
  dsimp only
  split_ifs
  · cases E.byTypeLevel type (w.level + 1) <;> rfl
  · rfl

theorem gainPos_lt (s : Pos × LevelRow) : posKey s.1 < posKey (gainPos E type s).1 := by
  unfold gainPos posKey
  rw [Prod.Lex.toLex_lt_toLex]
  split_ifs
  · split
    · exact Or.inl (lt_add_one _)
    · exact Or.inr ⟨rfl, lt_add_one _⟩
  · exact Or.inr ⟨rfl, lt_add_one _⟩

/-- the row in hand stays the row of the level -/
theorem gainPos_info {s : Pos × LevelRow} (h : levelInfo E type s.1.level = some s.2) :
    levelInfo E type (gainPos E type s).1.level = some (gainPos E type s).2 := by
  unfold gainPos
  split_ifs
  · cases hnext : E.byTypeLevel type (s.1.level + 1) with
    | some next => simp only [levelInfo, hnext]
    | none => exact h
  · exact h

theorem gains_info (E : Env ρ) (type : ℤ) {s : Pos × LevelRow} (h : levelInfo E type s.1.level = some s.2) (n : ℕ) :
    levelInfo E type ((gainPos E type)^[n] s).1.level = some ((gainPos E type)^[n] s).2 := by
  induction n generalizing s with
  | zero => exact h
  | succ n ih => exact ih (gainPos_info h)

theorem gains_le (s : Pos × LevelRow) (n : ℕ) : posKey s.1 ≤ posKey ((gainPos E type)^[n] s).1 := by
  induction n generalizing s with
  | zero => exact le_rfl
  | succ n ih => exact (gainPos_lt s).le.trans (ih (gainPos E type s))

theorem gains_lt (E : Env ρ) (type : ℤ) (s : Pos × LevelRow) {n : ℕ} (hn : 0 < n) :
    posKey s.1 < posKey ((gainPos E type)^[n] s).1 := by
  obtain ⟨m, rfl⟩ : ∃ m, n = m + 1 := ⟨n - 1, by omega⟩
  exact (gainPos_lt s).trans_le (gains_le (gainPos E type s) m)

/-- an item without a row counts from zero -/
theorem addResult_eq (result_idx result_count : ℤ) (w : Work) :
    addResult result_idx result_count w =
      { w with
        user_equipment_count_dict := Function.update w.user_equipment_count_dict result_idx
          (some ((w.user_equipment_count_dict result_idx).getD 0 + result_count))
        summon_results := w.summon_results ++
          [⟨result_idx, result_count, (w.user_equipment_count_dict result_idx).getD 0 + result_count, 0⟩] } := by
  unfold addResult
  cases w.user_equipment_count_dict result_idx <;> simp

/-- the experience of a summon touches nothing else -/
theorem gainExp_keeps (E : Env ρ) (type : ℤ) (w : Work) :
    (gainExp E type w).ads_count = w.ads_count ∧ (gainExp E type w).ads_reset_day = w.ads_reset_day ∧
      (gainExp E type w).summon_results = w.summon_results ∧
      (gainExp E type w).user_equipment_count_dict = w.user_equipment_count_dict := by
  unfold gainExp
  dsimp only
  split_ifs
  · split <;> exact ⟨rfl, rfl, rfl, rfl⟩
  · exact ⟨rfl, rfl, rfl, rfl⟩

/-- the write of every result in turn -/
def writeAll (results : List ResultData) (equipment : ℤ → Option ℤ) : ℤ → Option ℤ :=
  results.foldl (fun e d => Function.update e d.idx (some d.result_count)) equipment

/-- what `n` draws make of a request -/
structure Draws (E : Env ρ) (type : ℤ) (n : ℕ) (new : List ResultData) (w w' : Work) : Prop where
  posInfo : w'.posInfo = (gainPos E type)^[n] w.posInfo
  ads : w'.ads_count = w.ads_count ∧ w'.ads_reset_day = w.ads_reset_day
  results : w'.summon_results = w.summon_results ++ new
  length : new.length = n
  dict : w'.user_equipment_count_dict = writeAll new w.user_equipment_count_dict
  counts : ∀ idx, (w'.user_equipment_count_dict idx).getD 0 =
    (w.user_equipment_count_dict idx).getD 0 + drawnCount new idx

theorem Draws.refl (w : Work) : Draws E type 0 [] w w := ⟨rfl, ⟨rfl, rfl⟩, by simp, rfl, rfl, by simp [drawnCount]⟩

theorem drawnCount_append (a b : List ResultData) (idx : ℤ) :
    drawnCount (a ++ b) idx = drawnCount a idx + drawnCount b idx := by
  unfold drawnCount
  rw [List.map_append, Tally.sumAt_append]

/-- one draw, and the rest -/
theorem Draws.step {n : ℕ} {new : List ResultData} {w w' : Work} {result_idx result_count : ℤ}
    (h : Draws E type n new (addResult result_idx result_count (gainExp E type w)) w') :
    ∃ d, Draws E type (n + 1) (d :: new) w w' := by
  have hpos := gainExp_posInfo E type w
  obtain ⟨hads, hday, hresults, hdict⟩ := gainExp_keeps E type w
  generalize gainExp E type w = g at h hpos hads hday hresults hdict
  rw [addResult_eq] at h
  set count : ℤ := (g.user_equipment_count_dict result_idx).getD 0 + result_count with hcount
  refine ⟨⟨result_idx, result_count, count, 0⟩, ?_, ?_, ?_, ?_, ?_, ?_⟩
  · rw [Function.iterate_succ_apply, ← hpos]
    exact h.posInfo
  · exact ⟨h.ads.1.trans hads, h.ads.2.trans hday⟩
  · rw [h.results, ← hresults]
    simp
  · rw [List.length_cons, h.length]
  · rw [h.dict, ← hdict]
    rfl
  · intro idx
    rw [h.counts, ← hdict]
    simp only [drawnCount, List.map_cons, Tally.sumAt_cons]
    by_cases hidx : idx = result_idx
    · subst hidx
      rw [Function.update_self, if_pos rfl, Option.getD_some, hcount]
      ring
    · rw [Function.update_of_ne hidx, if_neg (Ne.symm hidx)]
      ring

theorem summonDraw_draws {box : Box} {n i : ℕ} {w w' : Work} (h : summonDraw E type box n i w = some w') :
    ∃ new, Draws E type n new w w' := by
  induction n generalizing i w with
  | zero =>
    rw [summonDraw, Option.some.injEq] at h
    subst h
    exact ⟨[], Draws.refl w⟩
  | succ n ih =>
    rw [summonDraw] at h
    split at h
    · cases h
    · obtain ⟨new, hnew⟩ := ih h
      obtain ⟨d, hd⟩ := hnew.step
      exact ⟨d :: new, hd⟩

/-! ## The merged write -/

theorem writeAll_apply (results : List ResultData) (equipment : ℤ → Option ℤ) (idx : ℤ) :
    writeAll results equipment idx = (lastCount results idx).or (equipment idx) := by
  induction results using List.reverseRecOn with
  | nil => simp [writeAll, lastCount]
  | append_singleton results d ih =>
    have hlast : writeAll (results ++ [d]) equipment =
        Function.update (writeAll results equipment) d.idx (some d.result_count) := by simp [writeAll]
    rw [hlast]
    by_cases hidx : d.idx = idx
    · subst hidx
      simp [lastCount, List.filter_append]
    · rw [Function.update_of_ne (Ne.symm hidx), ih]
      simp [lastCount, List.filter_append, hidx]

/-- an entry is written, and other items keep their rows -/
theorem writeEquipment_apply {merged : List (ℤ × ℤ)} (hnd : (merged.map Prod.fst).Nodup) (equipment : ℤ → Option ℤ)
    (idx : ℤ) : (∀ n, (idx, n) ∈ merged → writeEquipment merged equipment idx = some n) ∧
      ((∀ n, (idx, n) ∉ merged) → writeEquipment merged equipment idx = equipment idx) := by
  induction merged generalizing equipment with
  | nil => simp [writeEquipment]
  | cons v merged ih =>
    obtain ⟨hv, hnd'⟩ := List.nodup_cons.1 hnd
    obtain ⟨hin, hout⟩ := ih hnd' (Function.update equipment v.1 (some v.2))
    have hcons : writeEquipment (v :: merged) equipment =
        writeEquipment merged (Function.update equipment v.1 (some v.2)) := rfl
    rw [hcons]
    refine ⟨?_, ?_⟩
    · intro n hn
      rcases List.mem_cons.1 hn with heq | hn
      · subst heq
        have hno : ∀ m, (idx, m) ∉ merged := fun m hm => hv (List.mem_map.2 ⟨(idx, m), hm, rfl⟩)
        rw [hout hno, Function.update_self]
      · exact hin n hn
    · intro hno
      rw [hout fun n hn => hno n (List.mem_cons_of_mem v hn)]
      refine Function.update_of_ne ?_ _ _
      intro heq
      exact hno v.2 (heq ▸ List.mem_cons_self)

/-- the merged write is the write of every result in turn -/
theorem merged_write {merge : List ResultData → List (ℤ × ℤ)} (hM : MergeOk merge) (results : List ResultData)
    (equipment : ℤ → Option ℤ) : writeEquipment (merge results) equipment = writeAll results equipment := by
  funext idx
  obtain ⟨hin, hout⟩ := writeEquipment_apply (hM.keys results) equipment idx
  rw [writeAll_apply]
  cases hlast : lastCount results idx with
  | none =>
    rw [hout fun n hn => ?_]
    · rfl
    · rw [(hM.last results idx n).1 hn] at hlast
      cases hlast
  | some n =>
    rw [hin n ((hM.last results idx n).2 hlast)]
    rfl

/-! ## What a pending request knows -/

/-- the first transaction: the copies of the row and of the counts, and the advertisement counter -/
structure ReadOk (E : Env ρ) (watchAds : ℤ → ℤ → ℤ → ℤ → Option (ℤ × ℤ)) (type : ℤ) (p : Pending) : Prop where
  pos : p.work.pos = p.row.pos
  info : levelInfo E type p.row.level = some p.work.info
  results : p.work.summon_results = []
  plain : p.cost_type ≠ .ADS → p.work.ads_count = p.row.ads_count ∧ p.work.ads_reset_day = p.row.ads_reset_day
  free : p.cost_type = .ADS → watchAds p.day p.row.ads_count p.row.ads_reset_day E.SUMMON_ADS_LIMIT =
    some (p.work.ads_count, p.work.ads_reset_day)

theorem summonRead_readOk {watchAds : ℤ → ℤ → ℤ → ℤ → Option (ℤ × ℤ)} {day count : ℤ} {cost_type : CostType} {db : Db ρ}
    {row : SummonRow} {w : Work} (hrow : db.summon = some row)
    (h : summonRead (E.onDay watchAds day) type count cost_type db = .ok w) :
    ReadOk E watchAds type ⟨row, day, cost_type, w⟩ ∧ w.user_equipment_count_dict = db.equipment := by
  obtain ⟨hpos, hinfo, hresults⟩ := summonRead_ok (E.onDay watchAds day) type hrow h
  have hcopy : (cost_type ≠ .ADS → w.ads_count = row.ads_count ∧ w.ads_reset_day = row.ads_reset_day) ∧
      (cost_type = .ADS → watchAds day row.ads_count row.ads_reset_day E.SUMMON_ADS_LIMIT =
        some (w.ads_count, w.ads_reset_day)) ∧ w.user_equipment_count_dict = db.equipment := by
    unfold summonRead at h
    rw [hrow] at h
    dsimp only at h
    split at h
    · cases h
    · split at h
      · split_ifs at h
        cases h
        exact ⟨fun _ => ⟨rfl, rfl⟩, fun hads => (by cases hads), rfl⟩
      · split_ifs at h
        split at h
        · cases h
        · split_ifs at h
          cases h
          exact ⟨fun _ => ⟨rfl, rfl⟩, fun hads => (by cases hads), rfl⟩
      · split at h
        · cases h
        · rename_i ads_count ads_reset_day hwatch
          cases h
          exact ⟨fun hne => absurd rfl hne, fun _ => hwatch, rfl⟩
      · cases h
  exact ⟨⟨hpos, hinfo, hresults, hcopy.1, hcopy.2.1⟩, hcopy.2.2⟩

section

variable {watchAds : ℤ → ℤ → ℤ → ℤ → Option (ℤ × ℤ)} {p : Pending} {n : ℕ} {new : List ResultData} {w : Work}

/-- the draws go on from the row that was read -/
theorem ReadOk.draws_posInfo (hok : ReadOk E watchAds type p) (hnew : Draws E type n new p.work w) :
    w.posInfo = (gainPos E type)^[new.length] (p.row.pos, p.work.info) := by
  rw [hnew.posInfo, hnew.length, Work.posInfo, hok.pos]

/-- after the draws the position is a later one, or nothing has been drawn -/
theorem ReadOk.draws_move (hok : ReadOk E watchAds type p) (hnew : Draws E type n new p.work w) :
    posKey p.row.pos < posKey w.pos ∨
      p.row.pos = w.pos ∧ p.work.user_equipment_count_dict = w.user_equipment_count_dict := by
  have hpos := hok.draws_posInfo hnew
  by_cases hn : 0 < new.length
  · left
    have hlt := gains_lt E type (p.row.pos, p.work.info) hn
    rw [← hpos] at hlt
    exact hlt
  · right
    obtain rfl : new = [] := List.length_eq_zero_iff.1 (by omega)
    refine ⟨(congrArg Prod.fst hpos).symm, ?_⟩
    rw [hnew.dict]
    rfl

/-- the advertisement counter after the draws keeps the quota -/
theorem ReadOk.draws_quota (hok : ReadOk E watchAds type p) (hnew : Draws E type n new p.work w)
    (hW : WatchAdsOk watchAds) {ads : List ℤ} (hreset : p.row.ads_reset_day ≤ p.day)
    (hquota : Quota E.SUMMON_ADS_LIMIT p.row.ads_count p.row.ads_reset_day ads) :
    Quota E.SUMMON_ADS_LIMIT w.ads_count w.ads_reset_day (if p.cost_type = .ADS then ads ++ [p.day] else ads) ∧
      w.ads_reset_day ≤ p.day := by
  rw [hnew.ads.1, hnew.ads.2]
  split_ifs with hads
  · obtain ⟨h1, h2, h3⟩ := hW.counts (hok.free hads)
    rw [h1, h2]
    exact ⟨hquota.grant hreset h3, le_rfl⟩
  · obtain ⟨h1, h2⟩ := hok.plain hads
    rw [h1, h2]
    exact ⟨hquota, hreset⟩

end

/-- a pending request is behind the stored row, or nobody has drawn since it read -/
def SeenBy (p : Pending) (row : SummonRow) (equipment : ℤ → Option ℤ) : Prop :=
  posKey p.row.pos < posKey row.pos ∨ p.row.pos = row.pos ∧ p.work.user_equipment_count_dict = equipment

theorem SeenBy.later {p : Pending} {row row' : SummonRow} {equipment equipment' : ℤ → Option ℤ}
    (h : SeenBy p row equipment)
    (hmove : posKey row.pos < posKey row'.pos ∨ row.pos = row'.pos ∧ equipment = equipment') :
    SeenBy p row' equipment' := by
  rcases hmove with hlt | ⟨hpos, heq⟩
  · rcases h with h | ⟨h, -⟩
    · exact Or.inl (h.trans hlt)
    · exact Or.inl (h ▸ hlt)
  · unfold SeenBy
    rw [← hpos, ← heq]
    exact h

/-! ## One transaction -/

section Step

variable {watchAds : ℤ → ℤ → ℤ → ℤ → Option (ℤ × ℤ)} {db₀ : Db ρ} {row₀ : SummonRow}

/-- the invariant of a run from `db₀` with the row `row₀` -/
structure InvTx (E : Env ρ) (watchAds : ℤ → ℤ → ℤ → ℤ → Option (ℤ × ℤ)) (type : ℤ) (db₀ : Db ρ) (row₀ : SummonRow)
    (h : Shared ρ) (row : SummonRow) : Prop where
  stored : h.db.summon = some row
  counts : ∀ idx, itemCount h.db idx = itemCount db₀ idx + drawnCount h.drawn idx
  pos : ∀ info₀, levelInfo E type row₀.level = some info₀ →
    ∃ info, (row.pos, info) = (gainPos E type)^[h.drawn.length] (row₀.pos, info₀)
  quota : Quota E.SUMMON_ADS_LIMIT row.ads_count row.ads_reset_day h.ads
  day : row.ads_reset_day ≤ h.today
  ready : ∀ i p, h.pending i = some p → ReadOk E watchAds type p ∧ p.row.ads_reset_day ≤ p.day ∧ p.day ≤ h.today
  seen : ∀ i p, h.pending i = some p → SeenBy p row h.db.equipment

theorem InvTx.start (hrow : db₀.summon = some row₀) (hads : 0 ≤ row₀.ads_count) {day : ℤ}
    (hday : row₀.ads_reset_day ≤ day) : InvTx E watchAds type db₀ row₀ (startTx db₀ day) row₀ where
  stored := hrow
  counts idx := by simp [startTx, drawnCount]
  pos info₀ _ := ⟨info₀, rfl⟩
  quota := Quota.nil _ hads _
  day := hday
  ready i p hp := by cases hp
  seen i p hp := by cases hp

/-- time passes, and a request starts or ends -/
theorem InvTx.update {h : Shared ρ} {row : SummonRow} (hinv : InvTx E watchAds type db₀ row₀ h row) {day : ℤ}
    (hle : h.today ≤ day) (i : ℕ) {v : Option Pending}
    (hv : ∀ p, v = some p → ReadOk E watchAds type p ∧ p.row.ads_reset_day ≤ p.day ∧ p.day ≤ day)
    (hseen : ∀ p, v = some p → SeenBy p row h.db.equipment) :
    InvTx E watchAds type db₀ row₀ { h with pending := Function.update h.pending i v, today := day } row := by
  have hready : ∀ j p, h.pending j = some p → ReadOk E watchAds type p ∧ p.row.ads_reset_day ≤ p.day ∧ p.day ≤ day := by
    intro j p hp
    obtain ⟨h1, h2, h3⟩ := hinv.ready j p hp
    exact ⟨h1, h2, h3.trans hle⟩
  refine ⟨hinv.stored, hinv.counts, hinv.pos, hinv.quota, hinv.day.trans hle, ?_, ?_⟩
  · exact (Function.forall_update_iff h.pending fun _ w => ∀ p, w = some p →
      ReadOk E watchAds type p ∧ p.row.ads_reset_day ≤ p.day ∧ p.day ≤ day).2 ⟨hv, fun j _ => hready j⟩
  · exact (Function.forall_update_iff h.pending fun _ w => ∀ p, w = some p → SeenBy p row h.db.equipment).2
      ⟨hseen, fun j _ => hinv.seen j⟩

theorem InvTx.later {h : Shared ρ} {row : SummonRow} (hinv : InvTx E watchAds type db₀ row₀ h row) {day : ℤ}
    (hle : h.today ≤ day) : InvTx E watchAds type db₀ row₀ { h with today := day } row :=
  ⟨hinv.stored, hinv.counts, hinv.pos, hinv.quota, hinv.day.trans hle,
    fun i p hp => ⟨(hinv.ready i p hp).1, (hinv.ready i p hp).2.1, (hinv.ready i p hp).2.2.trans hle⟩, hinv.seen⟩

/-- the first transaction -/
theorem read_inv {h : Shared ρ} {row : SummonRow} (hinv : InvTx E watchAds type db₀ row₀ h row) {day : ℤ}
    (hle : h.today ≤ day) (i : ℕ) (count : ℤ) (cost_type : CostType) :
    InvTx E watchAds type db₀ row₀ (serveTx E watchAds type h (day, .read i count cost_type)) row := by
  simp only [serveTx]
  split
  · rename_i row' work hrow' hread
    obtain rfl : row = row' := Option.some.inj (hinv.stored.symm.trans hrow')
    obtain ⟨hok, hdict⟩ := summonRead_readOk hrow' hread
    refine hinv.update hle i ?_ ?_
    · intro p hp
      rw [← Option.some.inj hp]
      exact ⟨hok, hinv.day.trans hle, le_rfl⟩
    · intro p hp
      rw [← Option.some.inj hp]
      exact Or.inr ⟨rfl, hdict⟩
  · exact hinv.later hle

/-- the second transaction -/
theorem write_inv {h : Shared ρ} {row : SummonRow} (hW : WatchAdsOk watchAds) (hM : MergeOk E.mergeHelperResultData)
    (hinv : InvTx E watchAds type db₀ row₀ h row) {day : ℤ} (hle : h.today ≤ day) {i : ℕ} {box : Box}
    (hc : current E type h (day, .write i box)) :
    ∃ row', InvTx E watchAds type db₀ row₀ (serveTx E watchAds type h (day, .write i box)) row' := by
  have hend := hinv.update hle i (v := none) (fun p hp => by cases hp) fun p hp => by cases hp
  cases hp : h.pending i with
  | none =>
    simp only [serveTx, hp]
    exact ⟨row, hinv.later hle⟩
  | some p =>
    obtain ⟨hok, hpreset, hpday⟩ := hinv.ready i p hp
    cases hdraw : summonDraw E type box p.work.summon_count.toNat 0 p.work with
    | none =>
      simp only [serveTx, hp, hdraw]
      exact ⟨row, hend⟩
    | some w =>
      simp only [serveTx, hp, hdraw]
      obtain ⟨new, hnew⟩ := summonDraw_draws hdraw
      have hresults : w.summon_results = new := by rw [hnew.results, hok.results, List.nil_append]
      unfold summonWrite
      cases hcost : consumeCost E w h.db with
      | none =>
        simp only [List.append_nil, reduceCtorEq, false_and, if_false]
        exact ⟨row, hend⟩
      | some paid =>
        -- the request pays, so its row is the stored one, and its counts are the stored ones
        have hrow : h.db.summon = some p.row := by simpa [current, hp, hdraw, hcost] using hc
        obtain rfl : row = p.row := Option.some.inj (hinv.stored.symm.trans hrow)
        have hdict : p.work.user_equipment_count_dict = h.db.equipment := by
          rcases hinv.seen i p hp with hlt | ⟨-, hdict⟩
          · exact absurd hlt (lt_irrefl _)
          · exact hdict
        have hequip : writeEquipment (E.mergeHelperResultData w.summon_results) h.db.equipment =
            w.user_equipment_count_dict := by
          rw [merged_write hM, hresults, ← hdict, hnew.dict]
        have hquota := hok.draws_quota hnew hW hpreset hinv.quota
        obtain ⟨resource, resultDatas⟩ := paid
        simp only [true_and]
        refine ⟨{ p.row with
          level := w.level, exp := w.exp, ads_count := w.ads_count, ads_reset_day := w.ads_reset_day },
          ?_, ?_, ?_, hquota.1, hquota.2.trans (hpday.trans hle), ?_, ?_⟩
        · rw [hrow]
          rfl
        · intro idx
          rw [itemCount, hequip, hresults]
          calc (w.user_equipment_count_dict idx).getD 0
              = itemCount h.db idx + drawnCount new idx := by rw [hnew.counts, hdict, itemCount]
            _ = itemCount db₀ idx + drawnCount h.drawn idx + drawnCount new idx := by rw [hinv.counts]
            _ = itemCount db₀ idx + drawnCount (h.drawn ++ new) idx := by rw [drawnCount_append, add_assoc]
        · intro info₀ hinfo₀
          obtain ⟨info, hpos⟩ := hinv.pos info₀ hinfo₀
          have hsync := gains_info E type (s := (row₀.pos, info₀)) hinfo₀ h.drawn.length
          rw [← hpos] at hsync
          obtain rfl : p.work.info = info := Option.some.inj (hok.info.symm.trans hsync)
          refine ⟨w.info, ?_⟩
          dsimp only
          rw [hresults, List.length_append, Nat.add_comm, Function.iterate_add_apply, ← hpos, ← hok.draws_posInfo hnew]
          rfl
        · exact hend.ready
        · intro j q hq
          refine (hend.seen j q hq).later ?_
          dsimp only
          rw [hequip, ← hdict]
          exact hok.draws_move hnew

/-- step lemma -/
theorem serveTx_inv {h : Shared ρ} {row : SummonRow} (hW : WatchAdsOk watchAds) (hM : MergeOk E.mergeHelperResultData)
    (hinv : InvTx E watchAds type db₀ row₀ h row) (e : ℤ × Tx) (hl : legalTx h e) (hc : current E type h e) :
    ∃ row', InvTx E watchAds type db₀ row₀ (serveTx E watchAds type h e) row' := by
  obtain ⟨day, tx⟩ := e
  cases tx with
  | read i count cost_type => exact ⟨row, read_inv hinv hl i count cost_type⟩
  | write i box => exact write_inv hW hM hinv hl hc

theorem InvTx.noSummonLost {h : Shared ρ} {row : SummonRow} (hrow : db₀.summon = some row₀)
    (hinv : InvTx E watchAds type db₀ row₀ h row) : NoSummonLost E watchAds type db₀ h := by
  refine ⟨hinv.counts, ?_, hinv.quota.bound⟩
  intro day count cost_type w₀ box w hread hdraw
  obtain ⟨⟨hpos, hinfo, -, -, -⟩, -⟩ := summonRead_readOk hrow hread
  obtain ⟨new, hnew⟩ := summonDraw_draws hdraw
  obtain ⟨info, hrun⟩ := hinv.pos w₀.info hinfo
  have hposInfo : (row.pos, info) = w.posInfo := by
    rw [hrun, hnew.posInfo, Work.posInfo, hpos]
  have hsame : row.pos = w.pos := congrArg Prod.fst hposInfo
  exact ⟨row, hinv.stored, congrArg Pos.level hsame, congrArg Pos.exp hsame⟩

/-- without a row nothing is ever read -/
theorem serveTx_idle (E : Env ρ) (watchAds : ℤ → ℤ → ℤ → ℤ → Option (ℤ × ℤ)) (type : ℤ) {h : Shared ρ}
    (hnone : db₀.summon = none)
    (hinv : h.db = db₀ ∧ (∀ i, h.pending i = none) ∧ h.drawn = [] ∧ h.ads = []) (e : ℤ × Tx) :
    (serveTx E watchAds type h e).db = db₀ ∧ (∀ i, (serveTx E watchAds type h e).pending i = none) ∧
      (serveTx E watchAds type h e).drawn = [] ∧ (serveTx E watchAds type h e).ads = [] := by
  obtain ⟨day, tx⟩ := e
  cases tx with
  | read i count cost_type =>
    have hread : h.db.summon = none := by rw [hinv.1, hnone]
    simp only [serveTx, hread]
    exact hinv
  | write i box =>
    simp only [serveTx, hinv.2.1 i]
    exact hinv

end Step

/-! ## Whole runs -/

/-- **Interleaved summons lose nothing, if every write meets the row that its request has read.** The runs are all
interleavings of the transactions of any number of requests. -/
theorem no_summon_lost (E : Env ρ) (watchAds : ℤ → ℤ → ℤ → ℤ → Option (ℤ × ℤ)) (type : ℤ) (hW : WatchAdsOk watchAds)
    (hM : MergeOk E.mergeHelperResultData) (db₀ : Db ρ) (day₀ : ℤ)
    (hrow : ∀ row₀, db₀.summon = some row₀ → 0 ≤ row₀.ads_count ∧ row₀.ads_reset_day ≤ day₀) (txs : List (ℤ × Tx))
    (hrun : LegalRun (serveTx E watchAds type) (fun h e => legalTx h e ∧ current E type h e) (startTx db₀ day₀) txs) :
    NoSummonLost E watchAds type db₀ (run (serveTx E watchAds type) (startTx db₀ day₀) txs) := by
  cases hsummon : db₀.summon with
  | none =>
    obtain ⟨hdb, -, hdrawn, hads⟩ :=
      run_inv_all (I := fun h => h.db = db₀ ∧ (∀ i, h.pending i = none) ∧ h.drawn = [] ∧ h.ads = [])
        (fun h e hinv => serveTx_idle E watchAds type hsummon hinv e)
        (s := startTx db₀ day₀) ⟨rfl, fun _ => rfl, rfl, rfl⟩ txs
    refine ⟨?_, ?_, ?_⟩
    · intro idx
      rw [hdb, hdrawn]
      simp [drawnCount]
    · intro day count cost_type w₀ box w hread
      simp [summonRead, hsummon] at hread
    · simp [hads]
  | some row₀ =>
    obtain ⟨hads, hday⟩ := hrow row₀ hsummon
    have hinv : ∃ row, InvTx E watchAds type db₀ row₀ (run (serveTx E watchAds type) (startTx db₀ day₀) txs) row := by
      refine run_inv (I := fun h => ∃ row, InvTx E watchAds type db₀ row₀ h row) ?_
        ⟨row₀, InvTx.start hsummon hads hday⟩ hrun
      intro h e hi hl
      obtain ⟨row, hi⟩ := hi
      exact serveTx_inv hW hM hi e hl.1 hl.2
    obtain ⟨row, hinv⟩ := hinv
    exact hinv.noSummonLost hsummon

end

/-- the merge that keeps the last entry of an item -/
def mergeLast (results : List ResultData) : List (ℤ × ℤ) :=
  (results.map (·.idx)).dedup.map fun idx => (idx, (lastCount results idx).getD 0)

theorem lastCount_isSome (results : List ResultData) (idx : ℤ) :
    (lastCount results idx).isSome ↔ idx ∈ results.map (·.idx) := by
  unfold lastCount
  simp

theorem mergeLast_ok : MergeOk mergeLast where
  keys results := by
    have hkeys : (mergeLast results).map Prod.fst = (results.map (·.idx)).dedup := by simp [mergeLast, Function.comp_def]
    rw [hkeys]
    exact List.nodup_dedup _
  last results idx n := by
    unfold mergeLast
    rw [List.mem_map]
    constructor
    · rintro ⟨idx', hmem, heq⟩
      obtain ⟨rfl, hn⟩ := Prod.mk.inj heq
      rw [List.mem_dedup, ← lastCount_isSome] at hmem
      obtain ⟨m, hm⟩ := Option.isSome_iff_exists.1 hmem
      rw [hm] at hn ⊢
      rw [← hn]
      rfl
    · intro hlast
      refine ⟨idx, ?_, by rw [hlast]; rfl⟩
      rw [List.mem_dedup, ← lastCount_isSome, hlast]
      rfl

/-- the small game with one advertisement a day -/
def raceEnv : Env ℤ := { sampleEnv with SUMMON_ADS_LIMIT := 1, mergeHelperResultData := mergeLast }

def raceAds (day ads_count ads_reset_day limit : ℤ) : Option (ℤ × ℤ) :=
  if used ads_count ads_reset_day day < limit then some (used ads_count ads_reset_day day + 1, day) else none

theorem raceAds_ok : WatchAdsOk raceAds where
  counts h := by
    unfold raceAds at h
    split_ifs at h with hlt
    cases h
    exact ⟨rfl, rfl, hlt⟩

/-- two advertisement summons in turn, the second one on the next day, and a summon for diamonds that is read early -/
def turns : List (ℤ × Tx) :=
  [(5, .read 0 0 .ADS), (5, .write 0 sampleBox), (6, .read 1 0 .ADS), (6, .write 1 sampleBox), (6, .read 2 3 .COMMON),
    (6, .read 3 0 .ADS), (6, .write 2 sampleBox)]

/-- seven summons of item 9: level 3 with two points, and one advertisement a day -/
theorem no_summon_lost_turns :
    (run (serveTx raceEnv raceAds 0) (startTx sampleDb 5) turns).db.summon = some ⟨3, 2, 0, 1, 6⟩ ∧
      itemCount (run (serveTx raceEnv raceAds 0) (startTx sampleDb 5) turns).db 9 = 7 ∧
      NoSummonLost raceEnv raceAds 0 sampleDb (run (serveTx raceEnv raceAds 0) (startTx sampleDb 5) turns) := by
  refine ⟨by decide, by decide, no_summon_lost raceEnv raceAds 0 raceAds_ok mergeLast_ok sampleDb 5 ?_ turns (by decide)⟩
  intro row₀ hrow
  obtain rfl := Option.some.inj hrow
  decide

/-- two advertisement summons that read their rows before either of them writes -/
def race : List (ℤ × Tx) :=
  [(5, .read 0 0 .ADS), (5, .read 1 0 .ADS), (5, .write 0 sampleBox), (5, .write 1 sampleBox)]

/-- **A write on an older row takes back what was written in between**: both requests draw item 9 twice, two of the four
are lost, and both advertisements of a day with one are granted. -/
theorem summon_lost :
    LegalRun (serveTx raceEnv raceAds 0) legalTx (startTx sampleDb 5) race ∧
      (run (serveTx raceEnv raceAds 0) (startTx sampleDb 5) race).db.summon = some ⟨2, 0, 0, 1, 5⟩ ∧
      drawnCount (run (serveTx raceEnv raceAds 0) (startTx sampleDb 5) race).drawn 9 = 4 ∧
      itemCount (run (serveTx raceEnv raceAds 0) (startTx sampleDb 5) race).db 9 = 2 ∧
      (run (serveTx raceEnv raceAds 0) (startTx sampleDb 5) race).ads = [5, 5] ∧
      ¬ NoSummonLost raceEnv raceAds 0 sampleDb (run (serveTx raceEnv raceAds 0) (startTx sampleDb 5) race) := by
  refine ⟨by decide, by decide, by decide, by decide, by decide, ?_⟩
  intro h
  exact absurd (h.counts 9) (by decide)

end GameServer.Summon
