/-
The event exchange shop of one user, `Python/Event.py`: `sp_EventCommonExchangeBuy`. The user's event row keeps a point
balance and how often each slot was bought; a slot sells its row of table 883.

A purchase reads the row, checks the limit of the slot and the points, and writes: the points by a relative update, the
bought counts as a whole dictionary that it has read. So the points are right whatever comes in between, while the
dictionary may be out of date (`exchangeRead`, `exchangeWrite`).

- `exchange_ledger`: one purchase after the other. Limits, points, counts and the goods that were supplied agree;
- `exchange_interleaved`: reads and writes in any order. The points still pay for everything that was supplied, and no
  count is above what was bought.

What was supplied is what the goods show: they are those of the start with every purchase supplied in order, and the packets
list what came of it.

`json.loads` of the column `items_exchange` is a dictionary keyed by `str(slot)`; here it is keyed by the number. Not under
src/: the tables with `MakeIdx`, the event calendar, and `InvenUtil` that supplies the items.
-/
import Mathlib.Tactic
import GameServer.Core.Run
import GameServer.Core.Pending
import GameServer.Core.Dictionary
import GameServer.Core.Payout
import GameServer.Event.Pass

namespace GameServer.Event

open GameServer.Core

/-! ## Data -/

/-- a row of `883EventExchange` -/
structure ExchangeRow where
  item_code : ℤ
  item_count : ℤ
  price : ℤ
  exchange_count : ℤ
deriving DecidableEq, Repr

/-- the exchange columns of a user's event row; `items_exchange` may be null -/
structure ExchangeUser where
  event_idx : ℤ
  event_uid : ℤ
  exchange_point : ℤ
  items_exchange : Option (AList fun _ : ℤ => ℤ)

/-- `buyitem_dict` -/
def ExchangeUser.dict (row : ExchangeUser) : AList fun _ : ℤ => ℤ := row.items_exchange.getD ∅

/-- how often a slot is recorded as bought -/
def boughtCount (buyitem_dict : AList fun _ : ℤ => ℤ) (slot : ℤ) : ℤ := (buyitem_dict.lookup slot).getD 0

/-- `EventCommonResultType`, as far as it is used here -/
inductive ExchangeResult where
  | SUCCESS | FAIL | NOT_EVENT_DATE | NOT_EVENT_INVOLVE | INCORRECT_DATA | BUY_COUNT_LIMIT | NOT_ENOUGH_EXCHANGE_POINT
deriving DecidableEq, Repr

structure ExchangeInfo where
  db_table_name : String
  db_column_exchange_point : String
  db_column_items_exchange : String
deriving DecidableEq, Repr

/-- `GetEventCommonExchangeInfo` -/
def getEventCommonExchangeInfo (E : Env) (event_type : ℤ) : Option ExchangeInfo :=
  let table_name := getEventCommonTableInfo E event_type
  if table_name = "" then none else some ⟨table_name, "exchange_point", "items_exchange"⟩

/-- what a call meets outside: the running event, if there is one, and the supply with the items for the packet -/
structure ExchangeOutside (ρ : Type) where
  event_status : Option (ℤ × ℤ)
  isInvolvedEvent : ℤ → ℤ → Bool
  supplyCommander : ρ → ℤ → ℤ → ρ × List ResultData

structure ExchangeDb (ρ : Type) where
  row : Option ExchangeUser
  resource : ρ

/-- `BuySlotNumber` and `BuyCount` of the request -/
structure BuyReq where
  slot : ℤ
  count : ℤ
deriving DecidableEq, Repr

/-- the packet; a field that is not set is `none` -/
structure ExchangeReply where
  result : Option ExchangeResult
  /-- `EventIdx`, `EventUid` -/
  event : Option (ℤ × ℤ)
  BuySlotNumber : Option ℤ
  ExchangePoint : Option ℤ
  BuyCount : Option ℤ
  ResultItems : List ResultData

/-- what a purchase carries from its checks to its writes -/
structure Purchase where
  slot : ℤ
  buy_count : ℤ
  item_code : ℤ
  /-- `item_count * self.buy_count` -/
  item_count : ℤ
  consume_point : ℤ
  db_exchange_point : ℤ
  bought_count : ℤ
  buyitem_dict : AList fun _ : ℤ => ℤ

/-! ## `sp_EventCommonExchangeBuy` -/

section

variable {ρ : Type} (E : Env) (get883EventExchange : ℤ → Option ExchangeRow) (event_type : ℤ)

/-- the row of a slot -/
def slotRow (slot : ℤ) : Option ExchangeRow := get883EventExchange (E.makeIdx 883 event_type slot)

/-- the checks on the user's row, in the order of the code -/
def exchangeCheck (req : BuyReq) (row : ExchangeUser) : Except (Option ExchangeResult) Purchase :=
  match slotRow E get883EventExchange event_type req.slot with
  | none => .error (some .INCORRECT_DATA)
  | some info =>
    let bought_count := boughtCount row.dict req.slot
    if info.exchange_count < bought_count + req.count then .error (some .BUY_COUNT_LIMIT)
    else
      let consume_point := info.price * req.count
      if row.exchange_point < consume_point then .error (some .NOT_ENOUGH_EXCHANGE_POINT)
      else
        .ok ⟨req.slot, req.count, info.item_code, info.item_count * req.count, consume_point, row.exchange_point,
          bought_count + req.count, row.dict.insert req.slot (bought_count + req.count)⟩

/-- everything up to the update -/
def exchangeRead (o : ExchangeOutside ρ) (req : BuyReq) (db : ExchangeDb ρ) : Except (Option ExchangeResult) Purchase :=
  match o.event_status with
  | none => .error (some .NOT_EVENT_DATE)
  | some _ =>
    if req.count ≤ 0 then .error none
    else
      match getEventCommonExchangeInfo E event_type with
      | none => .error (some .FAIL)
      | some columns =>
        match db.row with
        | none => .error none
        | some row =>
          if ¬ (E.hasColumn "event_idx" ∧ E.hasColumn "event_uid" ∧ E.hasColumn columns.db_column_exchange_point ∧
              E.hasColumn columns.db_column_items_exchange) then .error none
          else if o.isInvolvedEvent row.event_idx row.event_uid = false then .error (some .NOT_EVENT_INVOLVE)
          else exchangeCheck E get883EventExchange event_type req row

/-- `UPDATE ... SET exchange_point = exchange_point - consume_point, items_exchange = buyitem_dict` -/
def exchangeRow (p : Purchase) (row : ExchangeUser) : ExchangeUser :=
  { row with exchange_point := row.exchange_point - p.consume_point, items_exchange := some p.buyitem_dict }

/-- the update and the supply -/
def exchangeWrite (o : ExchangeOutside ρ) (p : Purchase) (db : ExchangeDb ρ) : ExchangeDb ρ × List ResultData :=
  let supplied := o.supplyCommander db.resource p.item_code p.item_count
  (⟨db.row.map (exchangeRow p), supplied.1⟩, supplied.2)

def exchangeBuy (o : ExchangeOutside ρ) (req : BuyReq) (db : ExchangeDb ρ) : ExchangeReply × ExchangeDb ρ :=
  let slot := o.event_status.map fun _ => req.slot
  match exchangeRead E get883EventExchange event_type o req db with
  | .error result => (⟨result, o.event_status, slot, none, none, []⟩, db)
  | .ok p =>
    let written := exchangeWrite o p db
    (⟨some .SUCCESS, o.event_status, slot, some (p.db_exchange_point - p.consume_point), some p.bought_count, written.2⟩,
      written.1)

/-! ## What the checks say -/

/-- what a passed check says: the purchase is the table row times the count, and within the limit -/
structure Buys (row : ExchangeUser) (info : ExchangeRow) (p : Purchase) : Prop where
  table : slotRow E get883EventExchange event_type p.slot = some info
  pos : 0 < p.buy_count
  code : p.item_code = info.item_code
  items : p.item_count = info.item_count * p.buy_count
  points : p.consume_point = info.price * p.buy_count
  enough : p.consume_point ≤ row.exchange_point
  count : p.bought_count = boughtCount row.dict p.slot + p.buy_count
  limit : p.bought_count ≤ info.exchange_count
  dict : p.buyitem_dict = row.dict.insert p.slot p.bought_count

theorem exchangeCheck_ok {req : BuyReq} {row : ExchangeUser} {p : Purchase} (hpos : 0 < req.count)
    (h : exchangeCheck E get883EventExchange event_type req row = .ok p) :
    ∃ info, Buys E get883EventExchange event_type row info p := by
  unfold exchangeCheck at h
  cases hinfo : slotRow E get883EventExchange event_type req.slot with
  | none => simp [hinfo] at h
  | some info =>
    simp only [hinfo] at h
    split_ifs at h with hlimit hpoint
    obtain rfl := Except.ok.inj h
    exact ⟨info, hinfo, hpos, rfl, rfl, rfl, not_lt.1 hpoint, rfl, not_lt.1 hlimit, rfl⟩

theorem exchangeRead_ok {o : ExchangeOutside ρ} {req : BuyReq} {db : ExchangeDb ρ} {p : Purchase}
    (h : exchangeRead E get883EventExchange event_type o req db = .ok p) :
    ∃ row info, db.row = some row ∧ Buys E get883EventExchange event_type row info p := by
  unfold exchangeRead at h
  cases hstatus : o.event_status with
  | none => simp [hstatus] at h
  | some status =>
    simp only [hstatus] at h
    split_ifs at h with hcount
    cases hcolumns : getEventCommonExchangeInfo E event_type with
    | none => simp [hcolumns] at h
    | some columns =>
      cases hrow : db.row with
      | none => simp [hcolumns, hrow] at h
      | some row =>
        simp only [hcolumns, hrow] at h
        split_ifs at h with hcol hinv
        obtain ⟨info, hbuys⟩ := exchangeCheck_ok E get883EventExchange event_type (not_le.1 hcount) h
        exact ⟨row, info, rfl, hbuys⟩

end

/-! ## Runs -/

/-- the database, and what has happened so far: the purchases carried out with what they met outside, `ResultItems` of all
packets, and the points gained -/
structure Shop (ρ : Type) where
  db : ExchangeDb ρ
  sold : List (ExchangeOutside ρ × Purchase)
  received : List ResultData
  gained : ℤ

def Shop.open {ρ : Type} (row₀ : ExchangeUser) (resource₀ : ρ) : Shop ρ := ⟨⟨some row₀, resource₀⟩, [], [], 0⟩

/-- a request with what it meets outside -/
abbrev Buy (ρ : Type) := ExchangeOutside ρ × BuyReq

section

variable {ρ : Type} (E : Env) (get883EventExchange : ℤ → Option ExchangeRow) (event_type : ℤ)

def shopRead (s : Shop ρ) (a : Buy ρ) : Option (ExchangeOutside ρ × Purchase) :=
  match exchangeRead E get883EventExchange event_type a.1 a.2 s.db with
  | .error _ => none
  | .ok p => some (a.1, p)

def shopWrite (s : Shop ρ) (w : ExchangeOutside ρ × Purchase) : Shop ρ :=
  let written := exchangeWrite w.1 w.2 s.db
  { s with db := written.1, sold := s.sold ++ [w], received := s.received ++ written.2 }

/-- points from the games of the event -/
def shopGain (s : Shop ρ) (points : ℕ) : Shop ρ :=
  { s with
    db := { s.db with row := s.db.row.map fun row => { row with exchange_point := row.exchange_point + points } }
    gained := s.gained + points }

inductive ShopOp (ρ : Type) where
  | buy (a : Buy ρ)
  | gain (points : ℕ)

/-- one purchase after the other -/
def shopStep (s : Shop ρ) : ShopOp ρ → Shop ρ
  | .buy a => request (shopRead E get883EventExchange event_type) shopWrite s a
  | .gain points => shopGain s points

/-- the checks and the writes of a request are its whole transaction, and `received` grows by its `ResultItems` -/
theorem shopStep_buy (s : Shop ρ) (a : Buy ρ) :
    (shopStep E get883EventExchange event_type s (.buy a)).db = (exchangeBuy E get883EventExchange event_type a.1 a.2 s.db).2 ∧
      (shopStep E get883EventExchange event_type s (.buy a)).received =
        s.received ++ (exchangeBuy E get883EventExchange event_type a.1 a.2 s.db).1.ResultItems := by
  simp only [shopStep, request, shopRead, exchangeBuy]
  cases exchangeRead E get883EventExchange event_type a.1 a.2 s.db with
  | error result => exact ⟨rfl, (List.append_nil _).symm⟩
  | ok p => exact ⟨rfl, rfl⟩

/-! ## The invariant -/

/-- the points that purchases cost -/
def pointsSpent (sold : List (ExchangeOutside ρ × Purchase)) : ℤ := (sold.map fun w => w.2.consume_point).sum

/-- how often a slot was bought -/
def boughtIn (sold : List (ExchangeOutside ρ × Purchase)) (slot : ℤ) : ℤ :=
  (sold.map fun w => if w.2.slot = slot then w.2.buy_count else 0).sum

/-- the supply of a purchase -/
def deliver (resource : ρ) (w : ExchangeOutside ρ × Purchase) : Option (ρ × List ResultData) :=
  some (w.1.supplyCommander resource w.2.item_code w.2.item_count)

/-- a purchase at the prices of the table -/
structure Sold (p : Purchase) : Prop where
  pos : 0 < p.buy_count
  row : ∃ info, slotRow E get883EventExchange event_type p.slot = some info ∧ p.item_code = info.item_code ∧
    p.item_count = info.item_count * p.buy_count ∧ p.consume_point = info.price * p.buy_count

/-- counts that are the first ones or within the limit of their slot -/
def WithinLimits (dict₀ dict : AList fun _ : ℤ => ℤ) : Prop :=
  ∀ slot n, dict.lookup slot = some n → dict₀.lookup slot = some n ∨
    ∃ info, slotRow E get883EventExchange event_type slot = some info ∧ n ≤ info.exchange_count

/-- no slot is recorded more often than it was bought -/
def NotOver (dict₀ dict : AList fun _ : ℤ => ℤ) (sold : List (ExchangeOutside ρ × Purchase)) : Prop :=
  ∀ slot, boughtCount dict slot ≤ boughtCount dict₀ slot + boughtIn sold slot

/-- since the row was `row₀` and the goods `resource₀` -/
structure InShop (row₀ : ExchangeUser) (resource₀ : ρ) (s : Shop ρ) (row : ExchangeUser) : Prop where
  stored : s.db.row = some row
  sold : ∀ w ∈ s.sold, Sold E get883EventExchange event_type w.2
  /-- the goods are those of the purchases, supplied in order, and the packets list them -/
  delivered : Payout.carry deliver resource₀ s.sold = some (s.db.resource, s.received)
  points : row.exchange_point + pointsSpent s.sold = row₀.exchange_point + s.gained
  limits : WithinLimits E get883EventExchange event_type row₀.dict row.dict
  counts : NotOver row₀.dict row.dict s.sold

end

theorem pointsSpent_snoc {ρ : Type} (sold : List (ExchangeOutside ρ × Purchase)) (w : ExchangeOutside ρ × Purchase) :
    pointsSpent (sold ++ [w]) = pointsSpent sold + w.2.consume_point := by
  simp [pointsSpent]

theorem boughtIn_snoc {ρ : Type} (sold : List (ExchangeOutside ρ × Purchase)) (w : ExchangeOutside ρ × Purchase)
    (slot : ℤ) : boughtIn (sold ++ [w]) slot = boughtIn sold slot + if w.2.slot = slot then w.2.buy_count else 0 := by
  simp [boughtIn]

theorem boughtCount_insert (dict : AList fun _ : ℤ => ℤ) (slot slot' n : ℤ) :
    boughtCount (dict.insert slot n) slot' = if slot' = slot then n else boughtCount dict slot' := by
  unfold boughtCount
  rw [Dictionary.lookup_insert]
  split_ifs <;> rfl

section

variable {ρ : Type} {E : Env} {get883EventExchange : ℤ → Option ExchangeRow} {event_type : ℤ}

theorem Buys.sold {row : ExchangeUser} {info : ExchangeRow} {p : Purchase}
    (h : Buys E get883EventExchange event_type row info p) : Sold E get883EventExchange event_type p :=
  ⟨h.pos, info, h.table, h.code, h.items, h.points⟩

theorem WithinLimits.insert {dict₀ dict : AList fun _ : ℤ => ℤ}
    (h : WithinLimits E get883EventExchange event_type dict₀ dict)
    {slot n : ℤ} {info : ExchangeRow} (htable : slotRow E get883EventExchange event_type slot = some info)
    (hle : n ≤ info.exchange_count) : WithinLimits E get883EventExchange event_type dict₀ (dict.insert slot n) := by
  intro slot' n' hn'
  rw [Dictionary.lookup_insert] at hn'
  split_ifs at hn' with hslot
  · subst hslot
    obtain rfl := Option.some.inj hn'
    exact Or.inr ⟨info, htable, hle⟩
  · exact h slot' n' hn'

/-- a purchase that is carried out may be recorded -/
theorem NotOver.insert {dict₀ dict : AList fun _ : ℤ => ℤ} {sold : List (ExchangeOutside ρ × Purchase)}
    (h : NotOver dict₀ dict sold) (w : ExchangeOutside ρ × Purchase) :
    NotOver dict₀ (dict.insert w.2.slot (boughtCount dict w.2.slot + w.2.buy_count)) (sold ++ [w]) := by
  intro slot
  have hslot := h slot
  rw [boughtCount_insert, boughtIn_snoc]
  by_cases heq : slot = w.2.slot
  · subst heq
    rw [if_pos rfl, if_pos rfl]
    omega
  · rw [if_neg heq, if_neg (Ne.symm heq)]
    omega

/-- what has been bought stays bought -/
theorem NotOver.mono {dict₀ dict : AList fun _ : ℤ => ℤ} {sold : List (ExchangeOutside ρ × Purchase)}
    (h : NotOver dict₀ dict sold) {w : ExchangeOutside ρ × Purchase} (hpos : 0 < w.2.buy_count) :
    NotOver dict₀ dict (sold ++ [w]) := by
  intro slot
  have hslot := h slot
  rw [boughtIn_snoc]
  split_ifs <;> omega

theorem InShop.gain {row₀ row : ExchangeUser} {resource₀ : ρ} {s : Shop ρ}
    (h : InShop E get883EventExchange event_type row₀ resource₀ s row) (points : ℕ) :
    InShop E get883EventExchange event_type row₀ resource₀ (shopGain s points)
      { row with exchange_point := row.exchange_point + points } := by
  refine ⟨?_, h.sold, h.delivered, ?_, h.limits, h.counts⟩
  · simp [shopGain, h.stored]
  · have hpoints := h.points
    simp only [shopGain]
    omega

/-- a purchase that was read some time ago: the dictionary it has read is not above what is bought by now -/
structure Intent (E : Env) (get883EventExchange : ℤ → Option ExchangeRow) (event_type : ℤ) (row₀ : ExchangeUser)
    (s : Shop ρ) (p : Purchase) : Prop where
  sold : Sold E get883EventExchange event_type p
  read : ∃ dict info, slotRow E get883EventExchange event_type p.slot = some info ∧
    boughtCount dict p.slot + p.buy_count ≤ info.exchange_count ∧
    p.buyitem_dict = dict.insert p.slot (boughtCount dict p.slot + p.buy_count) ∧
    WithinLimits E get883EventExchange event_type row₀.dict dict ∧ NotOver row₀.dict dict s.sold

theorem InShop.intent {row₀ row : ExchangeUser} {resource₀ : ρ} {s : Shop ρ}
    (h : InShop E get883EventExchange event_type row₀ resource₀ s row) {a : Buy ρ} {w : ExchangeOutside ρ × Purchase}
    (hw : shopRead E get883EventExchange event_type s a = some w) :
    ∃ info, Buys E get883EventExchange event_type row info w.2 ∧ Intent E get883EventExchange event_type row₀ s w.2 := by
  unfold shopRead at hw
  cases hread : exchangeRead E get883EventExchange event_type a.1 a.2 s.db with
  | error result => simp [hread] at hw
  | ok p =>
    rw [hread] at hw
    obtain rfl := Option.some.inj hw
    obtain ⟨row', info, hrow, hbuys⟩ := exchangeRead_ok E get883EventExchange event_type hread
    obtain rfl := Option.some.inj (h.stored.symm.trans hrow)
    have hlimit := hbuys.limit
    have hdict := hbuys.dict
    rw [hbuys.count] at hlimit hdict
    exact ⟨info, hbuys, hbuys.sold, row.dict, info, hbuys.table, hlimit, hdict, h.limits, h.counts⟩

/-- step lemma: an intent is carried out, however old it is -/
theorem InShop.write {row₀ row : ExchangeUser} {resource₀ : ρ} {s : Shop ρ}
    (h : InShop E get883EventExchange event_type row₀ resource₀ s row) {w : ExchangeOutside ρ × Purchase}
    (hw : Intent E get883EventExchange event_type row₀ s w.2) :
    InShop E get883EventExchange event_type row₀ resource₀ (shopWrite s w) (exchangeRow w.2 row) := by
  obtain ⟨hsold, dict, info, htable, hlimit, hdict, hlimits, hcounts⟩ := hw
  have hrow : (exchangeRow w.2 row).dict = w.2.buyitem_dict := rfl
  refine ⟨?_, ?_, Payout.carry_snoc h.delivered rfl, ?_, ?_, ?_⟩
  · simp [shopWrite, exchangeWrite, h.stored]
  · intro p hp
    rcases List.mem_append.1 hp with hp | hp
    · exact h.sold p hp
    · rw [List.mem_singleton.1 hp]
      exact hsold
  · have hpoints := h.points
    simp only [shopWrite, exchangeRow, pointsSpent_snoc]
    omega
  · rw [hrow, hdict]
    exact hlimits.insert htable hlimit
  · rw [hrow, hdict]
    exact hcounts.insert w

theorem Intent.write {row₀ : ExchangeUser} {s : Shop ρ} {p : Purchase}
    (h : Intent E get883EventExchange event_type row₀ s p) {w : ExchangeOutside ρ × Purchase} (hpos : 0 < w.2.buy_count) :
    Intent E get883EventExchange event_type row₀ (shopWrite s w) p := by
  obtain ⟨hsold, dict, info, htable, hlimit, hdict, hlimits, hcounts⟩ := h
  exact ⟨hsold, dict, info, htable, hlimit, hdict, hlimits, hcounts.mono hpos⟩

/-! ## Reads and writes in any order -/

/-- the shop at the start -/
theorem InShop.open (row₀ : ExchangeUser) (resource₀ : ρ) :
    InShop E get883EventExchange event_type row₀ resource₀ (Shop.open row₀ resource₀) row₀ := by
  refine ⟨rfl, by simp [Shop.open], rfl, rfl, fun slot n hn => Or.inl hn, fun slot => ?_⟩
  simp [boughtIn, Shop.open]

/-- **The points pay for everything supplied in every interleaving.** Whatever was read when: every purchase carried out
is one at the prices of the table, the goods are those of the start with these purchases supplied in order, the balance has
lost exactly what they cost, and no slot is recorded above its limit or above what was bought. -/
theorem exchange_interleaved {row₀ : ExchangeUser} {resource₀ : ρ} (ops : List (Phase (Buy ρ) ℕ)) :
    ∃ row, InShop E get883EventExchange event_type row₀ resource₀
      (run (phaseStep (shopRead E get883EventExchange event_type) shopWrite shopGain) ⟨Shop.open row₀ resource₀, []⟩
        ops).store row := by
  refine (phase_inv (I := fun s => ∃ row, InShop E get883EventExchange event_type row₀ resource₀ s row)
    (J := fun s w => Intent E get883EventExchange event_type row₀ s w.2) ?_ ?_ ?_ ⟨row₀, InShop.open row₀ resource₀⟩ ops).1
  · rintro s a w ⟨row, hs⟩ hw
    obtain ⟨info, -, hintent⟩ := hs.intent hw
    exact hintent
  · rintro s w ⟨row, hs⟩ hw
    exact ⟨⟨_, hs.write hw⟩, fun w' hw' => hw'.write hw.sold.pos⟩
  · rintro s points ⟨row, hs⟩
    exact ⟨⟨_, hs.gain points⟩, fun w' hw' => ⟨hw'.sold, hw'.read⟩⟩

/-! ## One purchase after the other -/

/-- the counts are those of the purchases, and there is no debt -/
structure Exact (row₀ row : ExchangeUser) (sold : List (ExchangeOutside ρ × Purchase)) : Prop where
  counts : ∀ slot, boughtCount row.dict slot = boughtCount row₀.dict slot + boughtIn sold slot
  points : 0 ≤ row₀.exchange_point → 0 ≤ row.exchange_point

/-- step lemma -/
theorem shopStep_exact {row₀ row : ExchangeUser} {resource₀ : ρ} {s : Shop ρ}
    (h : InShop E get883EventExchange event_type row₀ resource₀ s row) (hexact : Exact row₀ row s.sold) (o : ShopOp ρ) :
    ∃ row', InShop E get883EventExchange event_type row₀ resource₀ (shopStep E get883EventExchange event_type s o) row' ∧
      Exact row₀ row' (shopStep E get883EventExchange event_type s o).sold := by
  cases o with
  | gain points =>
    refine ⟨_, h.gain points, hexact.counts, ?_⟩
    intro hpos
    have hpoint := hexact.points hpos
    dsimp only
    omega
  | buy a =>
    rw [shopStep, request]
    cases hw : shopRead E get883EventExchange event_type s a with
    | none => exact ⟨row, h, hexact⟩
    | some w =>
      obtain ⟨info, hbuys, hintent⟩ := h.intent hw
      refine ⟨_, h.write hintent, ?_, ?_⟩
      · intro slot
        have hslot := hexact.counts slot
        have hdict : (exchangeRow w.2 row).dict = row.dict.insert w.2.slot w.2.bought_count := hbuys.dict
        have hsold : (shopWrite s w).sold = s.sold ++ [w] := rfl
        dsimp only
        rw [hdict, hsold, boughtCount_insert, boughtIn_snoc, hbuys.count]
        by_cases heq : slot = w.2.slot
        · subst heq
          rw [if_pos rfl, if_pos rfl]
          omega
        · rw [if_neg heq, if_neg (Ne.symm heq)]
          omega
      · intro _
        have henough := hbuys.enough
        simp only [exchangeRow]
        omega

/-- **The exchange shop keeps its books.** In every run of purchases and gains, one after the other, each slot is bought
as often as it is recorded and within its limit, the goods are those of the start with the purchases supplied in order, and
the points are those gained less the prices of what was supplied; they never run out below zero. -/
theorem exchange_ledger {row₀ : ExchangeUser} {resource₀ : ρ} (ops : List (ShopOp ρ)) :
    ∃ row, InShop E get883EventExchange event_type row₀ resource₀
        (run (shopStep E get883EventExchange event_type) (Shop.open row₀ resource₀) ops) row ∧
      Exact row₀ row (run (shopStep E get883EventExchange event_type) (Shop.open row₀ resource₀) ops).sold := by
  refine run_inv_all
    (I := fun s => ∃ row, InShop E get883EventExchange event_type row₀ resource₀ s row ∧ Exact row₀ row s.sold)
    ?_ ⟨row₀, InShop.open row₀ resource₀, fun slot => ?_, id⟩ ops
  · rintro s o ⟨row, hs, hexact⟩
    exact shopStep_exact hs hexact o
  · simp [boughtIn, Shop.open]

end

end GameServer.Event
