/-
Positions over whole runs of requests, `C++/CardContents.cpp`: the slot index of `SlotIndex` with the requests of
`CareEffects`.

- `AllSettled`: a card is in no position or in one that the slot index covers;
- `serveCare_ready`: every legal request keeps the contents ready (`Ready`).
-/
import Mathlib.Tactic
import GameServer.Core.Run
import GameServer.Card.Batch
import GameServer.Card.Reload

namespace GameServer.Card

open GameServer.Core GameServer.Core.Flags

variable {ι κ υ ρ π : Type} {E : Env} {T : CareTables ι κ} {F : FlagEnv υ ρ π} {P : ProductTables} {s t : St}

/-! ## Contents stay ready -/

variable (E P) in
/-- what the slot index relies on: granted cards are real ones, and no placement is confused or runs over others -/
def legalPos (s : St) : CareOp ι υ π → Prop
  | .grant items _ => P.newCard.posKind = E.kNone ∧
      ∀ item ∈ items, E.cardIsNull item.uid item.tid = false ∧ item.uid ≠ E.invalidUid
  | .applyPos C pkt => legal E s (.applyPos C pkt) ∧ notConfused E s (.applyPos C pkt)
  | .applyPosCards uids kind value checkWork => legal E s (.applyPosCards uids kind value checkWork) ∧
      E.kNone < kind ∧ kind < E.kMax
  | _ => True

theorem AllSettled.setCard (h : AllSettled E s) (p : Option Addr) {f : CardPiece → CardPiece}
    (hf : ∀ c, c.Settled E → (f c).Settled E) : AllSettled E (s.setCard p f) := by
  intro u a hu
  rw [setCard_cont] at hu
  cases p with
  | none => exact h u a hu
  | some b =>
    rw [setCard_some_cards]
    rcases eq_or_ne a b with rfl | hne
    · rw [Function.update_self]
      exact hf _ (h u a hu)
    · rw [Function.update_of_ne hne]
      exact h u a hu

theorem AllSettled.addPos (h : AllSettled E s) (p : Option Addr) (k v n : ℕ) : AllSettled E (doAddPosValue E s p k v n) := by
  intro u a hu
  rw [doAddPosValue_cont] at hu
  rw [doAddPosValue_cards]
  exact h u a hu

theorem AllSettled.delPos (h : AllSettled E s) (k v n : ℕ) : AllSettled E (doDelPosValue E s k v n) := by
  intro u a hu
  rw [doDelPosValue_cont] at hu
  rw [doDelPosValue_cards]
  exact h u a hu

theorem AllSettled.reset (h : AllSettled E s) (p : Option Addr) : AllSettled E (s.setCard p (·.resetPosInfo E)) :=
  h.setCard p fun _ _ => Or.inl rfl

theorem AllSettled.putAt (h : AllSettled E s) (p : Option Addr) {k v n : ℕ} (hvalid : ValidPos E (k, v, n)) :
    AllSettled E (putAt E s p k v n) :=
  (h.addPos p k v n).setCard p fun _ _ => Or.inr hvalid

theorem AllSettled.delPosUid (h : AllSettled E s) (uid : ℕ) : AllSettled E (doDelPosValueUid E s uid).2 := by
  unfold doDelPosValueUid
  dsimp only
  split_ifs
  · exact h
  · exact (h.delPos _ _ _).reset _

theorem AllSettled.outPosCards (h : AllSettled E s) (uids : List ℕ) : AllSettled E (doSetApplyOutPosCards E s uids).2 := by
  induction uids generalizing s with
  | nil => exact h
  | cons uid uids ih =>
    rw [doSetApplyOutPosCards]
    split_ifs
    · exact h.delPosUid uid
    · exact ih (h.delPosUid uid)

theorem AllSettled.applyPosCards (h : AllSettled E s) {infos : List SlotPos}
    (hvalid : ∀ info ∈ infos, ValidPos E (info.kind, info.value, info.slotNum)) :
    AllSettled E (doSetApplyPosCards E s infos).2 := by
  induction infos generalizing s with
  | nil => exact h
  | cons info infos ih =>
    rw [doSetApplyPosCards]
    split_ifs
    · exact h
    · exact ih (h.putAt _ (hvalid info List.mem_cons_self)) fun info' hmem => hvalid info' (List.mem_cons_of_mem _ hmem)

/-- a card and the one that it displaces both go to slots of the index -/
theorem AllSettled.placed {C : UserChecks} {pkt : ApplyPos} {limit : ℕ} {a : Addr} (h : AllSettled E s) (hb : Base E s)
    (ha : s.cont pkt.cardUID = some a) (g : Guarded E C pkt (s.cards a) limit) : AllSettled E (placed E s a pkt) := by
  have hmoved : AllSettled E (moved E s a pkt) := (h.delPos _ _ _).putAt _ g.valid
  cases hold : oldSeen s pkt with
  | none =>
    rw [placed_none hold]
    exact hmoved
  | some b =>
    rw [placed_some hold]
    split_ifs with hswap
    · exact (hmoved.reset _).putAt _ ⟨g.valid.1, g.valid.2.1, hb.slots _ a ha (Ne.symm hswap.1)⟩
    · exact hmoved.reset _

theorem Removed.settled {gone : List ℕ} (h : Removed s t gone) (hs : AllSettled E s) : AllSettled E t := by
  intro u a hu
  rw [h.cont] at hu
  split_ifs at hu with hgone
  rw [h.cards u a hgone hu]
  exact hs u a hu

/-- other fields of an owned card -/
theorem Inv.write (h : Inv E s) (uid : ℕ) {f : CardPiece → CardPiece}
    (hf : ∀ c, (f c).cardUID = c.cardUID ∧ (f c).tableID = c.tableID ∧ (f c).pos = c.pos) :
    Inv E (s.setCard (s.getInst uid) f) := by
  have hkind : ∀ c, (f c).posKind = c.posKind ∧ (f c).posSlotNum = c.posSlotNum := fun c =>
    ⟨congrArg Prod.fst (hf c).2.2, congrArg (fun p : Pos => p.2.2) (hf c).2.2⟩
  unfold St.getInst
  cases ha : s.cont uid with
  | none =>
    refine ⟨⟨h.keys, h.real, ?_, h.slots⟩, h.agree⟩
    change (f s.msNullCard).isNull E = true
    rw [CardPiece.isNull, (hf _).1, (hf _).2.1]
    exact h.null
  | some a =>
    refine ⟨h.toBase.setCard a (hf _).1 (hf _).2.1 fun hk => ?_, ?_⟩
    · rw [(hkind _).1] at hk
      rw [(hkind _).2]
      exact h.slots uid a ha hk
    · rw [occ_setCard, place_setCard E s ⟨uid, ha⟩, (hf _).2.2, ← place_owned ⟨uid, ha⟩, Function.update_eq_self]
      exact h.agree

/-- the books play no part -/
theorem Inv.congr_books (h : Inv E s) (hcont : t.cont = s.cont) (hcards : t.cards = s.cards) (hpos : t.posCont = s.posCont)
    (hnull : t.msNullCard = s.msNullCard) : Inv E t := by
  refine ⟨h.toBase.congr hcont hcards hnull, h.agree.congr (fun p => ?_) fun a => ?_⟩
  · unfold occ slotAt
    rw [hpos]
  · refine place_congr ?_ fun _ => by rw [hcards]
    unfold Owned
    rw [hcont]

theorem Base.unshared (h : Base E s) : Unshared s := fun _ _ _ hu hu' => h.unique_key hu hu'

theorem doUpdateBook_frame (s : St) (books : List BookPiece) :
    ∃ objs null, (doUpdateBook s books).2 = { s with books := objs, msNullBook := null } := by
  unfold doUpdateBook
  dsimp only
  induction books generalizing s with
  | nil => exact ⟨s.books, s.msNullBook, rfl⟩
  | cons b books ih =>
    obtain ⟨objs, null, heq⟩ := ih (s.setBook (s.getBookInst b.tableID) fun _ => b)
    rw [List.foldl_cons, heq]
    unfold St.setBook
    cases s.getBookInst b.tableID with
    | none => exact ⟨_, _, rfl⟩
    | some a => exact ⟨_, _, rfl⟩

/-- an accepted growth, and its materials -/
theorem grow_ready (h : Inv E s) (hs : AllSettled E s) (g : CardGrow) (maters : List ℕ) :
    Inv E (delMaters E (doApplyCommonGrow s g).2 maters) ∧
      AllSettled E (delMaters E (doApplyCommonGrow s g).2 maters) := by
  obtain ⟨objs, null, heq⟩ := doUpdateBook_frame (s.setCard (s.getInst g.targetUID) g.write) g.bookState
  have hwrite : Inv E (s.setCard (s.getInst g.targetUID) g.write) := h.write _ fun c => ⟨rfl, rfl, rfl⟩
  have hsettled : AllSettled E (s.setCard (s.getInst g.targetUID) g.write) := hs.setCard _ fun _ hc => hc
  have hgrown : Inv E (doApplyCommonGrow s g).2 ∧ AllSettled E (doApplyCommonGrow s g).2 := by
    unfold doApplyCommonGrow
    dsimp only
    change Inv E (doUpdateBook (s.setCard (s.getInst g.targetUID) g.write) g.bookState).2 ∧
      AllSettled E (doUpdateBook (s.setCard (s.getInst g.targetUID) g.write) g.bookState).2
    rw [heq]
    exact ⟨hwrite.congr_books rfl rfl rfl rfl, hsettled⟩
  refine ⟨?_, (delMaters_removed hgrown.1.toBase.unshared maters).settled hgrown.2⟩
  unfold delMaters
  exact run_inv_all (I := Inv E) (fun _ uid hi => doDel_inv hi uid) hgrown.1 maters

theorem bookState_ready (h : Inv E s) (hs : AllSettled E s) (tid w : ℕ) :
    Inv E (doSetBookState E s tid w).2 ∧ AllSettled E (doSetBookState E s tid w).2 := by
  unfold doSetBookState
  dsimp only
  split_ifs
  · exact ⟨h, hs⟩
  · unfold St.setBook
    cases s.getBookInst tid with
    | none => exact ⟨h.congr_books rfl rfl rfl rfl, hs⟩
    | some a => exact ⟨h.congr_books rfl rfl rfl rfl, hs⟩

theorem eq_of_mem_zip {α β γ : Type} {f : α → γ} {g : β → γ} {l : List α} {m : List β} (h : l.map f = m.map g)
    {x : α × β} (hx : x ∈ l.zip m) : f x.1 = g x.2 := by
  induction l generalizing m with
  | nil => simp at hx
  | cons a l ih =>
    cases m with
    | nil => simp at hx
    | cons b m =>
      obtain ⟨hhead, htail⟩ := List.cons.inj h
      rcases List.mem_cons.1 hx with rfl | hx
      · exact hhead
      · exact ih htail hx

/-- granted cards are in no position -/
theorem grant_ready (hr : Ready E T s) {items : List GrantItem} {bookAddr : ℕ → Addr}
    (hl : legalCare E T P s (.grant items bookAddr : CareOp ι υ π))
    (hpos : legalPos E P s (.grant items bookAddr : CareOp ι υ π)) :
    Inv E (serveBook E P s (.grant items bookAddr)) ∧ AllSettled E (serveBook E P s (.grant items bookAddr)) := by
  obtain ⟨pack, hmake, -, hcards, -⟩ := grant_found hr.sound hl
  obtain ⟨hcan, -, haddrs, hfree⟩ := hl
  obtain ⟨hnone, hreal⟩ := hpos
  obtain ⟨hnew, -⟩ := doMakeProducts_new (by simp) (by simp) hmake
  have hstart : Promised s ⟨[], []⟩ [] := ⟨rfl, List.nodup_nil, by simp [ProductPack.bookTIDs]⟩
  obtain ⟨pack', hmake', hp⟩ := doMakeProducts_ok hr.sound.booked hstart hcan.valid
  obtain rfl := Except.ok.inj (hmake'.symm.trans hmake)
  rw [List.nil_append] at hp
  have hunplaced : ∀ c ∈ pack'.packCards items, c.1.posKind = E.kNone := by
    intro c hc
    obtain ⟨x, hx, rfl⟩ := List.mem_map.1 hc
    obtain ⟨tid, lock, heq⟩ := hnew x.1 (List.of_mem_zip hx).1
    dsimp only
    rw [heq]
    exact hnone
  constructor
  · rw [serveBook, hmake]
    refine serve_inv (r := .add _ _) hr.inv ⟨fun c hc => ⟨hunplaced c hc, ?_, ?_⟩, ?_⟩ trivial
    · obtain ⟨x, hx, rfl⟩ := List.mem_map.1 hc
      have htid : x.1.tableID = x.2.tid := eq_of_mem_zip hp.cards hx
      obtain ⟨hnull, huid⟩ := hreal x.2 (List.of_mem_zip hx).2
      refine ⟨?_, huid⟩
      rw [CardPiece.isNull, htid]
      exact hnull
    · obtain ⟨x, hx, rfl⟩ := List.mem_map.1 hc
      rintro ⟨u, hu⟩
      exact (hfree x.2 (List.of_mem_zip hx).2).2 u hu
    · have hlength : pack'.cards.length = items.length := by
        have hmap := congrArg List.length hp.cards
        rwa [List.length_map, List.length_map] at hmap
      rw [(packCards_keys hlength).2]
      exact haddrs
  · intro u a hu
    rcases (hcards u a _).1 ⟨hu, rfl⟩ with ⟨hold, heq⟩ | ⟨c, hc, -, -, hvalue⟩
    · have hcard : (serveBook E P s (.grant items bookAddr)).cards a = s.cards a := heq.symm
      rw [hcard]
      exact hr.settled u a hold
    · obtain ⟨x, hx, rfl⟩ := List.mem_map.1 hc
      have hcard : (serveBook E P s (.grant items bookAddr)).cards a = _ := hvalue.symm
      rw [hcard]
      exact Or.inl (hunplaced x hx)

/-- **Contents stay ready**: step lemma -/
theorem serveCare_ready (hnew : NewPieces T P) (hcalls : CallsOnce T.toGrowTables) (hr : Ready E T s) (op : CareOp ι υ π)
    (hl : legalCare E T P s op) (hpos : legalPos E P s op) : Ready E T (serveCare E T F P s op) := by
  suffices h : Inv E (serveCare E T F P s op) ∧ AllSettled E (serveCare E T F P s op) from
    ⟨(serveCare_sound hnew hcalls hr.sound op hl).1, h.1, h.2⟩
  have hidle : Inv E s ∧ AllSettled E s := ⟨hr.inv, hr.settled⟩
  cases op with
  | grant items bookAddr => exact grant_ready hr hl hpos
  | applyPos C pkt =>
    refine ⟨serve_inv hr.inv hpos.1 hpos.2, ?_⟩
    rw [serveCare, serve]
    split
    · exact hr.settled
    · rename_i pkt' hok
      obtain ⟨limit, acc⟩ := isCanApplyPosCard_ok hr.inv.null hok
      obtain ⟨a, ha⟩ := hr.inv.found acc.exist
      have hget : s.getInst pkt.cardUID = some a := ha
      rw [hget] at acc
      rw [doSetApplyPosCard_accepted hr.inv hpos.1 ha acc]
      exact hr.settled.placed hr.inv.toBase ha acc.toGuarded
  | applyPosCards uids kind value checkWork =>
    refine ⟨serve_inv hr.inv hpos.1 trivial, ?_⟩
    rw [serveCare, serve]
    split
    · rename_i infos hok
      obtain ⟨-, rfl, -, -⟩ := isCanApplyPosCards_ok hok
      refine hr.settled.applyPosCards fun info hinfo => ?_
      obtain ⟨i, hi, rfl⟩ := List.mem_mapIdx.1 hinfo
      have hlt : 0 + i < E.slotMax := by
        have hfits := hpos.1.2
        omega
      exact ⟨hpos.2.1, hpos.2.2, (Nat.mod_le _ _).trans_lt hlt⟩
    · exact hr.settled
  | applyOutPos uid => exact ⟨doDelPosValueUid_inv hr.inv uid, hr.settled.delPosUid uid⟩
  | applyOutPosCards uids => exact ⟨doSetApplyOutPosCards_inv hr.inv uids, hr.settled.outPosCards uids⟩
  | lock uid lock =>
    rw [serveCare]
    split
    · exact hidle
    · exact ⟨hr.inv.write uid (f := fun c => { c with lock := lock }) fun c => ⟨rfl, rfl, rfl⟩,
        hr.settled.setCard _ fun _ hc => hc⟩
  | sell O uid =>
    rw [serveCare]
    split
    · exact hidle
    · exact ⟨doDel_inv hr.inv _, (doDel_removed hr.inv.toBase.unshared _).settled hr.settled⟩
  | lvUp O req ignoreCost =>
    rw [serveCare]
    split
    · exact hidle
    · exact grow_ready hr.inv hr.settled _ _
  | skillLvUp O req ignoreCost =>
    rw [serveCare]
    split
    · exact hidle
    · exact grow_ready hr.inv hr.settled _ _
  | wake O req ignoreCost =>
    rw [serveCare]
    split
    · exact hidle
    · exact grow_ready hr.inv hr.settled _ _
  | favor charTID gapExp maxErr =>
    rw [serveCare]
    split
    · rename_i book hok
      obtain ⟨objs, null, heq⟩ := doUpdateBook_frame s [book]
      rw [heq]
      exact ⟨hr.inv.congr_books rfl rfl rfl rfl, hr.settled⟩
    · exact hidle
  | newConfirm tid =>
    rw [serveCare]
    split
    · exact hidle
    · exact bookState_ready hr.inv hr.settled _ _
  | getFavorReward user products tid stateIdx =>
    rw [serveCare]
    split
    · exact hidle
    · exact bookState_ready hr.inv hr.settled _ _

end GameServer.Card
