/-
Users of one server over shared objects, `C++/CardContents.cpp` with `Shared`: any interleaving of users who come, send
requests and go.

- `objects_conserved`: no object is in two contents or under two UIDs, none that is in use is free, and none is ever lost;
- `users_isolated`: what a user has does not depend on the others. Her cards, books and slots are those of a run of her own
  requests alone, though the others get the objects that she gives back, and she theirs.
-/
import Mathlib.Tactic
import GameServer.Core.Run
import GameServer.Core.Pool
import GameServer.Card.Shared

namespace GameServer.Card

open GameServer.Core

variable {ι κ υ ρ π : Type}

/-! ## The server -/

/-- the maps of every user, the objects, the free ones, and the null objects -/
structure World (ν : Type) where
  cards : Depot ν ℕ CardPiece
  books : Depot ν ℕ BookPiece
  posCont : ν → ℕ → ℕ → Option InstVec
  msNullCard : CardPiece
  msNullBook : BookPiece

/-- the contents of one user -/
def World.view {ν : Type} (w : World ν) (v : ν) : St :=
  ⟨w.cards.own v, w.books.own v, w.posCont v, w.cards.objs, w.books.objs, w.msNullCard, w.msNullBook⟩

section

variable (E : Env) (T : CareTables ι κ) (F : FlagEnv υ ρ π) (P : ProductTables) {ν : Type} [DecidableEq ν]

/-- user `v` has taken objects out of the pools and given others back -/
def World.put (w : World ν) (v : ν) (t : St) (taken : List (ℕ × Addr) × List (ℕ × Addr))
    (given : List Addr × List Addr) : World ν where
  cards := w.cards.put v (cardHeap t) taken.1 given.1
  books := w.books.put v (bookHeap t) taken.2 given.2
  posCont := Function.update w.posCont v t.posCont
  msNullCard := t.msNullCard
  msNullBook := t.msNullBook

def worldStep (w : World ν) (o : ν × UserOp ι υ π) : World ν :=
  w.put o.1 (serveUser E T F P (w.view o.1) o.2) (popped E P (w.view o.1) o.2) (pushed E T (w.view o.1) o.2)

/-- the pools hand out what is free -/
def worldLegal (w : World ν) (o : ν × UserOp ι υ π) : Prop :=
  legalUser E T P (w.view o.1) o.2 ∧ (∀ x ∈ (popped E P (w.view o.1) o.2).1, x.2 ∈ w.cards.pool) ∧
    ∀ x ∈ (popped E P (w.view o.1) o.2).2, x.2 ∈ w.books.pool

/-- good contents, and no object in two places -/
structure Served (w : World ν) : Prop where
  ready : ∀ v, Ready E T (w.view v)
  cards : w.cards.Parted
  books : w.books.Parted

/-- the objects of `w'` are those of `w` -/
structure SameObjects (w w' : World ν) : Prop where
  cards : ∀ a, w'.cards.Held a ↔ w.cards.Held a
  books : ∀ b, w'.books.Held b ↔ w.books.Held b

/-- the part of one user -/
def partOf (v : ν) (o : ν × UserOp ι υ π) : Option (UserOp ι υ π) := if o.1 = v then some o.2 else none

end

variable {E : Env} {T : CareTables ι κ} {F : FlagEnv υ ρ π} {P : ProductTables} {ν : Type} [DecidableEq ν]
  {w : World ν} {v x : ν} {t : St} {taken : List (ℕ × Addr) × List (ℕ × Addr)} {given : List Addr × List Addr}

/-! ## Steps -/

@[simp] theorem view_put_self : (w.put v t taken given).view v = t := by
  simp [World.view, World.put, Depot.put, cardHeap, bookHeap]

/-- the others see nothing of it -/
theorem view_put_other (hm : Moved (w.view v) t taken given) (hcards : w.cards.Parted) (hbooks : w.books.Parted)
    (hfree : ∀ y ∈ taken.1, y.2 ∈ w.cards.pool) (hfreeBook : ∀ y ∈ taken.2, y.2 ∈ w.books.pool) (hne : x ≠ v) :
    SameView (w.view x) ((w.put v t taken given).view x) where
  cont := Function.update_of_ne hne _ _
  bookCont := Function.update_of_ne hne _ _
  posCont := Function.update_of_ne hne _ _
  cards _ _ hu := Depot.put_objs hm.cards hcards hfree hne hu
  books _ _ hb := Depot.put_objs hm.books hbooks hfreeBook hne hb

omit [DecidableEq ν] in
theorem Served.moved (hw : Served E T w) {o : ν × UserOp ι υ π} (hl : worldLegal E T P w o) :
    Moved (w.view o.1) (serveUser E T F P (w.view o.1) o.2) (popped E P (w.view o.1) o.2)
      (pushed E T (w.view o.1) o.2) := serveUser_moved (hw.ready o.1) o.2 hl.1

/-- the contents of the others after a step -/
theorem Served.other (hw : Served E T w) {o : ν × UserOp ι υ π} (hl : worldLegal E T P w o) (hne : x ≠ o.1) :
    SameView (w.view x) ((worldStep E T F P w o).view x) :=
  view_put_other (hw.moved hl) hw.cards hw.books hl.2.1 hl.2.2 hne

/-- step lemma -/
theorem worldStep_served (hnew : NewPieces T P) (hcalls : CallsOnce T.toGrowTables) (hw : Served E T w)
    (o : ν × UserOp ι υ π) (hl : worldLegal E T P w o) :
    Served E T (worldStep E T F P w o) ∧ SameObjects w (worldStep E T F P w o) := by
  have hm := hw.moved (F := F) hl
  have hself : Ready E T ((worldStep E T F P w o).view o.1) := by
    rw [worldStep, view_put_self]
    exact serveUser_ready hnew hcalls (hw.ready o.1) o.2 hl.1
  refine ⟨⟨fun x => ?_, Depot.put_parted hm.cards hw.cards hl.2.1, Depot.put_parted hm.books hw.books hl.2.2⟩,
    ⟨Depot.put_held hm.cards hw.cards hl.2.1, Depot.put_held hm.books hw.books hl.2.2⟩⟩
  rcases eq_or_ne x o.1 with rfl | hne
  · exact hself
  · -- the null objects are those that the user of the step has left
    exact (hw.ready x).sameView (hw.other hl hne) hself.inv.null hself.sound.booked.null

/-! ## A small server -/

/-- nobody has anything yet -/
def sampleServer : World ℕ where
  cards := ⟨fun _ _ => none, fun _ => sampleEnv.nullCard, [100, 200]⟩
  books := ⟨fun _ _ => none, fun _ => sampleEnv.nullBook, [300, 301]⟩
  posCont _ _ _ := none
  msNullCard := sampleEnv.nullCard
  msNullBook := sampleEnv.nullBook

/-- user 1 uses up a supporter for another one, user 2 gets its object, and goes -/
def sampleServerOps : List (ℕ × UserOp ℕ Unit (List ℕ)) :=
  [(1, .care sampleGrant), (1, .care sampleLvUp), (2, .care (.grant [⟨10, false, 3, 200⟩] fun _ => 301)),
    (1, .care (.lock 1 false)), (2, .release [3] [10])]

theorem sampleServer_served : Served sampleEnv sampleCare sampleServer where
  ready _ := construct_ready ..
  cards := ⟨by decide, fun _ _ _ _ h => (nomatch h), fun _ _ _ _ _ h => (nomatch h)⟩
  books := ⟨by decide, fun _ _ _ _ h => (nomatch h), fun _ _ _ _ _ h => (nomatch h)⟩

/-- supporters of one kind go to a user who has none -/
theorem firstGrant_legal {s : St} (hcont : ∀ u, s.cont u = none) (hbookCont : ∀ tid, s.bookCont tid = none)
    {items : List GrantItem} {bookAddr : ℕ → Addr} (htid : ∀ item ∈ items, item.tid = 10)
    (huids : (items.map GrantItem.uid).Nodup) (haddrs : (items.map GrantItem.addr).Nodup)
    (hreal : ∀ item ∈ items, item.uid ≠ 0) :
    legalReady sampleEnv sampleCare sampleProducts s (.grant items bookAddr : CareOp ℕ Unit (List ℕ)) := by
  refine ⟨⟨⟨fun item hitem => ?_, ?_, fun item hitem item' hitem' _ => ?_⟩, huids, haddrs, ?_⟩, rfl, fun item hitem => ?_⟩
  · rw [htid item hitem]
    exact ⟨by decide, by decide⟩
  · simp [hbookCont]
  · rw [htid item hitem, htid item' hitem']
  · simp [hcont]
  · rw [htid item hitem]
    exact ⟨by simpa [sampleEnv] using hreal item hitem, hreal item hitem⟩

/-- one card and one book -/
theorem single_walks {s : St} {u a tid b : ℕ} (hcont : s.cont = Function.update (fun _ => none) u (some a))
    (hbookCont : s.bookCont = Function.update (fun _ => none) tid (some b)) : Walks s [u] [tid] := by
  refine ⟨List.nodup_singleton _, fun u' => ?_, List.nodup_singleton _, fun tid' => ?_⟩
  · rw [hcont, Function.update_apply, List.mem_singleton]
    split_ifs with hu <;> simp [hu]
  · rw [hbookCont, Function.update_apply, List.mem_singleton]
    split_ifs with htid <;> simp [htid]

theorem sampleLvUp_nonneg (gains : List (Gain ℕ)) : 0 ≤ sampleOutside.addExp gains :=
  Int.mul_nonneg (by decide) (Int.natCast_nonneg _)

theorem sampleServer_legal : LegalRun (worldStep sampleEnv sampleCare sampleFlagEnv sampleProducts)
    (worldLegal sampleEnv sampleCare sampleProducts) sampleServer sampleServerOps := by
  refine ⟨⟨?_, by decide, by decide⟩, ⟨⟨sampleLvUp_nonneg, trivial⟩, by decide, by decide⟩, ⟨?_, by decide, by decide⟩,
    ⟨⟨trivial, trivial⟩, by decide, by decide⟩, ⟨?_, by decide, by decide⟩, trivial⟩
  · exact firstGrant_legal (fun _ => rfl) (fun _ => rfl) (by simp) (by decide) (by decide) (by simp)
  · exact firstGrant_legal (fun _ => rfl) (fun _ => rfl) (by simp) (by decide) (by decide) (by simp)
  · exact single_walks (a := 200) (b := 301) rfl rfl

/-! ## Runs -/

/-- **No object is lost or shared.** In every interleaving of users who come, send requests and go: an object is in the pool
or has one user and one key, never two, and the objects are the same ones all the time. -/
theorem objects_conserved (hnew : NewPieces T P) (hcalls : CallsOnce T.toGrowTables) (hw : Served E T w)
    {ops : List (ν × UserOp ι υ π)} (hops : LegalRun (worldStep E T F P) (worldLegal E T P) w ops) :
    Served E T (run (worldStep E T F P) w ops) ∧ SameObjects w (run (worldStep E T F P) w ops) := by
  refine run_inv (I := fun w' => Served E T w' ∧ SameObjects w w') ?_ ⟨hw, fun _ => Iff.rfl, fun _ => Iff.rfl⟩ hops
  rintro w' o ⟨hw', hsame⟩ hl
  obtain ⟨hnext, hobjs⟩ := worldStep_served (F := F) hnew hcalls hw' o hl
  exact ⟨hnext, fun a => (hobjs.cards a).trans (hsame.cards a), fun b => (hobjs.books b).trans (hsame.books b)⟩

example : (run (worldStep sampleEnv sampleCare sampleFlagEnv sampleProducts) sampleServer sampleServerOps).cards.pool =
    [200] := by decide

theorem objects_conserved_sample :
    Served sampleEnv sampleCare (run (worldStep sampleEnv sampleCare sampleFlagEnv sampleProducts) sampleServer
      sampleServerOps) ∧
    SameObjects sampleServer (run (worldStep sampleEnv sampleCare sampleFlagEnv sampleProducts) sampleServer
      sampleServerOps) :=
  objects_conserved sampleNewPieces sampleTables_callsOnce sampleServer_served sampleServer_legal

/-- **Users do not notice each other.** In every interleaving, what a user has in the end she would have from her own
requests alone, on any other objects: the same cards, the same books, and the same card in every slot. -/
theorem users_isolated (hnew : NewPieces T P) (hcalls : CallsOnce T.toGrowTables) (hG : StateBlind T.toGrowTables)
    (hw : Served E T w) {ops : List (ν × UserOp ι υ π)}
    (hops : LegalRun (worldStep E T F P) (worldLegal E T P) w ops) {s : St} (hs : Ready E T s) (halike : Alike (w.view v) s)
    {own : List (UserOp ι υ π)} (hsame : List.Forall₂ SameUser (ops.filterMap (partOf v)) own)
    (hown : LegalRun (serveUser E T F P) (legalUser E T P) s own) :
    let seen := (run (worldStep E T F P) w ops).view v
    let alone := run (serveUser E T F P) s own
    Ready E T seen ∧ Ready E T alone ∧ Alike seen alone ∧
      ∀ p, occ E seen p = none ∧ occ E alone p = none ∨
        ∃ u a b, occ E seen p = some a ∧ occ E alone p = some b ∧ seen.cont u = some a ∧ alone.cont u = some b := by
  intro seen alone
  have hend : Served E T (run (worldStep E T F P) w ops) ∧ Alike seen alone ∧ Ready E T alone := by
    refine run_project (R := fun w s => Served E T w ∧ Alike (w.view v) s ∧ Ready E T s) ?_ ?_ hsame ⟨hw, halike, hs⟩ hops
      hown
    · rintro w s ⟨v', op⟩ p op' ⟨hw, h, hs⟩ hpart hop hl hl'
      obtain ⟨rfl, rfl⟩ : v' = v ∧ op = p := by simpa [partOf] using hpart
      refine ⟨(worldStep_served hnew hcalls hw _ hl).1, ?_, serveUser_ready hnew hcalls hs op' hl'⟩
      rw [worldStep, view_put_self]
      exact serveUser_alike hG h (hw.ready v') hs hop hl.1 hl'
    · rintro w s ⟨v', op⟩ ⟨hw, h, hs⟩ hpart hl
      have hne : v ≠ v' := by
        rintro rfl
        simp [partOf] at hpart
      exact ⟨(worldStep_served hnew hcalls hw _ hl).1, (hw.other hl hne).alike.symm.trans h, hs⟩
  obtain ⟨hserved, hlike, hready⟩ := hend
  exact ⟨hserved.ready v, hready, hlike, hlike.slot (hserved.ready v).inv hready.inv⟩

/-- the requests of user 1, on other objects -/
def sampleOwn : List (UserOp ℕ Unit (List ℕ)) :=
  [.care (.grant [⟨10, true, 1, 7⟩, ⟨10, false, 2, 8⟩] fun _ => 9), .care sampleLvUp, .care (.lock 1 false)]

theorem users_isolated_sample : Alike
    ((run (worldStep sampleEnv sampleCare sampleFlagEnv sampleProducts) sampleServer sampleServerOps).view 1)
    (run (serveUser sampleEnv sampleCare sampleFlagEnv sampleProducts) noCards sampleOwn) := by
  have hblind : sampleOutside.PointerBlind := by
    intro gains
    simp [sampleOutside]
  have hsame : List.Forall₂ SameUser (sampleServerOps.filterMap (partOf 1)) sampleOwn :=
    .cons (.care (.grant _ _ rfl)) (.cons (.care (.same hblind)) (.cons (.care (.same trivial)) .nil))
  have hown : LegalRun (serveUser sampleEnv sampleCare sampleFlagEnv sampleProducts)
      (legalUser sampleEnv sampleCare sampleProducts) noCards sampleOwn := by
    refine ⟨?_, ⟨sampleLvUp_nonneg, trivial⟩, ⟨trivial, trivial⟩, trivial⟩
    exact firstGrant_legal (fun _ => rfl) (fun _ => rfl) (by simp) (by decide) (by decide) (by simp)
  exact (users_isolated sampleNewPieces sampleTables_callsOnce sampleTables_stateBlind sampleServer_served
    sampleServer_legal noCards_ready ⟨rfl, rfl⟩ hsame hown).2.2.1

end GameServer.Card
