/-
Records and their updates: an object in memory, changed by assignments, and a stored document, changed by one update
document of `$set`, `$inc` and `$unset` operators.

- `Write`, `exec`: assignments `x = v` and `x += d`, executed one after the other;
- `effect`: what a list of assignments does to one field (`exec_apply`);
- `Update`, `Update.apply`: an update document and what the store does with it;
- `Update.ofWrites`: the update document that a list of `$set`/`$inc` entries builds.
`ofWrites_apply`: if no field is written twice, applying the document is the same as executing the entries.
-/
import Mathlib.Tactic

namespace GameServer.Core

variable {K V : Type*}

/-! ## Assignments -/

inductive Write (K V : Type*) where
  | set (k : K) (v : V)
  | inc (k : K) (d : V)
deriving Repr

namespace Write

def key : Write K V → K
  | set k _ => k
  | inc k _ => k

/-- the new value of the field -/
def act [Add V] : Write K V → V → V
  | set _ v, _ => v
  | inc _ d, x => x + d

@[simp] theorem key_set (k : K) (v : V) : (set k v).key = k := rfl

@[simp] theorem key_inc (k : K) (d : V) : (inc k d).key = k := rfl

@[simp] theorem act_set [Add V] (k : K) (v x : V) : (set k v).act x = v := rfl

@[simp] theorem act_inc [Add V] (k : K) (d x : V) : (inc k d).act x = x + d := rfl

end Write

section Exec

variable [DecidableEq K] [Add V]

/-- assignments to an object in memory -/
def exec (p : K → V) (ws : List (Write K V)) : K → V :=
  ws.foldl (fun p w => Function.update p w.key (w.act (p w.key))) p

/-- what the assignments do to field `k` -/
def effect (ws : List (Write K V)) (k : K) (x : V) : V := ws.foldl (fun x w => if w.key = k then w.act x else x) x

@[simp] theorem effect_nil (k : K) (x : V) : effect ([] : List (Write K V)) k x = x := rfl

@[simp] theorem effect_cons (w : Write K V) (ws : List (Write K V)) (k : K) (x : V) :
    effect (w :: ws) k x = effect ws k (if w.key = k then w.act x else x) := rfl

theorem effect_append (a b : List (Write K V)) (k : K) (x : V) : effect (a ++ b) k x = effect b k (effect a k x) := by
  simp [effect, List.foldl_append]

theorem exec_append (p : K → V) (a b : List (Write K V)) : exec (exec p a) b = exec p (a ++ b) := by
  simp [exec, List.foldl_append]

theorem exec_apply (p : K → V) (ws : List (Write K V)) (k : K) : exec p ws k = effect ws k (p k) := by
  induction ws generalizing p with
  | nil => rfl
  | cons w ws ih =>
    change exec (Function.update p w.key (w.act (p w.key))) ws k = _
    rw [ih, effect_cons]
    by_cases h : w.key = k
    · subst h; simp
    · simp [h, Function.update_of_ne (Ne.symm h)]

/-- a field that is not assigned keeps its value -/
theorem effect_of_not_mem {ws : List (Write K V)} {k : K} (h : ∀ w ∈ ws, w.key ≠ k) (x : V) : effect ws k x = x := by
  induction ws generalizing x with
  | nil => rfl
  | cons w ws ih =>
    rw [effect_cons, if_neg (h w List.mem_cons_self)]
    exact ih (fun w hw => h w (List.mem_cons_of_mem _ hw)) x

end Exec

/-! ## Update documents -/

/-- the operators of an update document -/
structure Update (K V : Type*) where
  set : K → Option V
  inc : K → Option V
  unset : K → Bool

namespace Update

def empty : Update K V := ⟨fun _ => none, fun _ => none, fun _ => false⟩

section

variable [DecidableEq K]

/-- `$data['$set'][k] = v`, `$data['$inc'][k] = d` -/
def add (u : Update K V) : Write K V → Update K V
  | .set k v => { u with set := Function.update u.set k (some v) }
  | .inc k d => { u with inc := Function.update u.inc k (some d) }

/-- `$data['$unset'][k] = 0` -/
def addUnset (u : Update K V) (k : K) : Update K V := { u with unset := Function.update u.unset k true }

/-- the document that the entries build, in order -/
def ofWrites (ws : List (Write K V)) : Update K V := ws.foldl add empty

end

/-- the store applies the operators field by field; `$inc` creates an absent field -/
def apply [Add V] (u : Update K V) (doc : K → Option V) : K → Option V := fun k =>
  match u.set k, u.inc k with
  | some v, _ => some v
  | none, some d => some (match doc k with
    | none => d
    | some x => x + d)
  | none, none => if u.unset k then none else doc k

/-- the store refuses a document with two operators on one field -/
def NoConflict (u : Update K V) : Prop := ∀ k, u.set k = none ∨ u.inc k = none

section OfWrites

variable [DecidableEq K]

theorem ofWrites_append_singleton (ws : List (Write K V)) (w : Write K V) :
    ofWrites (ws ++ [w]) = (ofWrites ws).add w := by simp [ofWrites]

/-- an entry changes its own field only -/
theorem add_frame (u : Update K V) {w : Write K V} {k : K} (h : k ≠ w.key) :
    (u.add w).set k = u.set k ∧ (u.add w).inc k = u.inc k ∧ (u.add w).unset k = u.unset k := by
  cases w with
  | set k' v => exact ⟨Function.update_of_ne h _ _, rfl, rfl⟩
  | inc k' d => exact ⟨rfl, Function.update_of_ne h _ _, rfl⟩

omit [DecidableEq K] in
theorem apply_congr [Add V] {u u' : Update K V} {doc doc' : K → Option V} {k : K} (h1 : u'.set k = u.set k)
    (h2 : u'.inc k = u.inc k) (h3 : u'.unset k = u.unset k) (hd : doc' k = doc k) :
    u'.apply doc' k = u.apply doc k := by
  simp only [apply, h1, h2, h3, hd]

/-- a field without an entry is not mentioned -/
theorem ofWrites_of_not_mem {ws : List (Write K V)} {k : K} (h : ∀ w ∈ ws, w.key ≠ k) :
    (ofWrites ws).set k = none ∧ (ofWrites ws).inc k = none := by
  induction ws using List.reverseRecOn with
  | nil => exact ⟨rfl, rfl⟩
  | append_singleton ws w ih =>
    obtain ⟨h1, h2⟩ := ih fun w hw => h w (List.mem_append_left _ hw)
    have hw : k ≠ w.key := (h w (List.mem_append_right _ (List.mem_singleton_self w))).symm
    obtain ⟨f1, f2, -⟩ := add_frame (ofWrites ws) hw
    rw [ofWrites_append_singleton, f1, f2]
    exact ⟨h1, h2⟩

omit [DecidableEq K] in
/-- the last entry of a list without repeated fields is the only one for its field -/
theorem fresh_of_nodup {ws : List (Write K V)} {w : Write K V} (hnd : ((ws ++ [w]).map Write.key).Nodup) :
    (ws.map Write.key).Nodup ∧ ∀ w' ∈ ws, w'.key ≠ w.key := by
  rw [List.map_append, List.nodup_append] at hnd
  exact ⟨hnd.1, fun w' hw' => hnd.2.2 _ (List.mem_map_of_mem hw') _ (by simp)⟩

/-- **If no field is written twice, the update document does what the assignments do.** -/
theorem ofWrites_apply [Add V] {ws : List (Write K V)} (hnd : (ws.map Write.key).Nodup) {doc : K → Option V} {k : K}
    {x : V} (hx : doc k = some x) : (ofWrites ws).apply doc k = some (effect ws k x) := by
  induction ws using List.reverseRecOn with
  | nil => simpa [apply, ofWrites, empty] using hx
  | append_singleton ws w ih =>
    obtain ⟨hnd', hfresh⟩ := fresh_of_nodup hnd
    rw [ofWrites_append_singleton, effect_append, effect_cons, effect_nil]
    by_cases hw : w.key = k
    · subst hw
      obtain ⟨h1, -⟩ := ofWrites_of_not_mem hfresh
      rw [effect_of_not_mem hfresh, if_pos rfl]
      cases w with
      | set k' v => simp [apply, add]
      | inc k' d =>
        simp only [Write.key_inc] at h1 hx
        simp [apply, add, h1, hx]
    · obtain ⟨f1, f2, f3⟩ := add_frame (ofWrites ws) (Ne.symm hw)
      rw [if_neg hw, ← ih hnd']
      exact apply_congr f1 f2 f3 rfl

/-- the store accepts such a document -/
theorem ofWrites_noConflict {ws : List (Write K V)} (hnd : (ws.map Write.key).Nodup) : (ofWrites ws).NoConflict := by
  induction ws using List.reverseRecOn with
  | nil => exact fun _ => Or.inl rfl
  | append_singleton ws w ih =>
    obtain ⟨hnd', hfresh⟩ := fresh_of_nodup hnd
    obtain ⟨h1, h2⟩ := ofWrites_of_not_mem hfresh
    intro k
    rw [ofWrites_append_singleton]
    rcases eq_or_ne k w.key with rfl | hne
    · cases w with
      | set k' v => exact Or.inr h2
      | inc k' d => exact Or.inl h1
    · obtain ⟨f1, f2, -⟩ := add_frame (ofWrites ws) hne
      rw [f1, f2]
      exact ih hnd' k

end OfWrites

end Update

end GameServer.Core
