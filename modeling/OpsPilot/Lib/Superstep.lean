import Mathlib.Data.List.Perm.Basic
import OpsPilot.Lib.Dict
/-!
# Graphs that run in supersteps

A graph of nodes over a shared state of type `σ`. In a superstep every scheduled node reads
the same state and finishes, in any order, with an update of type `U`; at the barrier the
updates are applied one after another, and the edges leaving the finished nodes schedule the
nodes of the next superstep, each once.

`barrier` takes the order in which the updates are applied as an argument, so that whatever
holds here holds for every order.
-/

/-- The shared state, the nodes of this superstep that still run, and the updates of those that
have finished, in the order in which they did. -/
structure Superstep (N σ U : Type) where
  state : σ
  running : List N
  writes : List (N × U) := []

namespace Superstep

variable {N σ U : Type}

/-- The nodes of the superstep. -/
def active (g : Superstep N σ U) : List N := g.running ++ g.writes.map Prod.fst

/-- No node is scheduled any more. -/
def Over (g : Superstep N σ U) : Prop := g.running = [] ∧ g.writes = []

instance (g : Superstep N σ U) : Decidable g.Over :=
  decidable_of_iff (g.running.isEmpty = true ∧ g.writes.isEmpty = true) (by simp [Over])

/-- All tasks are dropped. -/
def stop (g : Superstep N σ U) : Superstep N σ U := { g with running := [], writes := [] }

theorem over_stop (g : Superstep N σ U) : g.stop.Over := ⟨rfl, rfl⟩

theorem over_iff_active (g : Superstep N σ U) : g.Over ↔ g.active = [] := by
  simp [Over, active]

variable [DecidableEq N]

/-- Node `n` finishes with update `u`. -/
def finish (g : Superstep N σ U) (n : N) (u : U) : Superstep N σ U :=
  { g with running := g.running.erase n, writes := g.writes ++ [(n, u)] }

/-- A node that finishes stays in its superstep. -/
theorem active_finish {g : Superstep N σ U} {n : N} (hn : n ∈ g.running) (u : U) :
    (g.finish n u).active.Perm g.active := by
  have hp : (g.running.erase n ++ [n]).Perm g.running :=
    (List.perm_append_singleton n _).trans (List.perm_cons_erase hn).symm
  have : (g.finish n u).active.Perm (g.running.erase n ++ [n] ++ g.writes.map Prod.fst) := by
    simp only [active, finish, List.map_append, List.map_cons, List.map_nil, List.append_assoc]
    exact List.Perm.append_left _ List.perm_append_comm
  exact this.trans (hp.append_right _)

theorem finish_singleton {g : Superstep N σ U} {n : N} (hr : g.running = [n]) (hw : g.writes = [])
    (u : U) : g.finish n u = { g with running := [], writes := [(n, u)] } := by
  simp [finish, hr, hw]

variable (apply : σ → U → σ) (next : σ → N → List N)

/-- The updates in the given order of their nodes. -/
def inOrder (order : List N) (writes : List (N × U)) : List U :=
  order.filterMap fun n => Dict.look n writes

/-- The end of a superstep. -/
def barrier (order : List N) (g : Superstep N σ U) : Option (Superstep N σ U) :=
  if g.running = [] ∧ g.writes ≠ [] ∧ order.Perm (g.writes.map Prod.fst) then
    let state := (inOrder order g.writes).foldl apply g.state
    some { state, running := (order.flatMap (next state)).eraseDups }
  else none

variable {apply next} {g g' : Superstep N σ U} {order : List N}

theorem barrier_eq_some (h : barrier apply next order g = some g') :
    g.running = [] ∧ g.writes ≠ [] ∧ order.Perm (g.writes.map Prod.fst) ∧ g'.writes = [] ∧
      g'.state = (inOrder order g.writes).foldl apply g.state ∧
      g'.running = (order.flatMap (next g'.state)).eraseDups := by
  unfold barrier at h
  split at h
  · rename_i hc
    cases h
    exact ⟨hc.1, hc.2.1, hc.2.2, rfl, rfl, rfl⟩
  · cases h

/-- A superstep of one node. -/
theorem barrier_singleton {n : N} {u : U} (hw : g.writes = [(n, u)])
    (h : barrier apply next order g = some g') :
    g' = { state := apply g.state u, running := (next (apply g.state u) n).eraseDups } := by
  obtain ⟨-, -, hperm, hw', hst, hrun⟩ := barrier_eq_some h
  rw [hw] at hperm
  obtain rfl : order = [n] := List.perm_singleton.1 hperm
  have hstate : g'.state = apply g.state u := by simp [hst, hw, inOrder, Dict.look]
  obtain ⟨state, running, writes⟩ := g'
  simp only at hw' hstate hrun
  subst hw' hstate hrun
  simp

/-- Whatever the order, the updates are those that were written. -/
theorem inOrder_perm {writes : List (N × U)} (hnodup : (writes.map Prod.fst).Nodup)
    (hperm : order.Perm (writes.map Prod.fst)) :
    (inOrder order writes).Perm (writes.map Prod.snd) := by
  have hself : ∀ l : List (N × U), (∀ e ∈ l, Dict.look e.1 writes = some e.2) →
      inOrder (l.map Prod.fst) writes = l.map Prod.snd := by
    intro l hl
    induction l with
    | nil => rfl
    | cons e l ih =>
      have hrest := ih fun e' he' => hl e' (List.mem_cons_of_mem e he')
      simp only [inOrder, List.map_cons, List.filterMap_cons, hl e List.mem_cons_self] at hrest ⊢
      rw [hrest]
  rw [← hself writes fun e he => Dict.look_of_mem hnodup he]
  exact hperm.filterMap _

/-- What every update keeps, the barrier keeps. -/
theorem barrier_induction {P : σ → Prop} (h : barrier apply next order g = some g') (h0 : P g.state)
    (hs : ∀ n u st, (n, u) ∈ g.writes → P st → P (apply st u)) : P g'.state := by
  obtain ⟨-, -, -, -, hst, -⟩ := barrier_eq_some h
  rw [hst]
  have hmem : ∀ u ∈ inOrder order g.writes, ∃ n, (n, u) ∈ g.writes := by
    intro u hu
    obtain ⟨n, -, hn⟩ := List.mem_filterMap.1 hu
    exact ⟨n, Dict.mem_of_look hn⟩
  clear hst
  generalize inOrder order g.writes = us at hmem
  generalize g.state = st at h0
  induction us generalizing st with
  | nil => exact h0
  | cons u us ih =>
    obtain ⟨n, hn⟩ := hmem u List.mem_cons_self
    exact ih (fun v hv => hmem v (List.mem_cons_of_mem u hv)) (apply st u) (hs n u st hn h0)

end Superstep
