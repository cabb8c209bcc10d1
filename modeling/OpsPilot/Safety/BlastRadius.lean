import OpsPilot.Lib.Reach
import OpsPilot.Safety.Policy
/-!
# What the blast radius leaves out (`RiskPolicyEngine.calculate_blast_radius`)

The radius is the target with its direct dependents and its direct dependencies, each once
(policy.py:37). The services that an outage of the target touches are more than that: whatever
depends on it through other services, and whatever it depends on through other services.
`calculateBlastRadius_iff` says on which topologies the two agree.
-/
namespace OpsPilot

namespace ServiceTopology

/-- `a` calls `b`. -/
def DependsOn (t : ServiceTopology) (a b : String) : Prop := b ∈ t.getDownstreamDependencies a

/-- The target and the services one hop away. -/
def Neighbour (t : ServiceTopology) (target s : String) : Prop :=
  s = target ∨ t.DependsOn s target ∨ t.DependsOn target s

/-- No neighbour passes the impact on: a service that depends on one which is affected as a
dependent, or on which one depends that is affected as a dependency, is a neighbour itself. -/
def StaysOneHop (t : ServiceTopology) (target : String) : Prop :=
  ∀ z, t.Neighbour target z → ∀ s,
    (Relation.ReflTransGen t.DependsOn z target → t.DependsOn s z → t.Neighbour target s) ∧
    (Relation.ReflTransGen t.DependsOn target z → t.DependsOn z s → t.Neighbour target s)

/-- Each affected service once, the target first. -/
def FullImpact (t : ServiceTopology) (target : String) (radius : List String) : Prop :=
  radius.Nodup ∧ radius.head? = some target ∧
    ∀ s, s ∈ radius ↔ s = target ∨ Relation.TransGen t.DependsOn s target ∨ Relation.TransGen t.DependsOn target s

instance (t : ServiceTopology) (a b : String) : Decidable (t.DependsOn a b) :=
  inferInstanceAs (Decidable (_ ∈ _))

theorem mem_getUpstreamDependents {t : ServiceTopology} {target s : String} :
    s ∈ t.getUpstreamDependents target ↔ t.DependsOn s target := by
  unfold getUpstreamDependents DependsOn getDownstreamDependencies
  constructor
  · intro h
    obtain ⟨e, he, rfl⟩ := List.mem_map.1 h
    obtain ⟨hmem, hdep⟩ := List.mem_filter.1 he
    have hget : t.services.get? e.1 = some e.2 := Dict.look_of_mem t.services.nodup hmem
    rw [hget]
    exact List.contains_iff_mem.1 hdep
  · intro h
    cases hget : t.services.get? s with
    | none =>
      rw [hget] at h
      cases h
    | some node =>
      rw [hget] at h
      have hmem : (s, node) ∈ t.services.entries := Dict.mem_of_look hget
      exact List.mem_map.2 ⟨(s, node), List.mem_filter.2 ⟨hmem, List.contains_iff_mem.2 h⟩, rfl⟩

/-- Only neighbours are affected exactly when none of them passes the impact on. -/
theorem staysOneHop_iff {t : ServiceTopology} {target : String} :
    t.StaysOneHop target ↔ ∀ s,
      Relation.ReflTransGen t.DependsOn s target ∨ Relation.ReflTransGen t.DependsOn target s →
        t.Neighbour target s := by
  have hup := Relation.reached_iff (r := t.DependsOn) (P := t.Neighbour target) (.inl rfl)
  have hdown := Relation.reach_iff (r := t.DependsOn) (P := t.Neighbour target) (.inl rfl)
  constructor
  · rintro h s (hs | hs)
    · exact hup.2 (fun z hz y => (h z hz y).1) s hs
    · exact hdown.2 (fun z hz y => (h z hz y).2) s hs
  · intro h z hz y
    exact ⟨hup.1 (fun s hs => h s (.inl hs)) z hz y, hdown.1 (fun s hs => h s (.inr hs)) z hz y⟩

end ServiceTopology

theorem nodup_eraseDups {α : Type} [BEq α] [LawfulBEq α] (l : List α) : l.eraseDups.Nodup := by
  induction hn : l.length using Nat.strong_induction_on generalizing l with
  | _ n ih =>
    cases l with
    | nil => simp
    | cons a l =>
      rw [List.eraseDups_cons, List.nodup_cons]
      have hlen : (l.filter fun b => !b == a).length < n :=
        Nat.lt_of_le_of_lt (List.length_filter_le _ _) (hn ▸ Nat.lt_succ_self _)
      refine ⟨?_, ih _ hlen _ rfl⟩
      rw [List.mem_eraseDups, List.mem_filter]
      simp

namespace RiskPolicyEngine

variable (e : RiskPolicyEngine) (targetService : String)

theorem mem_calculateBlastRadius {s : String} :
    s ∈ e.calculateBlastRadius targetService ↔ e.topology.Neighbour targetService s := by
  simp only [calculateBlastRadius, List.mem_eraseDups, List.mem_append, List.mem_cons,
    ServiceTopology.mem_getUpstreamDependents, ServiceTopology.Neighbour, or_assoc]
  rfl

theorem nodup_calculateBlastRadius : (e.calculateBlastRadius targetService).Nodup := nodup_eraseDups _

theorem head_calculateBlastRadius :
    (e.calculateBlastRadius targetService).head? = some targetService := by
  rw [calculateBlastRadius, List.cons_append, List.eraseDups_cons, List.head?_cons]

/-- **The radius is the full impact set exactly where the impact stays within one hop.** -/
theorem calculateBlastRadius_iff :
    e.topology.FullImpact targetService (e.calculateBlastRadius targetService) ↔
      e.topology.StaysOneHop targetService := by
  rw [ServiceTopology.staysOneHop_iff, ServiceTopology.FullImpact]
  constructor
  · rintro ⟨-, -, hmem⟩ s hs
    exact (mem_calculateBlastRadius e targetService).1 ((hmem s).2 (Relation.reflTransGen_or_iff.1 hs))
  · intro h
    refine ⟨nodup_calculateBlastRadius e targetService, head_calculateBlastRadius e targetService, fun s => ?_⟩
    rw [mem_calculateBlastRadius]
    constructor
    · rintro (rfl | hup | hdown)
      · exact .inl rfl
      · exact .inr (.inl (.single hup))
      · exact .inr (.inr (.single hdown))
    · intro hs
      exact h s (Relation.reflTransGen_or_iff.2 hs)

/-- When the notification service fails, the gateway suffers through the order service; the radius
does not list it. -/
theorem calculateBlastRadius_misses_gateway :
    ¬ ({} : RiskPolicyEngine).topology.FullImpact "notification-service"
      (({} : RiskPolicyEngine).calculateBlastRadius "notification-service") := by
  rintro ⟨-, -, hmem⟩
  have horder : ServiceTopology.default.DependsOn "order-service" "notification-service" := by decide +kernel
  have hgateway : ServiceTopology.default.DependsOn "api-gateway" "order-service" := by decide +kernel
  have hin := (hmem "api-gateway").2 (.inr (.inl (.tail (.single hgateway) horder)))
  revert hin
  decide +kernel

end RiskPolicyEngine

end OpsPilot
