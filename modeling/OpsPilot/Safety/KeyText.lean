import OpsPilot.Lib.Infix
import OpsPilot.Lib.JsonText
import OpsPilot.Safety.Policy
/-!
# What an idempotency key is computed from (`generate_idempotency_key`, policy.py:65)

The hashed text joins four fields by `:`, and the target and the parameters may have colons themselves.
The first two fields have none. The parameters are an object, and a colon before an object would stand
in one of the strings of the other object; a reader that is in a string there stays apart from one that
is not (`Json.append_colon_obj_inj`).
-/
namespace OpsPilot

/-- incident_service.py:83 -/
def createIncidentId (uuid : Nat) : String := "inc-" ++ Py.take (Py.hex 32 uuid) 8

theorem colon_notMem_createIncidentId (uuid : Nat) : ':' ∉ (createIncidentId uuid).toList := by
  have hhex : ∀ d < 16, Nat.digitChar d ≠ ':' := by decide
  rw [createIncidentId, String.toList_append]
  intro hmem
  rcases List.mem_append.1 hmem with hprefix | htake
  · exact absurd hprefix (by decide)
  · rw [Py.take, String.toList_ofList] at htake
    obtain ⟨d, hd, heq⟩ := Digits.isHex_of_mem_hex (List.mem_of_mem_take htake)
    exact hhex d hd heq.symm

namespace ActionType

theorem colon_notMem_name (t : ActionType) : ':' ∉ t.name.toList := by
  cases t <;> decide

theorem name_injective {t t' : ActionType} (h : t.name = t'.name) : t = t' := by
  cases t <;> cases t' <;> first | rfl | exact absurd h (by decide)

end ActionType

namespace RiskPolicyEngine

/-- policy.py:74 -/
def rawKey (incidentId : String) (actionType : ActionType) (targetService : String) (parameters : Json) : String :=
  incidentId ++ ":" ++ actionType.name ++ ":" ++ targetService ++ ":" ++ parameters.dumps true

theorem generateIdempotencyKey_eq (incidentId : String) (actionType : ActionType) (targetService : String)
    (parameters : Json) : generateIdempotencyKey incidentId actionType targetService parameters =
      Py.take (Sha256.hexdigest (rawKey incidentId actionType targetService parameters).toUTF8.toList) 32 := rfl

theorem toList_rawKey (incidentId : String) (actionType : ActionType) (targetService : String) (parameters : Json) :
    (rawKey incidentId actionType targetService parameters).toList = incidentId.toList ++ ':' ::
      (actionType.name.toList ++ ':' :: (targetService.toList ++ ':' :: (parameters.dumps true).toList)) := by
  have hcolon : ":".toList = [':'] := rfl
  simp only [rawKey, String.toList_append, hcolon, List.append_assoc, List.cons_append, List.nil_append]

/-- **Keys identify actions**: actions have the same text exactly if they are the same action of the same incident, up
to the order of keys in their parameters. -/
theorem rawKey_eq_iff {incidentId incidentId' : String} (hid : ':' ∉ incidentId.toList)
    (hid' : ':' ∉ incidentId'.toList) (actionType actionType' : ActionType) (targetService targetService' : String)
    {parameters parameters' : List (String × Json)} (hkeys : Json.DistinctKeys (.obj parameters))
    (hkeys' : Json.DistinctKeys (.obj parameters')) :
    rawKey incidentId actionType targetService (.obj parameters) =
        rawKey incidentId' actionType' targetService' (.obj parameters') ↔
      incidentId = incidentId' ∧ actionType = actionType' ∧ targetService = targetService' ∧
        Json.SameUpToOrder (.obj parameters) (.obj parameters') := by
  constructor
  · intro h
    have hlist := congrArg String.toList h
    rw [toList_rawKey, toList_rawKey] at hlist
    obtain ⟨hincident, hlist⟩ := Infix.append_cons_inj hid hid' hlist
    obtain ⟨haction, hlist⟩ :=
      Infix.append_cons_inj actionType.colon_notMem_name actionType'.colon_notMem_name hlist
    obtain ⟨htarget, hparameters⟩ := Json.append_colon_obj_inj hlist
    exact ⟨String.ext hincident, ActionType.name_injective (String.ext haction), String.ext htarget,
      (Json.dumps_eq_iff hkeys hkeys').1 (String.ext hparameters)⟩
  · rintro ⟨rfl, rfl, rfl, hsame⟩
    rw [rawKey, rawKey, (Json.dumps_eq_iff hkeys hkeys').2 hsame]

/-- Two orders of the same parameters, with colons and braces in a string. -/
theorem rawKey_eq_replicas :
    rawKey (createIncidentId 0) .scaleReplicas "db:main"
        (.obj [("replicas", .int 3), ("zone", .str "a:\x7b\x7d")]) =
      rawKey (createIncidentId 0) .scaleReplicas "db:main"
        (.obj [("zone", .str "a:\x7b\x7d"), ("replicas", .int 3)]) := by
  have hkeys : Json.DistinctKeys (.obj [("replicas", .int 3), ("zone", .str "a:\x7b\x7d")]) := by
    refine .obj (by decide) ?_
    rw [List.forall_mem_cons, List.forall_mem_singleton]
    exact ⟨.int 3, .str _⟩
  have hkeys' : Json.DistinctKeys (.obj [("zone", .str "a:\x7b\x7d"), ("replicas", .int 3)]) := by
    refine .obj (by decide) ?_
    rw [List.forall_mem_cons, List.forall_mem_singleton]
    exact ⟨.str _, .int 3⟩
  have hid := colon_notMem_createIncidentId 0
  refine (rawKey_eq_iff hid hid _ _ _ _ hkeys hkeys').2
    ⟨rfl, rfl, rfl, .obj (List.Perm.refl _) (List.Perm.swap _ _ _) rfl ?_⟩
  exact .cons (.int 3) (.cons (.str _) .nil)

end RiskPolicyEngine

end OpsPilot
