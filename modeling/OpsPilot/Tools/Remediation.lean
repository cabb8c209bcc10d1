import OpsPilot.Tools.Registry
/-!
# The remediation tools (`src/tools/remediation_tools.py`)

Each tool rebuilds the argument map that it hands to the simulator; `…Params` is that part
of its `_run`, from the keyword arguments to the map. The simulator is a parameter: a
function from an action type and a map to `(success, message)`, which may raise.
-/
namespace OpsPilot

variable {W : Type}

/-- `SimulationEngine.execute_action` -/
abbrev Simulator (W : Type) := String → Dict String Json → W → Except PyException (Bool × String) × W

/-- Binds the parameter `target_service`; the other keyword arguments are the rest. -/
def withTarget {α : Type} (cls : String) (kwargs : Dict String Json)
    (body : Json → Dict String Json → Except PyException α) : Except PyException α :=
  match kwargs.get? "target_service" with
  | some targetService => body targetService (kwargs.erase "target_service")
  | none => .error (.typeError (cls ++ "._run() missing 1 required positional argument: 'target_service'"))

/-- remediation_tools.py:19 -/
def restartServiceParams (kwargs : Dict String Json) : Except PyException (Dict String Json) :=
  withTarget "RestartServiceTool" kwargs fun targetService kwargs =>
    .ok ((Dict.ofList [("target_service", targetService)]).update kwargs)

/-- remediation_tools.py:41 -/
def rollbackDeploymentParams (kwargs : Dict String Json) : Except PyException (Dict String Json) :=
  withTarget "RollbackDeploymentTool" kwargs fun targetService kwargs =>
    let targetVersion := kwargs.getD "target_version" .null
    .ok ((Dict.ofList [("target_service", targetService), ("target_version", targetVersion)]).update
      (kwargs.erase "target_version"))

/-- remediation_tools.py:64. `replicas` has no default. -/
def scaleReplicasParams (kwargs : Dict String Json) : Except PyException (Dict String Json) :=
  withTarget "ScaleReplicasTool" kwargs fun targetService kwargs =>
    match kwargs.get? "replicas" with
    | some replicas =>
      .ok ((Dict.ofList [("target_service", targetService), ("replicas", replicas)]).update
        (kwargs.erase "replicas"))
    | none =>
      .error (.typeError "ScaleReplicasTool._run() missing 1 required positional argument: 'replicas'")

/-- remediation_tools.py:87. `config_patch or {}` is spread, so it has to be a dict when it is
true; the target goes last. -/
def modifyConfigurationParams (kwargs : Dict String Json) : Except PyException (Dict String Json) :=
  withTarget "ModifyConfigurationTool" kwargs fun targetService kwargs =>
    let configPatch := kwargs.getD "config_patch" .null
    let patch := if configPatch.truthy then configPatch else .obj []
    match patch.asDict? with
    | some patch =>
      .ok (((Dict.empty.update patch).update (kwargs.erase "config_patch")).set "target_service" targetService)
    | none => .error (.typeError ("'" ++ patch.typeName ++ "' object is not a mapping"))

/-- remediation_tools.py:110 -/
def clearCacheParams (kwargs : Dict String Json) : Except PyException (Dict String Json) :=
  withTarget "ClearCacheTool" kwargs fun targetService kwargs =>
    let cacheType := kwargs.getD "cache_type" (.str "all")
    .ok ((Dict.ofList [("target_service", targetService), ("cache_type", cacheType)]).update
      (kwargs.erase "cache_type"))

section
variable [Unicode]

/-- What the five `_run` methods have in common: build the map, call the simulator, raise when
it reports no success, else describe what was done. -/
def runOn (simulator : Simulator W) (actionType : String)
    (params : Dict String Json → Except PyException (Dict String Json)) (failure : String → String)
    (result : Dict String Json → List (String × Json)) (kwargs : Dict String Json) (w : W) :
    Except PyException Json × W :=
  match params kwargs with
  | .error exc => (.error exc, w)
  | .ok map =>
    match simulator actionType map w with
    | (.error exc, w) => (.error exc, w)
    | (.ok (true, message), w) => (.ok (.obj (result map ++ [("message", .str message)])), w)
    | (.ok (false, message), w) =>
      let target := Json.pyStr (kwargs.getD "target_service" .null)
      (.error (.runtimeError (failure target ++ ": " ++ message)), w)

def restartServiceTool (simulator : Simulator W) : Tool W where
  name := "restart_service"
  run := runOn simulator "restart_service" restartServiceParams ("Failed to restart service " ++ ·)
    fun map => [("target_service", map.getD "target_service" .null), ("status", .str "RESTARTED")]

def rollbackDeploymentTool (simulator : Simulator W) : Tool W where
  name := "rollback_deployment"
  run := runOn simulator "rollback_deployment" rollbackDeploymentParams ("Rollback failed for " ++ ·)
    fun map => [("target_service", map.getD "target_service" .null),
      ("target_version", map.getD "target_version" .null), ("status", .str "ROLLED_BACK")]

def scaleReplicasTool (simulator : Simulator W) : Tool W where
  name := "scale_replicas"
  run := runOn simulator "scale_replicas" scaleReplicasParams ("Scaling failed for " ++ ·)
    fun map => [("target_service", map.getD "target_service" .null),
      ("replicas", map.getD "replicas" .null), ("status", .str "SCALED")]

def modifyConfigurationTool (simulator : Simulator W) : Tool W where
  name := "modify_configuration"
  run := runOn simulator "modify_configuration" modifyConfigurationParams ("Config modification failed for " ++ ·)
    fun map => [("target_service", map.getD "target_service" .null), ("applied_patch", .ofDict map),
      ("status", .str "CONFIGURED")]

def clearCacheTool (simulator : Simulator W) : Tool W where
  name := "clear_cache"
  run := runOn simulator "clear_cache" clearCacheParams ("Cache clearance failed for " ++ ·)
    fun map => [("target_service", map.getD "target_service" .null),
      ("cache_type", map.getD "cache_type" .null), ("status", .str "PURGED")]

/-- The remediation part of `ToolRegistry._register_default_tools` (registry.py:46). -/
def remediationTools (simulator : Simulator W) : List (Tool W) :=
  [restartServiceTool simulator, rollbackDeploymentTool simulator, scaleReplicasTool simulator,
    modifyConfigurationTool simulator, clearCacheTool simulator]

end

/-! ## The map the simulator gets names the target the tool got -/

/-- `params` hands the target on. -/
def KeepsTarget (params : Dict String Json → Except PyException (Dict String Json)) : Prop :=
  ∀ kwargs map, params kwargs = .ok map → map.get? "target_service" = kwargs.get? "target_service"

theorem keepsTarget_withTarget {cls : String}
    {body : Json → Dict String Json → Except PyException (Dict String Json)}
    (h : ∀ t kwargs map, kwargs.get? "target_service" = none → body t kwargs = .ok map →
      map.get? "target_service" = some t) : KeepsTarget fun kwargs => withTarget cls kwargs body := by
  intro kwargs map hmap
  simp only [withTarget] at hmap
  split at hmap
  · rename_i t ht
    rw [ht]
    exact h t _ map (by simp) hmap
  · cases hmap

/-- Spreading the remaining arguments last does not touch the target: it is none of them. -/
theorem get?_target_spread (t : Json) {extra : List (String × Json)} {kwargs : Dict String Json}
    (he : Dict.look "target_service" extra.reverse = none)
    (hk : kwargs.get? "target_service" = none) :
    ((Dict.ofList (("target_service", t) :: extra)).update kwargs).get? "target_service" =
      some t := by
  rw [Dict.get?_update, hk, Dict.get?_ofList, List.reverse_cons, Dict.look_append, he]
  rfl

theorem keepsTarget_restartService : KeepsTarget restartServiceParams :=
  keepsTarget_withTarget fun t kwargs map hk h => by
    cases h
    exact get?_target_spread t rfl hk

theorem keepsTarget_rollbackDeployment : KeepsTarget rollbackDeploymentParams :=
  keepsTarget_withTarget fun t kwargs map hk h => by
    cases h
    exact get?_target_spread t rfl (by simp [hk])

theorem keepsTarget_scaleReplicas : KeepsTarget scaleReplicasParams :=
  keepsTarget_withTarget fun t kwargs map hk h => by
    split at h <;> cases h
    exact get?_target_spread t rfl (by simp [hk])

theorem keepsTarget_modifyConfiguration : KeepsTarget modifyConfigurationParams :=
  keepsTarget_withTarget fun t kwargs map _ h => by
    dsimp only at h
    split at h <;> cases h
    simp

theorem keepsTarget_clearCache : KeepsTarget clearCacheParams :=
  keepsTarget_withTarget fun t kwargs map hk h => by
    cases h
    exact get?_target_spread t rfl (by simp [hk])

section
variable [Unicode] {simulator simulator' : Simulator W} {kwargs : Dict String Json} {w : W}

theorem runOn_congr {actionType : String} {params : Dict String Json → Except PyException (Dict String Json)}
    {failure : String → String} {result : Dict String Json → List (String × Json)}
    (hp : KeepsTarget params)
    (h : ∀ ty map w, map.get? "target_service" = kwargs.get? "target_service" →
      simulator ty map w = simulator' ty map w) :
    runOn simulator actionType params failure result kwargs w =
      runOn simulator' actionType params failure result kwargs w := by
  unfold runOn
  cases hm : params kwargs with
  | error exc => rfl
  | ok map => simp only [h actionType map w (hp kwargs map hm)]

/-- **The simulator is only asked about the tool's own target**: two simulators that agree on
every map naming it make each remediation tool behave the same. -/
theorem remediationTools_target (h : ∀ ty map w, map.get? "target_service" = kwargs.get? "target_service" →
      simulator ty map w = simulator' ty map w) :
    (remediationTools simulator).map (fun tool => tool.run kwargs w) =
      (remediationTools simulator').map (fun tool => tool.run kwargs w) := by
  simp only [remediationTools, restartServiceTool, rollbackDeploymentTool, scaleReplicasTool,
    modifyConfigurationTool, clearCacheTool, List.map_cons, List.map_nil,
    runOn_congr keepsTarget_restartService h, runOn_congr keepsTarget_rollbackDeployment h,
    runOn_congr keepsTarget_scaleReplicas h, runOn_congr keepsTarget_modifyConfiguration h,
    runOn_congr keepsTarget_clearCache h]

end

end OpsPilot
