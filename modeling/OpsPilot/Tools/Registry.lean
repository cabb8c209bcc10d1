import OpsPilot.Domain.State
/-!
# The tool registry (`src/tools/registry.py`, `src/tools/base.py`)

A tool acts on a world `W` (the simulator, or whatever its `_run` touches): `run` is
`_run(**kwargs)`, which returns or raises. `ToolRegistry.invoke` also reports the call it
made, that is, whether the body of `execute` was entered, with which arguments and how the
tool ended; the source keeps no such record.

Left out: `list_tools`; the sanitized arguments, which only go to the log (`Tools/Redaction.lean`); and the
`RecursionError` of arguments nested beyond the recursion limit of the interpreter, which sanitizing them raises
before the tool is called.
-/
namespace OpsPilot

/-- The clock readings of one step of the program, numbered in the order they are taken. -/
structure Clock where
  now : Nat → Time
  elapsed : Nat → PyFloat

inductive ToolStatus where
  | success | failed | permissionDenied
deriving DecidableEq

/-- base.py:16 -/
structure ToolResult where
  toolName : String
  status : ToolStatus
  data : Json := .null
  errorMessage : Option String := none
  durationMs : PyFloat := .zero
  timestamp : Time

/-- base.py:27 -/
structure Tool (W : Type) where
  name : String
  requiredRole : String := "OPERATOR"
  run : Dict String Json → W → Except PyException Json × W

/-- A call of a tool that was made. -/
structure ToolCall where
  toolName : String
  arguments : Dict String Json
  status : ToolStatus

variable {W : Type}

/-- base.py:39 -/
def Tool.execute (tool : Tool W) (kwargs : Dict String Json) (clock : Clock) (w : W) :
    ToolResult × W :=
  match tool.run kwargs w with
  | (.ok outputData, w) =>
    ({ toolName := tool.name, status := .success, data := outputData, durationMs := clock.elapsed 0,
       timestamp := clock.now 0 }, w)
  | (.error exc, w) =>
    ({ toolName := tool.name, status := .failed, errorMessage := some exc.message,
       durationMs := clock.elapsed 0, timestamp := clock.now 0 }, w)

/-- A tool succeeds when its `_run` returns. -/
theorem Tool.execute_success_iff (tool : Tool W) (kwargs : Dict String Json) (clock : Clock) (w : W) :
    (tool.execute kwargs clock w).1.status = .success ↔
      ∃ data, (tool.run kwargs w).1 = .ok data := by
  unfold Tool.execute
  split <;> rename_i h <;> simp [h]

/-- registry.py:22 -/
def roleHierarchy : Dict String Nat := Dict.ofList [("VIEWER", 1), ("OPERATOR", 2), ("ADMIN", 3)]

structure ToolRegistry (W : Type) where
  tools : Dict String (Tool W) := Dict.empty

namespace ToolRegistry

/-- registry.py:52 -/
def register (reg : ToolRegistry W) (tool : Tool W) : ToolRegistry W :=
  ⟨reg.tools.set tool.name tool⟩

/-- registry.py:55 -/
def getTool (reg : ToolRegistry W) (name : String) : Option (Tool W) := reg.tools.get? name

@[simp] theorem getTool_register (reg : ToolRegistry W) (tool : Tool W) (name : String) :
    (reg.register tool).getTool name =
      if tool.name = name then some tool else reg.getTool name := by
  simp [register, getTool]

/-- What an invocation leaves behind. -/
structure Invoked (W : Type) where
  result : Except PyException ToolResult
  world : W
  call : Option ToolCall := none

section
variable [Unicode]

/-- registry.py:94, the other way round -/
def authorized (tool : Tool W) (callerRole : String) : Bool :=
  let callerWeight := roleHierarchy.getD (Py.upper callerRole) 0
  let requiredWeight := roleHierarchy.getD (Py.upper tool.requiredRole) 99
  !(callerWeight < requiredWeight : Bool)

/-- registry.py:73. `execute` takes its arguments as keywords, so an argument called `self`
raises before its body. -/
def invoke (reg : ToolRegistry W) (toolName : String) (arguments : Dict String Json)
    (callerRole : String) (clock : Clock) (w : W) : Invoked W :=
  match reg.getTool toolName with
  | none =>
    { world := w, result := .ok
        { toolName, status := .failed, timestamp := clock.now 0,
          errorMessage := some ("Tool [" ++ toolName ++ "] is not registered in ToolRegistry") } }
  | some tool =>
    if !authorized tool callerRole then
      { world := w, result := .ok
          { toolName, status := .permissionDenied, timestamp := clock.now 0,
            errorMessage := some ("Access Denied: Tool [" ++ toolName ++ "] requires role [" ++
              tool.requiredRole ++ "], but caller has [" ++ callerRole ++ "]") } }
    else if arguments.contains "self" then
      { world := w,
        result := .error (.typeError "BaseTool.execute() got multiple values for argument 'self'") }
    else
      let (result, w) := tool.execute arguments clock w
      { world := w, result := .ok result, call := some { toolName, arguments, status := result.status } }

theorem invoke_of_authorized {reg : ToolRegistry W} {toolName : String} {tool : Tool W}
    (arguments : Dict String Json) {callerRole : String} (clock : Clock) (w : W)
    (ht : reg.getTool toolName = some tool) (ha : authorized tool callerRole = true)
    (hs : arguments.contains "self" = false) :
    reg.invoke toolName arguments callerRole clock w =
      { world := (tool.execute arguments clock w).2, result := .ok (tool.execute arguments clock w).1,
        call := some { toolName, arguments, status := (tool.execute arguments clock w).1.status } } := by
  simp [invoke, ht, ha, hs]

theorem invoke_of_denied {reg : ToolRegistry W} {toolName : String} {tool : Tool W}
    (arguments : Dict String Json) {callerRole : String} (clock : Clock) (w : W)
    (ht : reg.getTool toolName = some tool) (ha : authorized tool callerRole = false) :
    ∃ res, reg.invoke toolName arguments callerRole clock w = { world := w, result := .ok res } ∧
      res.status = .permissionDenied := by
  simp [invoke, ht, ha]

theorem invoke_of_self {reg : ToolRegistry W} {toolName : String} {tool : Tool W}
    (arguments : Dict String Json) {callerRole : String} (clock : Clock) (w : W)
    (ht : reg.getTool toolName = some tool) (ha : authorized tool callerRole = true)
    (hs : arguments.contains "self" = true) :
    ∃ exc, reg.invoke toolName arguments callerRole clock w =
      { world := w, result := .error exc } := by
  simp [invoke, ht, ha, hs]

end

end ToolRegistry

end OpsPilot
