import SqlGate.Embedded.Engine
import SqlGate.Proofs.Lookup

namespace SqlGate
namespace Embedded
namespace Engine

/-!
# Connections of an engine

What is done within a connection is stored with that connection only.  It
closes none, opens none, and is nothing at all if the connection is not open.
-/

theorem lookup_store (engine : Engine) (c d : ConnectionId) (connection : Connection)
    (w : Workspace) :
    (engine.store c connection w).connections.lookup d
      = if d = c then (engine.connections.lookup d).map fun _ =>
            { connection with
              session := w.session
              own := if engine.location == .memory then w.kept else connection.own }
        else engine.connections.lookup d := by
  rw [← lookup_edit]
  refine congrArg (List.lookup d) (List.map_congr_left ?_)
  rintro ⟨n, old⟩ -
  by_cases here : n = c
  · subst here
    rfl
  · simp only [if_neg here]

section

variable {α : Type} {engine : Engine} {c : ConnectionId} {connection : Connection}
  {action : Connection -> Workspace -> Except DriverFault α × Connection × Workspace}

theorem within_of_closed (closed : engine.connections.lookup c = none) :
    (within c action engine).2 = engine := by
  rw [within, closed]

theorem within_of_open (found : engine.connections.lookup c = some connection) :
    (within c action engine).2
      = engine.store c (action connection (engine.workspace connection)).2.1
          (action connection (engine.workspace connection)).2.2 := by
  rw [within, found]

end

theorem next_within {α : Type} (c : ConnectionId)
    (action : Connection -> Workspace -> Except DriverFault α × Connection × Workspace)
    (engine : Engine) : (within c action engine).2.next = engine.next := by
  cases found : engine.connections.lookup c with
  | none => rw [within_of_closed found]
  | some connection =>
      rw [within_of_open found]
      rfl

end Engine
end Embedded
end SqlGate
