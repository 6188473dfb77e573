import Telemetry.Agent.Collector

/-!
# Metrics of the host

What a host tells about itself at a poll, and the two collectors that report
it.  A reading that is not available is left out.
-/

namespace Telemetry
namespace Agent

/-- What a host tells about the process of the agent. -/
structure ProcessReading where
  /-- The resident memory in bytes. -/
  residentMemory : Nat
  /-- The virtual memory in bytes. -/
  virtualMemory : Nat
  /-- The use of processors in percent. -/
  processorUse : Binary64
  /-- The time since the start in seconds. -/
  runTime : Nat

/-- What a host tells about itself. -/
structure HostReading where
  /-- The process of the agent. -/
  process : Option ProcessReading := none
  /-- The memory in bytes. -/
  totalMemory : Nat := 0
  /-- The unused memory in bytes. -/
  freeMemory : Nat := 0
  /-- The use of each processor in percent. -/
  processorUses : List Binary64 := []

/-- The number of values that a draw may have. -/
def drawCount : Nat := 1 <<< 53

/-- A draw as a fraction of one hundred. -/
def randomValue (draw : Fin drawCount) : Binary64 :=
  .ofMagnitude false (Binary64.roundRatio (draw.val * 100) drawCount)

namespace ProcessReading

/-- The gauges of the process of the agent. -/
def updates (reading : ProcessReading) : List Update :=
  [.gauge "ProcessResidentMemory" (.ofNat reading.residentMemory),
    .gauge "ProcessVirtualMemory" (.ofNat reading.virtualMemory),
    .gauge "ProcessCPUUsage" reading.processorUse,
    .gauge "ProcessRunTime" (.ofNat reading.runTime)]

end ProcessReading

namespace HostReading

/-- The gauges of the memory; none when the host does not tell how much it has. -/
def memoryUpdates (reading : HostReading) : List Update :=
  if reading.totalMemory = 0 then []
  else
    [.gauge "TotalMemory" (.ofNat reading.totalMemory),
      .gauge "FreeMemory" (.ofNat reading.freeMemory)]

/-- The name of the gauge of a processor; processors are numbered from one. -/
def processorName (index : Nat) : String :=
  "CPUutilization" ++ toString (index + 1)

/-- The gauges of the processors. -/
def processorUpdates (reading : HostReading) : List Update :=
  reading.processorUses.mapIdx fun index use => .gauge (processorName index) use

end HostReading

namespace Collector

/-- The collector for the process of the agent; it counts its polls and shows a random value. -/
def runtime (interval : Nat) (host : Nat -> HostReading) (draw : Nat -> Fin drawCount) :
    Collector where
  name := "runtime"
  interval
  poll := fun number =>
    ((host number).process.map ProcessReading.updates).getD []
      ++ [.counter "PollCount" 1, .gauge "RandomValue" (randomValue (draw number))]

/-- The collector for the host as a whole. -/
def system (interval : Nat) (host : Nat -> HostReading) : Collector where
  name := "system"
  interval
  poll := fun number => (host number).memoryUpdates ++ (host number).processorUpdates

end Collector
end Agent
end Telemetry
