/-!
Workers: the threads among which a run shares out its scoring.

What a run gives does not depend on how its work is shared out, so of the workers
only their beginning is described: there are as many as the settings say, each with
a name, and the system may refuse to start them.
-/
namespace AntTrail

/-- How so many workers are started, each named by its number. Either all of them run,
or there is a text that says why not. -/
abbrev PoolBuilder := (threads : Nat) → (name : Nat → String) → Except String Unit

/-- Starts any number of workers. Runs are begun with it where no other is named. -/
def PoolBuilder.boundless : PoolBuilder := fun _ _ => .ok ()

/-- The name of a worker. -/
def workerName (index : Nat) : String := s!"ant-gp-worker-{index}"

end AntTrail
