import LintRemedy.RunRecord

/-!
This module contains the registry of the runs that the service has started. Running ones stay there,
and of the finished ones only the newest are kept.
-/

namespace LintRemedy

/-- The runs of the service by their ids, in the order in which they were started. -/
abbrev Registry := List (String × RunRecord)

namespace Registry

def isFinished (run : String × RunRecord) : Bool :=
  run.2.status ≠ .running

def find? (id : String) (runs : Registry) : Option RunRecord :=
  (List.find? (·.1 = id) runs).map (·.2)

def ids (runs : Registry) : List String :=
  runs.map (·.1)

/-- The runs without a number of finished ones, the oldest first. -/
def dropFinished : Nat → Registry → Registry
  | 0, runs => runs
  | _ + 1, [] => []
  | n + 1, run :: runs =>
    if isFinished run then dropFinished n runs else run :: dropFinished (n + 1) runs

/-- The runs with no more finished ones than the limit says. -/
def evict (limit : Int) (runs : Registry) : Registry :=
  runs.dropFinished ((runs.countP isFinished : Int) - limit).toNat

/-- The runs with the report of a run, which is a new one if its id is new. -/
def put (id : String) (report : RunRecord) : Registry → Registry
  | [] => [(id, report)]
  | run :: runs => if run.1 = id then (id, report) :: runs else run :: put id report runs

/-- The runs after the start of a new one, for which room is made first. -/
def start (limit : Int) (id : String) (runs : Registry) : Registry :=
  (runs.evict limit).put id {}

/-- The runs with the final report of one of them. -/
def complete (id : String) (report : RunRecord) (runs : Registry) : Registry :=
  runs.map fun run => if run.1 = id then (id, report) else run

/-- No run that goes on is dropped. -/
theorem mem_dropFinished_of_running {run : String × RunRecord} {runs : Registry} (n : Nat)
    (hmem : run ∈ runs) (hrun : isFinished run = false) : run ∈ runs.dropFinished n := by
  induction runs generalizing n with
  | nil => cases hmem
  | cons other runs ih =>
    cases n with
    | zero => simpa [dropFinished] using hmem
    | succ n =>
      unfold dropFinished
      rcases List.mem_cons.1 hmem with rfl | hmem
      · simp [hrun]
      · split
        · exact ih n hmem
        · exact List.mem_cons_of_mem _ (ih (n + 1) hmem)

end Registry
end LintRemedy
