import Mathlib.Data.List.Basic
import SolidityBuild.Proofs.Compiler.Orderly

/-! # Solving one query

Which solver is run, and what a query leaves behind. The file of a query is made before the
query is looked at, so one that is no text, or has no UTF-8 form, has a file that nobody removes.
-/

namespace SolidityBuild

/-- The name under which a program is looked up. -/
def Host.programName (host : Host) (name : Text) : Text :=
  if host.windows && !name.endsWith ".exe" then name ++ ".exe" else name

def Host.offers (host : Host) (name : Text) : Bool :=
  host.installed.contains (host.programName name)

namespace Solver

variable (host : Host) (world : World)

/-- The given solver, or else the first known one that is installed. -/
def pick : Option Solver → Option Solver
  | some solver => some solver
  | none => known.find? (host.offers ·.command)

theorem installedAmong_run (solvers : List Solver) :
    installedAmong solvers host world = (.ok (solvers.filter (host.offers ·.command)),
      { world with probes := world.probes ++ solvers.map (host.programName ·.command) }) := by
  induction solvers generalizing world with
  | nil => simp [installedAmong]
  | cons solver rest ih =>
    have looked : Action.findProgram solver.command host world = (.ok (host.offers solver.command),
        { world with probes := world.probes ++ [host.programName solver.command] }) := rfl
    rw [installedAmong, Action.bind_run_ok looked, Action.bind_run_ok (ih _)]
    cases offered : host.offers solver.command <;> simp [offered]

/-- Without a given solver all the known ones are looked up, in their order. -/
theorem select_run (solver : Option Solver) :
    select solver host world =
      (match pick host solver with
        | some chosen => .ok chosen
        | none => .error (.solver .noSolver),
      match solver with
        | some _ => world
        | none => { world with
            probes := world.probes ++ known.map (host.programName ·.command) }) := by
  cases solver with
  | some solver => rfl
  | none =>
    rw [select, available, Action.bind_run_ok (installedAmong_run host world known), pick,
      ← List.head?_filter]
    cases known.filter (host.offers ·.command) <;> rfl

theorem select_ok_iff {solver : Option Solver} {chosen : Solver} :
    (select solver host world).1 = .ok chosen ↔ pick host solver = some chosen := by
  rw [select_run]
  cases pick host solver <;> simp

theorem select_temporaries (solver : Option Solver) :
    (select solver host world).2.temporaries = world.temporaries := by
  rw [select_run]
  cases solver <;> rfl

theorem consult_temporaries (solver : Solver) (text : Text) :
    (solver.consult host text host world).2.temporaries = world.temporaries := by
  rw [consult]
  refine Action.view_bind (fun _ _ => rfl) (fun host world _ middle _ => ?_) host world
  refine Action.view_bind (fun _ _ => rfl) (fun host world outcome middle _ => ?_) host middle
  refine Action.view_bind (fun _ _ => rfl) (fun host world output middle _ => ?_) host middle
  exact Action.view_bind (fun _ _ => rfl) (fun _ _ _ _ _ => rfl) host middle

/-- There is a solver, and the query cannot be written to its file. -/
def Spills (solver : Option Solver) (query : Json) : Prop :=
  (pick host solver).isSome ∧ ¬ Writable query

variable {host} {solver : Option Solver} {query : Json}

theorem solve_spills (spills : Spills host solver query) :
    ∃ failure last, solve query solver host world = (.error failure, last) ∧
      last.temporaries = world.temporaries + 1 := by
  obtain ⟨given, unwritable⟩ := spills
  obtain ⟨failure, -, fails⟩ := solve_unwritable unwritable
  obtain ⟨chosen, picked⟩ := Option.isSome_iff_exists.mp given
  have told := (select_ok_iff host world).mpr picked
  have kept := select_temporaries host world solver
  rcases selected : select solver host world with ⟨result, middle⟩
  rw [selected] at told kept
  obtain rfl : result = .ok chosen := told
  rw [fails, Action.bind_run_ok selected]
  exact ⟨failure, _, rfl, congrArg (· + 1) kept⟩

theorem solve_clean (clean : ¬ Spills host solver query) :
    (solve query solver host world).2.temporaries = world.temporaries := by
  have kept := select_temporaries host world solver
  rcases selected : select solver host world with ⟨failure | chosen, middle⟩
  all_goals rw [selected] at kept
  · rw [solve, Action.bind_run_error selected]
    exact kept
  · have picked := (select_ok_iff host world).mp (congrArg Prod.fst selected)
    obtain ⟨text, whole, rfl⟩ : Writable query :=
      not_not.mp fun unwritable => clean ⟨by simp [picked], unwritable⟩
    rw [solve_text whole, Action.bind_run_ok selected]
    exact (consult_temporaries host middle chosen text).trans kept

end Solver

end SolidityBuild
