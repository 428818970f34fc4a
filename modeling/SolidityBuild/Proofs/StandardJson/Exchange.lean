import Mathlib.Data.List.Basic
import SolidityBuild.StandardJson

/-! # Exchanges with the compiler and the solver

A compiler and a solver may do anything to the world. What a run itself does is
to hand them texts and to write to the log; it is described by the exchanges that
lead from one world to the next.
-/

namespace SolidityBuild

/-- A text that was handed over, and what came back. -/
inductive Exchange where
  | compiled (request : Text) (result : Except Failure Text)
  | solved (query : Json) (result : Except Failure Text)

/-- A query with its key and its answer. -/
structure Answered where
  key : Text
  query : Json
  answer : Text

namespace Answered

def asked (answered : Answered) : Text × Json :=
  (answered.key, answered.query)

def response (answered : Answered) : Text × Json :=
  (answered.key, .str answered.answer)

def exchange (answered : Answered) : Exchange :=
  .solved answered.query (.ok answered.answer)

end Answered

/-- These exchanges lead from one world to the other, with nothing but messages
    of the log between them. -/
inductive Performs (compile : Text → Action Text) (solve : Smt.SolveFunction) (host : Host) :
    World → List Exchange → World → Prop where
  | nothing (world) : Performs compile solve host world [] world
  | logged {world exchanges last} (level : Level) (topic text : Text)
      (rest : Performs compile solve host (Action.log level topic text host world).2
        exchanges last) :
      Performs compile solve host world exchanges last
  | compiled {world middle exchanges last request result}
      (ran : compile request host world = (result, middle))
      (rest : Performs compile solve host middle exchanges last) :
      Performs compile solve host world (.compiled request result :: exchanges) last
  | solved {world middle exchanges last query result}
      (ran : solve query host world = (result, middle))
      (rest : Performs compile solve host middle exchanges last) :
      Performs compile solve host world (.solved query result :: exchanges) last

section

variable {compile : Text → Action Text} {solve : Smt.SolveFunction} {host : Host}

theorem Performs.append {first second third : World} {before after : List Exchange}
    (head : Performs compile solve host first before second)
    (tail : Performs compile solve host second after third) :
    Performs compile solve host first (before ++ after) third := by
  induction head with
  | nothing => exact tail
  | logged level topic text _ ih => exact .logged level topic text (ih tail)
  | compiled ran _ ih => exact .compiled ran (ih tail)
  | solved ran _ ih => exact .solved ran (ih tail)

theorem Performs.solved_ran {world last : World} {exchanges : List Exchange} {query : Json}
    {result : Except Failure Text} (performs : Performs compile solve host world exchanges last)
    (member : .solved query result ∈ exchanges) :
    ∃ before after, solve query host before = (result, after) := by
  induction performs with
  | nothing => cases member
  | logged _ _ _ _ ih => exact ih member
  | compiled _ _ ih => exact ih ((List.mem_cons.mp member).resolve_left nofun)
  | solved ran _ ih =>
    rcases List.mem_cons.mp member with same | member
    · cases same
      exact ⟨_, _, ran⟩
    · exact ih member

theorem Performs.compiled_ran {world last : World} {exchanges : List Exchange} {request : Text}
    {result : Except Failure Text} (performs : Performs compile solve host world exchanges last)
    (member : .compiled request result ∈ exchanges) :
    ∃ before after, compile request host before = (result, after) := by
  induction performs with
  | nothing => cases member
  | logged _ _ _ _ ih => exact ih member
  | compiled ran _ ih =>
    rcases List.mem_cons.mp member with same | member
    · cases same
      exact ⟨_, _, ran⟩
    · exact ih member
  | solved _ _ ih => exact ih ((List.mem_cons.mp member).resolve_left nofun)

/-- The world keeps an account of what is handed to the compiler and the solver. -/
structure Accounts (compile : Text → Action Text) (solve : Smt.SolveFunction) (host : Host)
    (account : World → List Exchange) : Prop where
  logs : ∀ level topic text world,
    account (Action.log level topic text host world).2 = account world
  compiles : ∀ request world, account (compile request host world).2 =
    account world ++ [.compiled request (compile request host world).1]
  solves : ∀ query world, account (solve query host world).2 =
    account world ++ [.solved query (solve query host world).1]

/-- Any account shows exactly the exchanges that lead from one world to the other,
    so there is no other list of exchanges that does. -/
theorem Performs.recorded {world last : World} {exchanges : List Exchange}
    (performs : Performs compile solve host world exchanges last)
    {account : World → List Exchange} (accounts : Accounts compile solve host account) :
    account last = account world ++ exchanges := by
  induction performs with
  | nothing => simp
  | logged level topic text _ ih => rw [ih, accounts.logs]
  | @compiled world middle exchanges last request result ran _ ih =>
    have noted := accounts.compiles request world
    rw [ran] at noted
    rw [ih, noted, List.append_assoc]
    rfl
  | @solved world middle exchanges last query result ran _ ih =>
    have noted := accounts.solves query world
    rw [ran] at noted
    rw [ih, noted, List.append_assoc]
    rfl

variable (compile solve host) in
/-- Queries are put to the solver in order, up to the first that it fails on. -/
theorem Smt.answerAll_performs (queries : Members) (world : World) :
    (∃ (answered : List Answered) (last : World), queries = answered.map Answered.asked ∧
      answerAll solve queries host world = (.ok (answered.map Answered.response), last) ∧
      Performs compile solve host world (answered.map Answered.exchange) last) ∨
    (∃ (answered : List Answered) (key : Text) (query : Json) (rest : Members)
        (failure : Failure) (last : World),
      queries = answered.map Answered.asked ++ (key, query) :: rest ∧
      answerAll solve queries host world = (.error failure, last) ∧
      Performs compile solve host world
        (answered.map Answered.exchange ++ [.solved query (.error failure)]) last) := by
  induction queries generalizing world with
  | nil => exact .inl ⟨[], world, rfl, rfl, .nothing world⟩
  | cons first queries ih =>
    obtain ⟨key, query⟩ := first
    rcases ran : solve query host world with ⟨failure | answer, middle⟩
    · refine .inr ⟨[], key, query, queries, failure, middle, rfl, ?_, .solved ran (.nothing _)⟩
      rw [answerAll, Action.bind_run_error ran]
    · rcases ih middle with ⟨answered, last, rfl, all, performs⟩ |
        ⟨answered, key', query', rest, failure, last, rfl, all, performs⟩
      · refine .inl ⟨⟨key, query, answer⟩ :: answered, last, rfl, ?_, .solved ran performs⟩
        rw [answerAll, Action.bind_run_ok ran, Action.bind_run_ok all]
        rfl
      · refine .inr ⟨⟨key, query, answer⟩ :: answered, key', query', rest, failure, last, rfl, ?_,
          .solved ran performs⟩
        rw [answerAll, Action.bind_run_ok ran, Action.bind_run_error all]

end

end SolidityBuild
