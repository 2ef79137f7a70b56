import Mathlib.Data.List.DropRight
import SpokenCalculator.Proofs.Engine.Memory

namespace SpokenCalculator

namespace Engine

structure Exchange where
  request : Request
  outcome : Except EvaluationFault Decimal

/-- The entry that an exchange adds to the log, if it adds one. -/
def Exchange.stored? : Exchange → Option HistoryEntry
  | ⟨.command command, .ok result⟩ => if isStored command then some ⟨command, result⟩ else none
  | _ => none

def Exchange.isFailure (exchange : Exchange) : Bool :=
  !exchange.outcome.isOk

def Exchange.isRecall (exchange : Exchange) : Bool :=
  match exchange.request with
  | .command .recall => true
  | _ => false

def exchange (engine : Engine) (request : Request) : Exchange :=
  ⟨request, (engine.answer request).map Prod.fst⟩

def exchanges (engine : Engine) : List Request → List Exchange
  | [] => []
  | request :: requests => engine.exchange request :: (engine.advance request).exchanges requests

def successes (engine : Engine) (requests : List Request) : List HistoryEntry :=
  (engine.exchanges requests).filterMap Exchange.stored?

/-- What an engine shows after a log. -/
def ofLog (capacity : Option Nat) (log : List HistoryEntry) : Engine where
  memory := (log.getLast?.map HistoryEntry.result).getD .zero
  echo := log.getLast?.map HistoryEntry.command
  history := lastEntries capacity log
  capacity := capacity

theorem lastEntries_eq_rtake (capacity : Option Nat) (log : List HistoryEntry) :
    lastEntries capacity log = capacity.elim log log.rtake := by
  cases capacity <;> rfl

theorem ofLog_nil (capacity : Option Nat) : ofLog capacity [] = fresh capacity := by
  rw [ofLog, lastEntries_eq_rtake, fresh]
  cases capacity with
  | none => rfl
  | some capacity => rw [Option.elim_some, List.rtake_nil]; rfl

/-- What has left the history does not come back. -/
theorem lastEntries_append_lastEntries (capacity : Option Nat) (log : List HistoryEntry)
    (entry : HistoryEntry) :
    lastEntries capacity (lastEntries capacity log ++ [entry]) =
      lastEntries capacity (log ++ [entry]) := by
  rw [lastEntries_eq_rtake, lastEntries_eq_rtake, lastEntries_eq_rtake]
  cases capacity with
  | none => rfl
  | some capacity =>
      cases capacity with
      | zero =>
          rw [Option.elim_some, Option.elim_some, Option.elim_some, List.rtake_zero,
            List.rtake_zero]
      | succ capacity =>
          have hshort : (log.rtake (capacity + 1)).rtake capacity = log.rtake capacity := by
            rw [List.rtake_eq_reverse_take_reverse, List.rtake_eq_reverse_take_reverse,
              List.rtake_eq_reverse_take_reverse, List.reverse_reverse, List.take_take,
              Nat.min_eq_left (Nat.le_succ capacity)]
          rw [Option.elim_some, Option.elim_some, Option.elim_some, List.rtake_concat_succ,
            List.rtake_concat_succ, hshort]

theorem store_ofLog (capacity : Option Nat) (log : List HistoryEntry) (command : Command)
    (result : Decimal) :
    (ofLog capacity log).store command result = ofLog capacity (log ++ [⟨command, result⟩]) := by
  rw [ofLog, ofLog, store, List.getLast?_concat, lastEntries_append_lastEntries]
  rfl

/-- A request either leaves the engine and adds nothing, or it stores the entry
that it adds. -/
theorem advance_cases (engine : Engine) (request : Request) :
    (engine.advance request = engine ∧ (engine.exchange request).stored? = none ∧
      ((engine.exchange request).isFailure || (engine.exchange request).isRecall) = true) ∨
    ∃ command result, engine.advance request = engine.store command result ∧
      (engine.exchange request).stored? = some ⟨command, result⟩ ∧
      ((engine.exchange request).isFailure || (engine.exchange request).isRecall) = false := by
  cases request with
  | foreign text => exact Or.inl ⟨rfl, rfl, rfl⟩
  | command command =>
      cases hresult : result engine.memory command with
      | error fault =>
          have hanswer : engine.answer (.command command) = .error (.calculation fault) := by
            rw [answer, evaluate, hresult]
            rfl
          rw [exchange, advance, hanswer]
          exact Or.inl ⟨rfl, rfl, rfl⟩
      | ok value =>
          have hanswer : engine.answer (.command command) =
              .ok (value, if isStored command then engine.store command value else engine) := by
            rw [answer, evaluate, hresult]
            rfl
          rw [exchange, advance, hanswer]
          cases command with
          | compute lhs operator rhs => exact Or.inr ⟨_, value, rfl, rfl, rfl⟩
          | apply operator rhs => exact Or.inr ⟨_, value, rfl, rfl, rfl⟩
          | clear => exact Or.inr ⟨_, value, rfl, rfl, rfl⟩
          | «recall» => exact Or.inl ⟨rfl, rfl, rfl⟩
          | unrecognized heard => cases hresult

theorem advance_ofLog (capacity : Option Nat) (log : List HistoryEntry) (request : Request) :
    (ofLog capacity log).advance request =
      ofLog capacity (log ++ ((ofLog capacity log).exchange request).stored?.toList) := by
  rcases (ofLog capacity log).advance_cases request with
    ⟨hstays, hnothing, _⟩ | ⟨command, result, hstores, hentry, _⟩
  · rw [hstays, hnothing, Option.toList_none, List.append_nil]
  · rw [hstores, hentry, store_ofLog, Option.toList_some]

theorem successes_cons (engine : Engine) (request : Request) (requests : List Request) :
    engine.successes (request :: requests) =
      (engine.exchange request).stored?.toList ++ (engine.advance request).successes requests := by
  rw [successes, successes, exchanges, List.filterMap_cons]
  cases (engine.exchange request).stored? <;> rfl

theorem foldl_advance_ofLog (capacity : Option Nat) (log : List HistoryEntry)
    (requests : List Request) :
    requests.foldl advance (ofLog capacity log) =
      ofLog capacity (log ++ (ofLog capacity log).successes requests) := by
  induction requests generalizing log with
  | nil => rw [successes, exchanges, List.filterMap_nil, List.append_nil, List.foldl_nil]
  | cons request requests ih =>
      rw [List.foldl_cons, successes_cons, advance_ofLog, ih, List.append_assoc]

/-- The exchanges of a run that are neither failures nor recalls. -/
def remaining (engine : Engine) (requests : List Request) : List Exchange :=
  (engine.exchanges requests).filter fun exchange => !(exchange.isFailure || exchange.isRecall)

theorem remaining_cons (engine : Engine) (request : Request) (requests : List Request) :
    (engine.advance request = engine ∧
      engine.remaining (request :: requests) = engine.remaining requests) ∨
    engine.remaining (request :: requests) =
      engine.exchange request :: (engine.advance request).remaining requests := by
  rcases engine.advance_cases request with ⟨hstays, _, hidle⟩ | ⟨_, _, _, _, hstored⟩
  · refine Or.inl ⟨hstays, ?_⟩
    rw [remaining, exchanges, hstays, List.filter_cons_of_neg (by rw [hidle]; decide)]
    rfl
  · refine Or.inr ?_
    rw [remaining, exchanges, List.filter_cons_of_pos (by rw [hstored]; rfl)]
    rfl

/-- A run without its recalls and failures ends in the same state, and each
request in it is answered as before. -/
theorem exchanges_remaining (engine : Engine) (requests : List Request) :
    let kept := (engine.remaining requests).map Exchange.request
    engine.exchanges kept = engine.remaining requests ∧
      kept.foldl advance engine = requests.foldl advance engine := by
  induction requests generalizing engine with
  | nil => exact ⟨rfl, rfl⟩
  | cons request requests ih =>
      rcases engine.remaining_cons request requests with ⟨hstays, hskips⟩ | hkeeps
      · rw [hskips, List.foldl_cons, hstays]
        exact ih engine
      · obtain ⟨hexchanges, hstate⟩ := ih (engine.advance request)
        rw [hkeeps]
        refine ⟨?_, hstate⟩
        exact congrArg (engine.exchange request :: ·) hexchanges

/-- A failure or a recall leaves the whole engine. -/
theorem advance_eq_self {engine : Engine} {request : Request}
    (hidle : (∃ fault, engine.answer request = .error fault) ∨ request = .command .recall) :
    engine.advance request = engine := by
  rcases hidle with ⟨fault, hfault⟩ | rfl
  · rw [advance, hfault]
  · rfl

/-- Whatever a fresh engine is asked, its history is the end of the log of its
successes, memory is the last result in this log and the echo the last command.
Failures and recalls leave all three, and without them the run has the same
final state and the same results. -/
theorem run_is_log_of_successes (capacity : Option Nat) (requests : List Request) :
    let engine := requests.foldl advance (fresh capacity)
    let log := (fresh capacity).successes requests
    let remaining := (fresh capacity).remaining requests
    engine.history = capacity.elim log log.rtake ∧
      engine.memory = (log.getLast?.map HistoryEntry.result).getD .zero ∧
      engine.echo = log.getLast?.map HistoryEntry.command ∧
      (∀ request, (∃ fault, engine.answer request = .error fault) ∨ request = .command .recall →
        engine.advance request = engine) ∧
      (fresh capacity).exchanges (remaining.map Exchange.request) = remaining ∧
      (remaining.map Exchange.request).foldl advance (fresh capacity) = engine := by
  intro engine log remaining
  have hengine : engine = ofLog capacity log := by
    have hrun := foldl_advance_ofLog capacity [] requests
    rwa [ofLog_nil] at hrun
  obtain ⟨hsame, hstate⟩ := (fresh capacity).exchanges_remaining requests
  refine ⟨?_, ?_, ?_, fun request => advance_eq_self, hsame, hstate⟩
  · rw [hengine, ← lastEntries_eq_rtake]
    rfl
  · rw [hengine]
    rfl
  · rw [hengine]
    rfl

/-- Of five requests two are logged, and a history of one entry holds the later.
The division by zero fails again at the end. -/
theorem run_is_log_of_two_successes :
    let division : Request := .command (.apply .divide .zero)
    let requests : List Request :=
      [.command (.compute (.ofNat 2) .add (.ofNat 3)), .command .recall, division,
        .foreign "help", .command (.apply .multiply (.ofNat 4))]
    let engine := requests.foldl advance (fresh (some 1))
    let log := (fresh (some 1)).successes requests
    log = [⟨.compute (.ofNat 2) .add (.ofNat 3), .ofNat 5⟩,
        ⟨.apply .multiply (.ofNat 4), .ofNat 20⟩] ∧
      engine.history = log.rtake 1 ∧ engine.memory = .ofNat 20 ∧
      (∃ fault, engine.answer division = .error fault) ∧ engine.advance division = engine := by
  intro division requests engine log
  have hlog : log = [⟨.compute (.ofNat 2) .add (.ofNat 3), .ofNat 5⟩,
      ⟨.apply .multiply (.ofNat 4), .ofNat 20⟩] := by decide +kernel
  have hfails : ∃ fault, engine.answer division = .error fault := by
    have hfailure : (engine.exchange division).isFailure = true := by decide +kernel
    cases hanswer : engine.answer division with
    | error fault => exact ⟨fault, rfl⟩
    | ok outcome =>
        rw [Exchange.isFailure, exchange, hanswer] at hfailure
        cases hfailure
  obtain ⟨hhistory, hmemory, _, hidle, _⟩ := run_is_log_of_successes (some 1) requests
  refine ⟨hlog, hhistory, ?_, hfails, hidle division (Or.inl hfails)⟩
  rw [hmemory]
  exact congrArg (fun log : List HistoryEntry =>
    (log.getLast?.map HistoryEntry.result).getD .zero) hlog

end Engine

end SpokenCalculator
