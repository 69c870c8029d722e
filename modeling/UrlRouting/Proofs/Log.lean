import Mathlib.Data.List.Basic
import UrlRouting.Log

/-!
# Loggers and their handlers

A message is written once for each handler that it reaches, so what keeps it from being written twice
is that handlers are added once only.  `Loggers.Orderly` says so: a logger that has been configured has
just one handler, however often that was, and its records go nowhere else.  The main statements are
`Loggers.Orderly.configure`, which keeps loggers orderly, and `Loggers.IsLoud.record_eq` with
`Loggers.Orderly.record_eq_nil`: orderly loggers write a single line, or nothing.
-/

namespace UrlRouting

/-! ## A single logger -/

namespace Logger

/-- A logger that has been configured: the standard output is the only place that its records go
to. -/
structure Settled (logger : Logger) : Prop where
  handlers_eq : logger.handlers = [.output]
  propagates_eq : logger.propagates = false

/-- A logger whose only handler, if it has one, writes to the standard output is configured: a handler
is added only if there is none. -/
theorem configure_eq {logger : Logger} (h : logger.handlers = [] ∨ logger.handlers = [.output])
    (level : LogLevel) : logger.configure level = ⟨some level, [.output], false⟩ := by
  rcases h with h | h <;> simp [configure, hasOutputHandler, h]

end Logger

namespace Loggers

variable {loggers : Loggers} {name message : Text}

/-! ## Records -/

/-- A debugging message that is taken is written once for each handler that writes to the standard
output. -/
theorem record_eq_flatten (h : loggers.takesDebug name = true) :
    loggers.record name message =
      (List.replicate ((loggers.handlersOf name).count .output) (line name message)).flatten := by
  have houtput : (loggers.handlersOf name).filter (· = .output) =
      List.replicate ((loggers.handlersOf name).count .output) .output := List.filter_eq ..
  rw [record, if_pos h, houtput, List.flatMap_replicate]

/-- A logger is loud if it takes debugging messages and just one of the handlers that they reach
writes to the standard output. -/
structure IsLoud (loggers : Loggers) (name : Text) : Prop where
  takesDebug_eq : loggers.takesDebug name = true
  count_eq : (loggers.handlersOf name).count .output = 1

/-- A loud logger writes a message as a single line. -/
theorem IsLoud.record_eq (h : loggers.IsLoud name) (message : Text) :
    loggers.record name message = line name message := by
  rw [record_eq_flatten h.takesDebug_eq, h.count_eq]
  simp

/-- A logger that has not been configured takes no debugging messages, unless the root logger has
been. -/
theorem takesDebug_of_unset (hroot : Bindings.get? loggers rootName = none)
    (hname : Bindings.get? loggers (canonicalName name) = none) : loggers.takesDebug name = false := by
  have hrootLogger : loggers.logger rootName = .root := by
    have hcanonical : canonicalName rootName = rootName := by decide
    rw [logger, hcanonical, hroot, Option.getD_none, if_pos rfl]
  rw [takesDebug, hrootLogger, logger, hname, Option.getD_none]
  split <;> rfl

/-- A logger has no handlers until it is configured. -/
theorem handlers_logger_of_unset (h : Bindings.get? loggers (canonicalName name) = none) :
    (loggers.logger name).handlers = [] := by
  rw [logger, h, Option.getD_none]
  split <;> rfl

/-- A configured logger is loud if it takes everything. -/
theorem isLoud_iff_of_configured {level : LogLevel}
    (h : Bindings.get? loggers (canonicalName name) = some ⟨some level, [.output], false⟩) :
    loggers.IsLoud name ↔ level = .debug := by
  have hlogger : loggers.logger name = ⟨some level, [.output], false⟩ := by
    rw [logger, h, Option.getD_some]
  have htakes : loggers.takesDebug name = decide (level = .debug) := by
    rw [takesDebug, hlogger]
    rfl
  have hhandlers : loggers.handlersOf name = [.output] := by
    rw [handlersOf, hlogger]
    exact if_neg fun hpropagates => Bool.false_ne_true hpropagates.1
  constructor
  · intro hloud
    have hdebug := hloud.takesDebug_eq
    rw [htakes] at hdebug
    exact of_decide_eq_true hdebug
  · intro hdebug
    exact ⟨htakes.trans (decide_eq_true hdebug), by rw [hhandlers]; rfl⟩

/-! ## Handlers that are added once -/

/-- Every logger that has been configured has one handler, for the standard output, and is cut off
from the root logger. -/
def Orderly (loggers : Loggers) : Prop :=
  ∀ name logger, Bindings.get? loggers name = some logger → logger.Settled

theorem orderly_empty : Orderly .empty := fun _ _ h => by cases h

namespace Orderly

/-- An orderly logger has been configured, or it is as it was made. -/
theorem logger_cases (h : loggers.Orderly) (name : Text) :
    (loggers.logger name).Settled ∨ (loggers.logger name).handlers = [] := by
  cases hlogger : Bindings.get? loggers (canonicalName name) with
  | some logger =>
    left
    rw [Loggers.logger, hlogger]
    exact h _ _ hlogger
  | none => exact .inr (handlers_logger_of_unset hlogger)

/-- Configuring a logger settles it, whether it had been configured before or not. -/
theorem configure_logger (h : loggers.Orderly) (name : Text) (level : LogLevel) :
    (loggers.logger name).configure level = ⟨some level, [.output], false⟩ :=
  Logger.configure_eq ((h.logger_cases name).symm.imp_right Logger.Settled.handlers_eq) level

/-- The loggers after one of them has been configured. -/
theorem get?_configure (h : loggers.Orderly) (name : Text) (level : LogLevel) (other : Text) :
    Bindings.get? (loggers.configure name level) other =
      if other = canonicalName name then some ⟨some level, [.output], false⟩
      else Bindings.get? loggers other := by
  rw [Loggers.configure, h.configure_logger, Bindings.get?_set]

/-- Loggers stay orderly when one of them is configured, again or for the first time. -/
theorem configure (h : loggers.Orderly) (name : Text) (level : LogLevel) :
    (loggers.configure name level).Orderly := by
  intro other logger hlogger
  rw [h.get?_configure] at hlogger
  split at hlogger
  · cases hlogger
    exact ⟨rfl, rfl⟩
  · exact h other logger hlogger

/-- No message reaches two handlers. -/
theorem count_handlersOf_le_one (h : loggers.Orderly) (name : Text) :
    (loggers.handlersOf name).count .output ≤ 1 := by
  have hown : (loggers.logger name).handlers.count .output ≤ 1 ∧
      ((loggers.logger name).propagates = true →
        (loggers.logger name).handlers = []) := by
    rcases h.logger_cases name with hsettled | hnone
    · rw [hsettled.handlers_eq, hsettled.propagates_eq]
      exact ⟨by decide, nofun⟩
    · rw [hnone]
      exact ⟨by decide, fun _ => rfl⟩
  have hroot : (loggers.logger rootName).handlers.count .output ≤ 1 := by
    rcases h.logger_cases rootName with hsettled | hnone
    · rw [hsettled.handlers_eq]
      decide
    · rw [hnone]
      decide
  rw [handlersOf]
  split
  · next hpropagates =>
    rw [hown.2 hpropagates.1, List.nil_append]
    exact hroot
  · exact hown.1

/-- A message is written by loud loggers only. -/
theorem record_eq_nil (h : loggers.Orderly) (hquiet : ¬ loggers.IsLoud name) (message : Text) :
    loggers.record name message = [] := by
  by_cases htakes : loggers.takesDebug name = true
  · have hnone : (loggers.handlersOf name).count .output = 0 := by
      have hle := h.count_handlersOf_le_one name
      have hne : (loggers.handlersOf name).count .output ≠ 1 := fun hone => hquiet ⟨htakes, hone⟩
      omega
    rw [record_eq_flatten htakes, hnone]
    rfl
  · rw [record, if_neg htakes]

end Orderly

end Loggers

end UrlRouting
