import UrlRouting.Bindings

/-!
# Logs

Records go to loggers by name, and everybody who uses a name shares its logger.  A logger takes the
messages that its level lets through, and every handler that a record reaches writes it: those of
the logger itself and, unless they are cut off, those of the root logger, which the empty name and
`root` stand for.  Names are taken to have no dots, so that no logger stands between another one and
the root.
-/

namespace UrlRouting

/-- The levels of loggers: from which urgency on they take messages. -/
inductive LogLevel
  | debug
  | warning
  | error
  deriving Repr, DecidableEq

/-- The streams that handlers write to. -/
inductive LogStream
  | output
  | errors
  deriving Repr, DecidableEq

/-- A logger: its level, if it has one of its own, the handlers that have been added to it, by the
streams they write to, and whether its records go on to the handlers of the root logger. -/
structure Logger where
  level : Option LogLevel
  handlers : List LogStream
  propagates : Bool
  deriving Repr, DecidableEq

namespace Logger

/-- A logger that has just been made. -/
def fresh : Logger := ⟨none, [], true⟩

/-- The root logger as it is at first. -/
def root : Logger := ⟨some .warning, [], true⟩

/-- Whether a handler writes to the standard output. -/
def hasOutputHandler (logger : Logger) : Bool := logger.handlers.any (· = .output)

/-- Sets the level of a logger and sends its records to the standard output alone.  A handler is
added unless there is one. -/
def configure (logger : Logger) (level : LogLevel) : Logger :=
  let logger := { logger with level := some level, propagates := false }
  if logger.hasOutputHandler then logger
  else { logger with handlers := logger.handlers ++ [.output] }

end Logger

/-- The loggers that have been configured, by name. -/
abbrev Loggers := Bindings Logger

namespace Loggers

/-- The name of the root logger. -/
def rootName : Text := ("root" : Text)

/-- The name of a logger: no name is the root's. -/
def canonicalName (name : Text) : Text := if name = [] then rootName else name

/-- The logger with a name. -/
def logger (loggers : Loggers) (name : Text) : Logger :=
  (Bindings.get? loggers (canonicalName name)).getD
    (if canonicalName name = rootName then .root else .fresh)

/-- Configures a logger. -/
def configure (loggers : Loggers) (name : Text) (level : LogLevel) : Loggers :=
  Bindings.set loggers (canonicalName name) ((loggers.logger name).configure level)

/-- Whether a logger takes debugging messages: its level, or else that of the root logger, is the
lowest one, or there is none. -/
def takesDebug (loggers : Loggers) (name : Text) : Bool :=
  ((loggers.logger name).level.or (loggers.logger rootName).level).all (· = .debug)

/-- The handlers that a record of a logger reaches. -/
def handlersOf (loggers : Loggers) (name : Text) : List LogStream :=
  let logger := loggers.logger name
  if logger.propagates = true ∧ canonicalName name ≠ rootName then
    logger.handlers ++ (loggers.logger rootName).handlers
  else logger.handlers

/-- The line that a handler writes for a debugging message. -/
def line (name message : Text) : Text :=
  '[' :: (canonicalName name ++ ("] - [DEBUG] - " : Text) ++ message ++ ['\n'])

/-- What is written to the standard output for a debugging message to a logger: a line by each
handler that writes there. -/
def record (loggers : Loggers) (name message : Text) : Text :=
  if loggers.takesDebug name then
    ((loggers.handlersOf name).filter (· = .output)).flatMap fun _ => line name message
  else []

end Loggers

end UrlRouting
