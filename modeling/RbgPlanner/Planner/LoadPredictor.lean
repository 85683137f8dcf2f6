import RbgPlanner.Base.PyFloat

/-!
# Load predictors

Each predictor keeps the recent values of one series. The forecasting
libraries are a parameter; when one raises, the predictor falls back to the
last value.
-/

namespace RbgPlanner.Planner

open Base

/-- The forecasting libraries: `pmdarima.auto_arima` on a buffer, and Prophet
on stamped values with the stamp to forecast. -/
structure Forecasters where
  autoArima : List PyFloat → Except PyExc PyFloat
  prophet : List (ℤ × PyFloat) → ℤ → Except PyExc PyFloat

/-- Forecasting libraries that always raise. -/
def Forecasters.failing : Forecasters where
  autoArima := fun _ => .error .valueError
  prophet := fun _ _ => .error .valueError

/-- `xs[k:]` for a possibly negative `k`. -/
def sliceFrom {α : Type} (k : ℤ) (xs : List α) : List α :=
  if k < 0 then xs.drop (xs.length + k).toNat else xs.drop k.toNat

/-- `len(buffer) > window` keeps `buffer[-window:]`. -/
def trimWindow {α : Type} (window : ℤ) (buffer : List α) : List α :=
  if window < buffer.length then sliceFrom (-window) buffer else buffer

/-- A load predictor with its buffer. Prophet stamps its entries in seconds
from its start date. -/
inductive LoadPredictor
  | constant (buffer : List PyFloat)
  | arima (windowSize : ℤ) (buffer : List PyFloat)
  | prophet (windowSize : ℤ) (buffer : List (ℤ × PyFloat)) (currStep : ℤ)
  deriving DecidableEq, Repr

namespace LoadPredictor

/-- `LOAD_PREDICTORS[name](window_size=windowSize)`. -/
def create (name : String) (windowSize : ℤ) : Except PyExc LoadPredictor :=
  if name = "constant" then .ok (.constant [])
  else if name = "arima" then .ok (.arima windowSize [])
  else if name = "prophet" then .ok (.prophet windowSize [] 0)
  else .error .keyError

/-- The buffered values, oldest first. -/
def values : LoadPredictor → List PyFloat
  | constant buffer => buffer
  | arima _ buffer => buffer
  | prophet _ buffer _ => buffer.map Prod.snd

/-- NaN counts as zero. -/
def cleanValue (value : PyFloat) : PyFloat := if value.isNan then .fin 0 else value

/-- `BasePredictor.add_data_point` on the buffer: leading zeros are dropped. -/
def appendValue (buffer : List PyFloat) (value : PyFloat) : List PyFloat :=
  let value := cleanValue value
  if buffer.isEmpty && value == .fin 0 then buffer else buffer ++ [value]

def addDataPoint : LoadPredictor → PyFloat → LoadPredictor
  | constant buffer, value => .constant (appendValue buffer value)
  | arima windowSize buffer, value =>
      .arima windowSize (trimWindow windowSize (appendValue buffer value))
  | prophet windowSize buffer currStep, value =>
      let value := cleanValue value
      if buffer.isEmpty && value == .fin 0 then .prophet windowSize buffer currStep
      else .prophet windowSize (trimWindow windowSize (buffer ++ [(currStep, value)]))
        (currStep + 1)

def getLastValue (self : LoadPredictor) : PyFloat := self.values.getLastD (.fin 0)

/-- `minimum_data_points` of the predictors that fit a model. -/
def minimumDataPoints : ℕ := 5

def predictNext (forecasters : Forecasters) (self : LoadPredictor) : PyFloat :=
  match self with
  | constant _ => self.getLastValue
  | arima _ buffer =>
      if buffer.length < minimumDataPoints then self.getLastValue
      else if buffer.dedup.length = 1 then buffer.headD (.fin 0)
      else match forecasters.autoArima buffer with
        | .ok forecast => forecast
        | .error _ => self.getLastValue
  | prophet _ buffer currStep =>
      if buffer.length < minimumDataPoints then self.getLastValue
      else match forecasters.prophet buffer currStep with
        | .ok forecast => forecast
        | .error _ => self.getLastValue

end LoadPredictor

end RbgPlanner.Planner
