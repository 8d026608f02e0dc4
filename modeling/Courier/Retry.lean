import Courier.Error

/-!
# Retry policy

How often a failed attempt is repeated and how long to wait before it.  The delay doubles with each
attempt, a server may ask for another one, and neither exceeds the cap.  All amounts are 32-bit
words; the doubling saturates instead of wrapping.
-/

namespace Courier

/-- How failed attempts are repeated; delays are in milliseconds. -/
structure RetryPolicy where
  maxRetries : UInt32
  minDelay : UInt32
  maxDelay : UInt32
  deriving DecidableEq, Repr, Inhabited

/-- What follows a failed attempt. -/
inductive Decision where
  | retry (delay : UInt32)
  | fail
  deriving DecidableEq, Repr

namespace RetryPolicy

/-- No attempt is repeated. -/
def disabled : RetryPolicy := ⟨0, 0, 0⟩

/-- The greatest word. -/
def maxWord : UInt32 := 4294967295

/-- The power of two of a word's bit; beyond the word, the greatest word. -/
def doubling (attempt : UInt32) : UInt32 :=
  if attempt < 32 then (1 : UInt32) <<< attempt else maxWord

/-- The product, or the greatest word if it does not fit. -/
def saturatingMul (a b : UInt32) : UInt32 :=
  if a.toNat * b.toNat < 4294967296 then a * b else maxWord

/-- The upper bound of a delay; it is never below the least delay. -/
def cap (p : RetryPolicy) : UInt32 := max p.maxDelay p.minDelay

/-- The delay after an attempt, counted from zero.  A delay that the server asks for takes the place
of the doubled one. -/
def backoff (p : RetryPolicy) (attempt : UInt32) (hint : Option UInt32) : UInt32 :=
  let doubled := if p.minDelay = 0 then 0 else saturatingMul p.minDelay (doubling attempt)
  min (hint.getD doubled) p.cap

/-- Whether to repeat a request after an attempt, counted from zero, that failed. -/
def decide (p : RetryPolicy) (e : Error) (attempt : UInt32) (autoRetry : Bool) : Decision :=
  if autoRetry && e.retryable && attempt < p.maxRetries then
    .retry (p.backoff attempt e.retryAfter?)
  else .fail

end RetryPolicy

end Courier
