import SyntaxPlayground.Text.Quoted

/-!
# Failures

Why a command could not be carried out by the compiler behind it. A failure keeps its cause while
words are put in front of it on its way up, so that it can still be told whether trying again may
help or whether the caller ran out of time.
-/

namespace SyntaxPlayground

namespace Text

/-- The first `limit` bytes of a text, with dots if there are more. -/
def excerpt (limit : Nat) (t : Text) : Text :=
  if t.length ≤ limit then t else t.take limit ++ utf8 "..."

/-- The first bytes of a text, with dots if there are more; `none` for a negative length. -/
def excerpt? (limit : Int) (t : Text) : Option Text :=
  if limit < 0 then none else some (t.excerpt limit.toNat)

end Text

/-- Why a caller stopped waiting. -/
inductive Interruption where
  | canceled
  | deadline
deriving DecidableEq, Repr

namespace Interruption

/-- The text shown for the interruption. -/
def message : Interruption → Text
  | canceled => utf8 "context canceled"
  | deadline => utf8 "context deadline exceeded"

end Interruption

/-- Why the compiler gave no answer. -/
inductive Failure where
  | plain (text : Text)
  /-- The service is busy; trying again may help. -/
  | transient (status : Int) (body : Text)
  | interrupted (i : Interruption)
  /-- A failure with words about what was being done. -/
  | during (doing : Text) (cause : Failure)
  /-- Two failures at once. -/
  | both (first second : Failure)
deriving DecidableEq, Repr

namespace Failure

/-- How much of a body a message shows. -/
def shownBytes : Nat := 200

/-- The text shown for the failure. -/
def message : Failure → Text
  | plain t => t
  | transient status body =>
    utf8 "retryable error (status " ++ Text.ofInt status ++ utf8 "): " ++ body.excerpt shownBytes
  | interrupted i => i.message
  | .during doing cause => doing ++ utf8 ": " ++ cause.message
  | both first second => first.message ++ [10] ++ second.message

/-- Whether trying again may help. -/
def isTransient : Failure → Bool
  | plain _ | interrupted _ => false
  | transient .. => true
  | .during _ cause => cause.isTransient
  | both first second => first.isTransient || second.isTransient

/-- Whether the caller stopped waiting for the given reason. -/
def isInterrupted (i : Interruption) : Failure → Bool
  | plain _ | transient .. => false
  | interrupted j => i == j
  | .during _ cause => cause.isInterrupted i
  | both first second => first.isInterrupted i || second.isInterrupted i

end Failure

end SyntaxPlayground
