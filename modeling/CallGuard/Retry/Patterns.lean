/-
Patterns that mark a failure as not worth another try: one of them occurs in
the failure's whole chain of texts, letter case apart.
-/
import CallGuard.Failure
import CallGuard.Text.Lowercase

namespace CallGuard.Retry

/-- Whether a failure matches one of the patterns. Case is removed from each
side by itself. -/
def isFinal (patterns : List String) (f : Failure) : Bool :=
  let rendered := Text.lowercase f.rendered.toList
  patterns.any fun p => Text.occursIn (Text.lowercase p.toList) rendered

end CallGuard.Retry
