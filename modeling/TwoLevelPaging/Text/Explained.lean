/-!
# Errors in words

An error has a name, which tells its kind, a form that adds what it carries, and a
sentence that explains it.
-/

namespace TwoLevelPaging

/-- Errors that can be shown. -/
class Explained (error : Type) where
  /-- The kind of the error. -/
  name : error → String
  /-- The kind of the error with what it carries. -/
  debug : error → String
  /-- The error in a sentence. -/
  message : error → String

end TwoLevelPaging
