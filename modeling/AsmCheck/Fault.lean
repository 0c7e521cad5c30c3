/-! What ends a run without an answer of its own. Everything else that can go wrong is told in words. -/

set_option autoImplicit false

namespace AsmCheck

inductive Fault where
  | notUtf8
  | numeral
  | tooDeep
  | unencodable
  | nulInPath
  | nameTooLong
  | homeUnknown
  | noThreshold
  | noSuchFilter
  deriving DecidableEq, Repr

end AsmCheck
