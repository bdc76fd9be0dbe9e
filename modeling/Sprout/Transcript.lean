import Sprout.Report

set_option autoImplicit false

namespace Sprout

structure Transcript where
  stdout : Text := []
  reports : List Report := []
  stderr : List Text := []
deriving DecidableEq, Repr

namespace Transcript

instance : Append Transcript where
  append a b := ⟨a.stdout ++ b.stdout, a.reports ++ b.reports, a.stderr ++ b.stderr⟩

@[simp] theorem stdout_append (a b : Transcript) : (a ++ b).stdout = a.stdout ++ b.stdout := rfl

@[simp] theorem reports_append (a b : Transcript) : (a ++ b).reports = a.reports ++ b.reports := rfl

@[simp] theorem stderr_append (a b : Transcript) : (a ++ b).stderr = a.stderr ++ b.stderr := rfl

end Transcript

end Sprout
