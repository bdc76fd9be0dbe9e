import Sprout.Report
import Sprout.Scanner

set_option autoImplicit false

namespace Sprout

structure Listing where
  tokens : List Token
  diagnostics : List Diagnostic
deriving DecidableEq, Repr

def scan (source : Text) : Listing :=
  let (tokens, s) := (Scanner.ofText source).drain
  let strays := tokens.filter fun t => t.kind == .illegal
  { tokens
    diagnostics := (strays.map Diagnostic.illegalCharacter ++ s.faults).mergeSort
      fun a b => a.span.start ≤ b.span.start }

namespace Listing

def display (l : Listing) : Text :=
  (l.tokens.filter fun t => !t.isEof).flatMap fun t => t.display ++ ['\n']

def reports (l : Listing) (source : Text) (file : Option Text) : List Report :=
  let lines := source.lines
  l.diagnostics.filterMap fun d => (d.reportOn lines file).toOption

end Listing

structure Printout where
  count : Nat
  stdout : Text
  reports : List Report
deriving DecidableEq, Repr

def run (source : Text) (file : Option Text) (showTokens : Bool) : Printout :=
  let listing := scan source
  { count := listing.diagnostics.length
    stdout := if showTokens then listing.display else []
    reports := listing.reports source file }

end Sprout
