import LicenseHeaders.Event
import LicenseHeaders.License
import LicenseHeaders.Policy
import LicenseHeaders.Text.Lines
import LicenseHeaders.Text.Utf8

/-!
# Header analysis

An `Analyser` reads the first lines of a text to every license and reports the families that it
recognizes. A license that is decided reads no further line, and reading stops where all of them
are decided; `License.feed` says what one line does. Every analysis starts from licenses that
have read nothing, so no text has an effect on the next one.
-/

set_option autoImplicit false
set_option relaxedAutoImplicit false

namespace LicenseHeaders

open Text

/-- A license in the course of an analysis. -/
structure Candidate where
  license : License
  /-- Whether the license has not been decided. -/
  pending : Bool := true
deriving Repr

namespace Candidate

/-- Reads a line to a license that is not decided. -/
def feed (line : List Char) (candidate : Candidate) : Candidate :=
  if candidate.pending then
    let (verdict, license) := candidate.license.feed line
    { license, pending := verdict = .unknown }
  else candidate

/-- Reads lines to several licenses until all of them are decided. -/
def feedAll : List (List Char) → List Candidate → List Candidate
  | [], candidates => candidates
  | line :: rest, candidates =>
    let candidates := candidates.map (feed (chomp line))
    if candidates.any (·.pending) then feedAll rest candidates else candidates

/-- The family of a license that recognizes the header that is over. -/
def recognized? (candidate : Candidate) : Option Family :=
  if candidate.license.finish.1 = .holds then some candidate.license.family else none

end Candidate

/-- What is found out about a header. -/
structure Report where
  /-- What the header belongs to. -/
  source : String
  /-- The families that are recognized, in their order. -/
  families : List Family := []
  /-- Whether the first of them is approved. -/
  approved : Bool := false
deriving DecidableEq, Repr

namespace Report

/-- The family that counts: the first one that is recognized. -/
def family? (report : Report) : Option Family :=
  report.families.head?

/-- Whether any family is recognized. -/
def recognized (report : Report) : Bool :=
  !report.families.isEmpty

/-- What is told about a report. -/
def event (report : Report) : Event :=
  .headerAnalysed report.source (report.family?.map (·.category)) report.approved

end Report

/-- The number of lines that are read unless another is given. -/
def defaultWindow : Nat := 50

/-- The greatest number of lines that can be counted. -/
def maxWindow : Nat := Nat.pow 2 63 - 1

/-- Licenses and approval, with the number of lines that are read. -/
structure Analyser where
  /-- The licenses in their order, none of which has read anything. -/
  licenses : List License
  policy : Policy
  window : Nat := defaultWindow
deriving Repr

namespace Analyser

/-- The analyser of licenses that reads a number of lines, which must be positive. -/
def ofLicenses (licenses : List License) (policy : Policy) (window : Int) :
    Except Fault Analyser :=
  if window < 1 then .error (.value (.windowNotPositive window))
  else .ok { licenses := License.sort (licenses.map (·.fresh)), policy, window := window.toNat }

/-- The families that lines are recognized as. -/
def families (analyser : Analyser) (lines : List (List Char)) : List Family :=
  let candidates := analyser.licenses.map fun license ↦ { license := license.reset : Candidate }
  (Candidate.feedAll (lines.take analyser.window) candidates).filterMap Candidate.recognized?

/-- The report on lines that belong to a source. -/
def analyse (analyser : Analyser) (lines : List (List Char)) (source : String) :
    Except Fault Report :=
  if maxWindow < analyser.window then .error (.value .windowTooLarge)
  else
    let families := analyser.families lines
    let approved := analyser.policy.approvesSome (families.head?.map (·.category))
    .ok { source, families, approved }

/-- The report on a text held in memory. -/
def analyseText (analyser : Analyser) (text : List Char) (source : String) :
    Except Fault Report :=
  analyser.analyse (splitLines text) source

/-- The report on the content of a file. Bytes that are no character are replaced. -/
def analyseBytes (analyser : Analyser) (bytes : Bytes) (source : String) :
    Except Fault Report :=
  analyser.analyse (fileLines (decodeUtf8Lossy bytes)) source

end Analyser

end LicenseHeaders
