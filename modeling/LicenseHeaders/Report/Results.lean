import LicenseHeaders.Analysis
import LicenseHeaders.Engine
import LicenseHeaders.Report.Record
import LicenseHeaders.Report.Table

/-!
# Written results

The reports on files and the loaded licenses, as records and as tables.
-/

set_option autoImplicit false
set_option relaxedAutoImplicit false

namespace LicenseHeaders

namespace Report

/-- The record of a report. -/
def record (report : Report) : Datum :=
  .record
    [("file", .text report.source),
     ("family", .ofOption (report.family?.map (·.category))),
     ("family_name", .ofOption (report.family?.map (·.name))),
     ("matched", .list (report.families.map fun family ↦ .text family.category)),
     ("approved", .truth report.approved)]

/-- The records of reports. -/
def records (indentation : Option Nat) (reports : List Report) : String :=
  Datum.write indentation (.list (reports.map record))

/-- The columns of the table of reports. -/
def columns : List Column :=
  [{ title := "File" }, { title := "Family" }, { title := "Approved", isCentred := true }]

/-- The row of a report. -/
def row (report : Report) : List String :=
  [report.source, (report.family?.map (·.text)).getD "?",
   if report.approved then "✅ yes" else "❌ no"]

/-- What the reports amount to. -/
def summary (reports : List Report) : String :=
  let refused := (reports.filter (!·.approved)).length
  if refused = 0 then s!"{reports.length}/{reports.length} file(s) approved."
  else s!"{refused}/{reports.length} file(s) not approved."

/-- The table of reports with what they amount to below it. -/
def table (reports : List Report) : String :=
  tableText columns (reports.map row) ++ "\n" ++ summary reports

end Report

namespace Engine

/-- Whether a license is approved. -/
def approves (engine : Engine) (license : License) : Bool :=
  engine.policy.approves license.id

/-- The record of a license. -/
def record (engine : Engine) (license : License) : Datum :=
  .record
    [("id", .text license.id),
     ("name", .text license.family.name),
     ("derived_from", .ofOption license.derivedFrom),
     ("notes", .ofOption license.notes),
     ("approved", .truth (engine.approves license))]

/-- The records of the licenses. -/
def records (engine : Engine) : String :=
  Datum.write (some 2) (.list (engine.licenses.map engine.record))

/-- The columns of the table of licenses. -/
def columns : List Column :=
  [{ title := "ID" }, { title := "Name" }, { title := "Derived from" },
   { title := "Approved", isCentred := true }]

/-- The row of a license. -/
def row (engine : Engine) (license : License) : List String :=
  [license.id, license.family.name, license.derivedFrom.getD "",
   if engine.approves license then "yes" else "no"]

/-- The table of the licenses. -/
def table (engine : Engine) : String :=
  tableText columns (engine.licenses.map engine.row)

end Engine

end LicenseHeaders
